import SqlMigrations.Schema.Title
import SqlMigrations.Text.Blank

namespace SqlMigrations.Schema

/-- The type of a column as far as all dialects agree. -/
inductive CanonicalType where
  | integer
  | text
  | decimal
  | boolean
  | date
  | timestamp
  | enum
  | blob
  | unknown
  deriving Repr, DecidableEq

def CanonicalType.all : List CanonicalType :=
  [.integer, .text, .decimal, .boolean, .date, .timestamp, .enum, .blob, .unknown]

def CanonicalType.name : CanonicalType → String
  | .integer => "integer"
  | .text => "text"
  | .decimal => "decimal"
  | .boolean => "boolean"
  | .date => "date"
  | .timestamp => "timestamp"
  | .enum => "enum"
  | .blob => "blob"
  | .unknown => "unknown"

inductive ColumnKey where
  | none
  | primary
  | unique
  | multiple
  deriving Repr, DecidableEq

def ColumnKey.all : List ColumnKey :=
  [.none, .primary, .unique, .multiple]

/-- The catalog's spelling of a key marker. -/
def ColumnKey.name : ColumnKey → String
  | .none => ""
  | .primary => "PRI"
  | .unique => "UNI"
  | .multiple => "MUL"

/-- The key marker of a catalog text, in any case and with blanks around it. -/
def ColumnKey.read (text : String) : ColumnKey :=
  match String.ofList (Text.upper (Text.trim text.toList)) with
  | "PRI" => .primary
  | "UNI" => .unique
  | "MUL" => .multiple
  | _ => .none

/-- A column of a table or of a query result. -/
structure Column where
  name : String
  type : String
  dataType : String
  canonicalType : CanonicalType
  key : ColumnKey
  comment : String
  size : UInt32
  values : List String
  deriving Repr, DecidableEq

/-- A column that only has a name and a type, which is also its data type. -/
def Column.ofType (name type : String) : Column :=
  ⟨name, type, type, .unknown, .none, "", 0, []⟩

def Column.isPrimary (column : Column) : Bool :=
  column.key == .primary

/-- An index over columns, in key order. -/
structure Index where
  name : String
  columns : List String
  primary : Bool
  unique : Bool
  deriving Repr, DecidableEq

def Index.plain (name : String) (columns : List String) : Index :=
  ⟨name, columns, false, false⟩

/-- The index as a primary key, which is unique too. -/
def Index.asPrimary (index : Index) : Index :=
  { index with primary := true, unique := true }

def Index.asUnique (index : Index) : Index :=
  { index with unique := true }

structure Table where
  name : String
  comment : String
  columns : List Column
  indexes : List Index
  deriving Repr, DecidableEq

def Table.named (name comment : String) : Table :=
  ⟨name, comment, [], []⟩

def Table.isIgnored (table : Table) : Bool :=
  Text.lower (Text.trim table.comment.toList) == "ignore".toList

def Table.primaryIndex? (table : Table) : Option Index :=
  table.indexes.find? Index.primary

def Table.column? (table : Table) (name : String) : Option Column :=
  table.columns.find? (fun column => column.name == name)

end SqlMigrations.Schema
