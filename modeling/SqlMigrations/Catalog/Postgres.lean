import SqlMigrations.Catalog.Inspection
import SqlMigrations.Schema.Keys
import SqlMigrations.Schema.SizedType

namespace SqlMigrations.Catalog.Postgres

open SqlMigrations.Schema

structure ColumnRow where
  name : Option String
  type : Option String
  comment : Option String
  key : Option String
  deriving Repr, DecidableEq

/-- A column row without null cells. -/
structure ColumnFacts where
  name : String
  type : String
  comment : String
  key : String
  deriving Repr, DecidableEq

structure IndexRow where
  name : Option String
  columns : Option (List String)
  primary : Option Bool
  unique : Option Bool
  deriving Repr, DecidableEq

/-- What the database replies to every request, and which connection the pool hands out. -/
structure Replies where
  acquired : Reply Nat := .ok 0
  statement : String → Reply Unit
  tables : Reply (List (Option String × Option String))
  tableComment : String → Reply (Option (Option String))
  columns : String → Reply (List ColumnRow)
  indexes : String → Reply (List IndexRow)
  enumLabels : String → Reply (List (Option String))
  temporaryColumns : String → Reply (List (Option String × Option String))

def requireCell {α : Type} (column : Nat) : Option α → Reply α
  | some value => .ok value
  | none => .error (.unexpectedNull column)

def ColumnRow.read (row : ColumnRow) : Reply ColumnFacts := do
  let name ← requireText 0 row.name
  let type ← requireText 1 row.type
  let comment ← requireText 2 row.comment
  let key ← requireText 3 row.key
  return ⟨name, type, comment, key⟩

def readTableRow (row : Option String × Option String) : Reply Table := do
  let name ← requireText 0 row.1
  let comment ← requireText 1 row.2
  return Table.named name comment

def IndexRow.read (row : IndexRow) : Reply Index := do
  let name ← requireText 0 row.name
  let columns ← requireCell 1 row.columns
  let primary ← requireCell 2 row.primary
  let unique ← requireCell 3 row.unique
  return ⟨name, columns, primary, unique⟩

def readViewRow (row : Option String × Option String) : Reply (String × String) := do
  let name ← requireText 0 row.1
  let type ← requireText 1 row.2
  return (name, type)

/-- The column of a row with the labels of its type, before it is classified. -/
def columnOf (facts : ColumnFacts) (labels : List String) : Column where
  name := facts.name
  type := facts.type
  dataType := facts.type
  canonicalType := .unknown
  key := .read facts.key
  comment := facts.comment
  size := (splitPostgresWidth facts.type).2
  values := labels

/-- The labels of a type; a lookup that fails finds none. -/
def readLabels (replies : Replies) (type : String) : Inspection (List String) :=
  Inspection.lookUp .pooled (.enumLabels type) []
    ((replies.enumLabels type).bind (fun rows => rows.mapM (requireText 0)))

/-- The column of a row, with its labels, classified. -/
def readColumn (replies : Replies) (facts : ColumnFacts) : Inspection Column := do
  let labels ← readLabels replies facts.type
  return (columnOf facts labels).normalized

/-- The comment of a table; a lookup that fails finds none. -/
def tableComment (replies : Replies) (table : String) : Inspection String := do
  let row ← Inspection.lookUp .pooled (.tableComment table) none
    (replies.tableComment table)
  return (row.join).getD ""

def tableIndexes (replies : Replies) (table : String) : Inspection (List Index) :=
  Inspection.ask .pooled (.indexes table) ("get indexes for table " ++ table)
    ((replies.indexes table).bind (fun rows => rows.mapM IndexRow.read))

def describeTable (replies : Replies) (table : String) : Inspection Table := do
  let comment ← tableComment replies table
  let rows ← Inspection.ask .pooled (.columns table) ("get columns for table " ++ table)
    ((replies.columns table).bind (fun rows => rows.mapM ColumnRow.read))
  if rows.isEmpty then
    Inspection.fail (.tableNotFound table)
  else
    let columns ← Inspection.each (readColumn replies) rows
    let indexes ← tableIndexes replies table
    return ⟨table, comment, enrichKeys indexes columns, indexes⟩

/-- The tables by name, with their comments. -/
def listTables (replies : Replies) : Inspection (List Table) :=
  Inspection.ask .pooled .tables "list tables"
    (replies.tables.bind (fun rows => rows.mapM readTableRow))

def viewColumn (row : String × String) : Column :=
  { Column.ofType row.1 row.2 with comment := title row.1 }.normalized

def viewColumns (replies : Replies) (channel : Channel) (view : String) :
    Inspection (List Column) := do
  let rows ← Inspection.ask channel (.temporaryColumns view)
    "query column metadata from information_schema"
    ((replies.temporaryColumns view).bind (fun rows => rows.mapM readViewRow))
  return rows.map viewColumn

/-- The columns of a query, read through a temporary view of the given name. -/
def describeQuery (replies : Replies) (view query : String) : Inspection (List Column) :=
  Inspection.throughTemporary replies.acquired replies.statement
    ("CREATE TEMPORARY VIEW " ++ view ++ " AS " ++ query) "create temporary view for query"
    ("DROP VIEW IF EXISTS " ++ view) (fun channel => viewColumns replies channel view)

end SqlMigrations.Catalog.Postgres
