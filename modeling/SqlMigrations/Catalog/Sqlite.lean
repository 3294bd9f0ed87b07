import SqlMigrations.Catalog.CheckClause
import SqlMigrations.Catalog.Inspection
import SqlMigrations.Schema.Keys

/-!
Reading the catalog of a SQLite database. It has no comments and no enumerations: comments are
titles of the names, and labels come from the check clauses of the stored definition. A primary key
without an index of its own gets one.
-/

namespace SqlMigrations.Catalog.Sqlite

open SqlMigrations.Schema

/-- A row of the column pragma; `keyPosition` counts the primary key columns from one. -/
structure TableInfo where
  name : String
  type : String
  keyPosition : Int
  deriving Repr, DecidableEq

/-- A row of the index pragma. -/
structure IndexEntry where
  name : String
  unique : Int
  origin : String
  deriving Repr, DecidableEq

/-- What the database replies to every request, and which connection the pool hands out. -/
structure Replies where
  acquired : Reply Nat := .ok 0
  statement : String → Reply Unit
  tables : Reply (List String)
  tableInfo : String → Reply (List TableInfo)
  indexList : String → Reply (List IndexEntry)
  indexInfo : String → Reply (List (Option String))
  createText : String → Reply (Option String)

/-- The name that other engines give to a type. -/
def dataTypeOf (type : String) : String :=
  match Text.lowered type with
  | "integer" => "bigint"
  | "real" => "double"
  | other => other

/-- The column of a row, before its type is classified. -/
def columnOf (row : TableInfo) : Column where
  name := row.name
  type := row.type
  dataType := dataTypeOf row.type
  canonicalType := .unknown
  key := if row.keyPosition > 0 then .primary else .none
  comment := title row.name
  size := (splitSize row.type).2
  values := []

/-- The column with the labels of its first check clause, classified. -/
def withChecks (clauses : List (String × String)) (column : Column) : Column :=
  match clausesOf column.name clauses with
  | clause :: _ => { column with values := labelsOfCheck clause }.normalized
  | [] => column.normalized

/-- The index of an entry whose columns were read; expressions have no column. -/
def indexOf (entry : IndexEntry) (columns : List (Option String)) : Index where
  name := entry.name
  columns := columns.filterMap id
  primary := entry.origin == "pk"
  unique := entry.unique == 1

/-- Whether a primary key column stands before another one. -/
def TableInfo.keyBefore (left right : TableInfo) : Bool :=
  left.keyPosition < right.keyPosition ||
    (left.keyPosition == right.keyPosition && decide (left.name ≤ right.name))

def keyColumns (rows : List TableInfo) : List String :=
  ((rows.filter (fun row => decide (row.keyPosition > 0))).mergeSort TableInfo.keyBefore).map
    TableInfo.name

def keyIndexes (rows : List TableInfo) : List Index :=
  match keyColumns rows with
  | [] => []
  | columns => [⟨"", columns, true, true⟩]

/-- The index of an entry, or nothing if its columns cannot be read. -/
def readIndex (replies : Replies) (entry : IndexEntry) : Inspection (Option Index) := do
  match ← Inspection.attempt .pooled (.indexInfo entry.name) (replies.indexInfo entry.name) with
  | .ok columns => return some (indexOf entry columns)
  | .error _ => return none

def tableIndexes (replies : Replies) (table : String) : Inspection (List Index) := do
  let entries ← Inspection.ask .pooled (.indexList table)
    ("get indexes for table " ++ table) (replies.indexList table)
  let read ← Inspection.each (readIndex replies) entries
  let indexes := read.filterMap id
  if indexes.any Index.primary then
    return indexes
  else
    let rows ← Inspection.lookUp .pooled (.tableInfo table) [] (replies.tableInfo table)
    return indexes ++ keyIndexes rows

/-- The check clauses of a table; a definition that cannot be read has none. -/
def readClauses (replies : Replies) (table : String) : Inspection (List (String × String)) := do
  let definition ← Inspection.lookUp .pooled (.createText table) none (replies.createText table)
  return (definition.map checkClauses).getD []

def describeTable (replies : Replies) (table : String) : Inspection Table := do
  let rows ← Inspection.ask .pooled (.tableInfo table) ("query table info for " ++ table)
    (replies.tableInfo table)
  if rows.isEmpty then
    Inspection.fail (.tableNotFound table)
  else
    let clauses ← readClauses replies table
    let indexes ← tableIndexes replies table
    let columns := rows.map (fun row => withChecks clauses (columnOf row))
    return ⟨table, "", enrichKeys indexes columns, indexes⟩

def listTables (replies : Replies) : Inspection (List Table) := do
  let names ← Inspection.ask .pooled .tables "list tables" replies.tables
  return names.map (fun name => Table.named name "")

def viewColumns (replies : Replies) (channel : Channel) (view : String) :
    Inspection (List Column) := do
  let rows ← Inspection.ask channel (.temporaryColumns view)
    "query column metadata with PRAGMA table_info" (replies.tableInfo view)
  return rows.map (fun row => (columnOf row).normalized)

/-- The columns of a query, read through a temporary view of the given name. -/
def describeQuery (replies : Replies) (view query : String) : Inspection (List Column) :=
  Inspection.throughTemporary replies.acquired replies.statement
    ("CREATE TEMPORARY VIEW " ++ view ++ " AS " ++ query) "create temporary view for query"
    ("DROP VIEW IF EXISTS " ++ view) (fun channel => viewColumns replies channel view)

end SqlMigrations.Catalog.Sqlite
