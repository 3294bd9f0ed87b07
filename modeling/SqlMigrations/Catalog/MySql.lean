import SqlMigrations.Catalog.Inspection
import SqlMigrations.Schema.EnumType
import SqlMigrations.Schema.Keys
import SqlMigrations.Text.Utf8

/-!
Reading the catalog of a MySQL database. Types lose their sizes and labels, which the column holds
apart. A query is described through a temporary table, whose columns are completed from the
information schema where that can be read.
-/

namespace SqlMigrations.Catalog.MySql

open SqlMigrations.Schema

structure ColumnRow where
  name : Option String
  type : Option String
  key : Option String
  comment : Option String
  dataType : Option String
  deriving Repr, DecidableEq

/-- A column row without null cells. -/
structure ColumnFacts where
  name : String
  type : String
  key : String
  comment : String
  dataType : String
  deriving Repr, DecidableEq

structure IndexRow where
  name : Option String
  columns : Option String
  nonUnique : Option Int
  deriving Repr, DecidableEq

inductive Cell where
  | null
  | text (value : String)
  | bytes (value : List UInt8)
  deriving Repr, DecidableEq

/-- The text of a cell; null reads as no text. -/
def Cell.read : Cell → String
  | .null => ""
  | .text value => value
  | .bytes value => String.ofList (Text.Utf8.decodeLenient value)

/-- A row of the description of a temporary table. -/
structure DescribeRow where
  field : Cell
  type : Cell
  key : Cell
  deriving Repr, DecidableEq

/-- What the database replies to every request, and which connection the pool hands out. -/
structure Replies where
  acquired : Reply Nat := .ok 0
  statement : String → Reply Unit
  tables : Reply (List (Option String × Option String))
  tableComment : String → Reply (Option (Option String))
  columns : String → Reply (List ColumnRow)
  indexes : String → Reply (List IndexRow)
  temporaryColumns : String → Reply (List DescribeRow)
  temporaryInfo : String → Reply (List ColumnRow)

def ColumnRow.read (row : ColumnRow) : Reply ColumnFacts := do
  let name ← requireText 0 row.name
  let type ← requireText 1 row.type
  let key ← requireText 2 row.key
  let comment ← requireText 3 row.comment
  let dataType ← requireText 4 row.dataType
  return ⟨name, type, key, comment, dataType⟩

def readTableRow (row : Option String × Option String) : Reply Table := do
  let name ← requireText 0 row.1
  let comment ← requireText 1 row.2
  return Table.named name comment

def IndexRow.read (row : IndexRow) : Reply Index := do
  let name ← requireText 0 row.name
  let columns ← requireText 1 row.columns
  match row.nonUnique with
  | none => throw (.unexpectedNull 2)
  | some nonUnique =>
    return ⟨name, (Text.splitAll ',' columns.toList).map String.ofList, name == "PRIMARY",
      nonUnique == 0⟩

def mentionsEnum (type : String) : Bool :=
  Text.occursIn "enum".toList (Text.lower type.toList)

/-- The column of a row, before its type is classified. -/
def columnOf (facts : ColumnFacts) : Column :=
  let plain : Column :=
    ⟨facts.name, "", facts.dataType, .unknown, .read facts.key, facts.comment, 0, []⟩
  if mentionsEnum facts.type then
    { plain with type := "enum", values := enumLabels facts.type }
  else
    { plain with type := (splitSize facts.type).1, size := (splitSize facts.type).2 }

def tableIndexes (replies : Replies) (table : String) : Inspection (List Index) :=
  Inspection.ask .pooled (.indexes table) ("get indexes for table " ++ table)
    ((replies.indexes table).bind (fun rows => rows.mapM IndexRow.read))

/-- The comment of a table, which must exist. -/
def tableComment (replies : Replies) (table : String) : Inspection String := do
  let comment ← Inspection.ask .pooled (.tableComment table)
    ("get table comment for " ++ table)
    ((replies.tableComment table).bind (fun row => row.mapM (requireText 0)))
  match comment with
  | some text => return text
  | none => Inspection.fail (.tableNotFound table)

def describeTable (replies : Replies) (table : String) : Inspection Table := do
  let comment ← tableComment replies table
  let rows ← Inspection.ask .pooled (.columns table) ("get columns for table " ++ table)
    ((replies.columns table).bind (fun rows => rows.mapM ColumnRow.read))
  let indexes ← tableIndexes replies table
  let columns := rows.map (fun facts => (columnOf facts).normalized)
  return ⟨table, comment, enrichKeys indexes columns, indexes⟩

/-- The tables by name, with their comments. -/
def listTables (replies : Replies) : Inspection (List Table) :=
  Inspection.ask .pooled .tables "list tables"
    (replies.tables.bind (fun rows => rows.mapM readTableRow))

def describedColumn (row : DescribeRow) : Column :=
  { Column.ofType row.field.read row.type.read with key := .read row.key.read }

/-- The column with what the information schema adds: a key or a comment that it lacks, and the
data type. -/
def completeColumn (facts : List ColumnFacts) (column : Column) : Column :=
  match facts.reverse.find? (fun fact => fact.name == column.name) with
  | none => column
  | some fact =>
    { column with
      key := if column.key = .none then .read fact.key else column.key
      comment := if column.comment.isEmpty then fact.comment else column.comment
      dataType := if fact.dataType.isEmpty then column.dataType else fact.dataType }

def tableColumns (replies : Replies) (channel : Channel) (object : String) :
    Inspection (List Column) := do
  let rows ← Inspection.ask channel (.temporaryColumns object) "describe temporary table"
    (replies.temporaryColumns object)
  let facts ← Inspection.lookUp channel (.temporaryInfo object) []
    ((replies.temporaryInfo object).bind (fun rows => rows.mapM ColumnRow.read))
  return rows.map (fun row => (completeColumn facts (describedColumn row)).normalized)

/-- The columns of a query, read through a temporary table of the given name. -/
def describeQuery (replies : Replies) (object query : String) : Inspection (List Column) :=
  Inspection.throughTemporary replies.acquired replies.statement
    ("CREATE TEMPORARY TABLE `" ++ object ++ "` AS " ++ query ++ " LIMIT 0")
    "create temporary table for query" ("DROP TEMPORARY TABLE IF EXISTS `" ++ object ++ "`")
    (fun channel => tableColumns replies channel object)

end SqlMigrations.Catalog.MySql
