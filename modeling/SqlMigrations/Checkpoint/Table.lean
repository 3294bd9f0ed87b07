import SqlMigrations.Checkpoint.Record
import SqlMigrations.Dialect

/-!
The checkpoint table and the queries on it. A query is given by the columns that it names; from
these follow both its text and what it does to the rows. A database compares texts by a collation,
so keys that differ as texts may be one key to it.
-/

namespace SqlMigrations

/-- Texts of one weight are equal to the database. -/
structure Collation where
  weight : String → String

namespace Collation

def exact : Collation :=
  ⟨id⟩

def Same (keys : Collation) (first second : String) : Prop :=
  keys.weight first = keys.weight second

instance (keys : Collation) (first second : String) : Decidable (keys.Same first second) :=
  inferInstanceAs (Decidable (keys.weight first = keys.weight second))

/-- Whether two projects with a file name each are one key. -/
def SameKey (keys : Collation) (first second : String × String) : Prop :=
  keys.Same first.1 second.1 ∧ keys.Same first.2 second.2

instance (keys : Collation) (first second : String × String) :
    Decidable (keys.SameKey first second) :=
  inferInstanceAs (Decidable (_ ∧ _))

def sameValue (keys : Collation) : SqlValue → SqlValue → Bool
  | .text first, .text second => decide (keys.Same first second)
  | .number first, .number second => decide (first = second)
  | _, _ => false

end Collation

/-- The rows of the checkpoint table, in no particular order. -/
structure CheckpointRows (keys : Collation) where
  entries : List Checkpoint

abbrev CheckpointTable :=
  CheckpointRows .exact

/-- A `SELECT` of columns, where each of some columns equals its parameter. -/
structure SelectQuery where
  wanted : List Checkpoint.Column
  conditions : List Checkpoint.Column

/-- What becomes of a row whose key is inserted again: some of its columns get the new values, for
which the key must be named as the target, or it makes place for the new row. -/
inductive OnConflict where
  | update (target changed : List Checkpoint.Column)
  | replace

/-- An `INSERT` of a row, with a parameter for each of its columns. -/
structure InsertQuery where
  columns : List Checkpoint.Column
  onConflict : OnConflict

section
variable {keys : Collation}

def SelectQuery.run (query : SelectQuery) (parameters : List SqlValue)
    (table : CheckpointRows keys) : List (List SqlValue) :=
  (table.entries.filter fun row => (query.conditions.zip parameters).all fun condition =>
    keys.sameValue (row.value condition.1) condition.2).map fun row => query.wanted.map row.value

def Collation.conflicts (keys : Collation) (row other : Checkpoint) : Bool :=
  Checkpoint.primaryKey.all fun column => keys.sameValue (other.value column) (row.value column)

/-- The table after an insertion, unless the database refuses it. -/
def InsertQuery.run? (query : InsertQuery) (parameters : List SqlValue)
    (table : CheckpointRows keys) : Option (CheckpointRows keys) :=
  (Checkpoint.ofValues? (query.columns.zip parameters)).bind fun row =>
    match query.onConflict with
    | .replace => some ⟨(table.entries.filter fun kept => !keys.conflicts row kept) ++ [row]⟩
    | .update target changed =>
      if target ≠ Checkpoint.primaryKey then none
      else if table.entries.any (keys.conflicts row) then
        some ⟨table.entries.map fun kept =>
          if keys.conflicts row kept then kept.take changed row else kept⟩
      else some ⟨table.entries ++ [row]⟩

end

def bootstrapSql : Dialect → String
  | .postgres =>
    "CREATE TABLE IF NOT EXISTS migrations (\n" ++
    "    project VARCHAR(128) NOT NULL,\n" ++
    "    filename VARCHAR(255) NOT NULL,\n" ++
    "    statement_index BIGINT NOT NULL,\n" ++
    "    status TEXT NOT NULL,\n" ++
    "    PRIMARY KEY (" ++ columnList Checkpoint.primaryKey ++ ")\n" ++
    ");\n"
  | .mysql =>
    "CREATE TABLE IF NOT EXISTS migrations (\n" ++
    "    project VARCHAR(128) NOT NULL,\n" ++
    "    filename VARCHAR(255) NOT NULL,\n" ++
    "    statement_index BIGINT NOT NULL,\n" ++
    "    status TEXT NOT NULL,\n" ++
    "    PRIMARY KEY (" ++ columnList Checkpoint.primaryKey ++ ")\n" ++
    ") DEFAULT CHARSET=utf8mb4;\n"
  | .sqlite =>
    "CREATE TABLE IF NOT EXISTS migrations (\n" ++
    "    project TEXT NOT NULL,\n" ++
    "    filename TEXT NOT NULL,\n" ++
    "    statement_index INTEGER NOT NULL,\n" ++
    "    status TEXT NOT NULL,\n" ++
    "    PRIMARY KEY (" ++ columnList Checkpoint.primaryKey ++ ")\n" ++
    ");\n"

/-- How a parameter is marked, by its place. -/
def placeholder (dialect : Dialect) (place : Nat) : String :=
  match dialect with
  | .postgres => "$" ++ toString place
  | .mysql | .sqlite => "?"

def SelectQuery.text (dialect : Dialect) (query : SelectQuery) : String :=
  "SELECT " ++ columnList query.wanted ++ " FROM migrations WHERE " ++
    String.intercalate " AND " ((query.conditions.zipIdx 1).map fun condition =>
      condition.1.name ++ " = " ++ placeholder dialect condition.2)

/-- The name of the row that could not be inserted. -/
def excludedRow : Dialect → String
  | .postgres => "EXCLUDED"
  | .mysql | .sqlite => "excluded"

def InsertQuery.text (dialect : Dialect) (query : InsertQuery) : String :=
  let into := " INTO migrations (" ++ columnList query.columns ++ ") VALUES (" ++
    String.intercalate ", " ((query.columns.zipIdx 1).map fun column =>
      placeholder dialect column.2) ++ ")"
  match query.onConflict with
  | .replace => "REPLACE" ++ into
  | .update target changed =>
    "INSERT" ++ into ++ " ON CONFLICT (" ++ columnList target ++ ") DO UPDATE SET " ++
      String.intercalate ", " (changed.map fun column =>
        column.name ++ " = " ++ excludedRow dialect ++ "." ++ column.name)

def loadQuery : Dialect → SelectQuery
  | .postgres | .mysql | .sqlite => ⟨[.index, .status], [.project, .filename]⟩

def loadParameters (project filename : String) : List SqlValue :=
  [.text project, .text filename]

def saveQuery : Dialect → InsertQuery
  | .postgres | .sqlite =>
    ⟨[.project, .filename, .index, .status], .update [.project, .filename] [.index, .status]⟩
  | .mysql => ⟨[.project, .filename, .index, .status], .replace⟩

def saveParameters (checkpoint : Checkpoint) : List SqlValue :=
  [.text checkpoint.project, .text checkpoint.filename, .number checkpoint.index,
    .text checkpoint.status]

/-- An index and a status, as the query for a checkpoint yields them. -/
def readProgress? : List SqlValue → Option (Int × String)
  | [.number index, .text status] => some (index, status)
  | _ => none

example : (loadQuery .postgres).text .postgres =
    "SELECT statement_index, status FROM migrations WHERE project = $1 AND filename = $2" := by
  decide +kernel

example : (saveQuery .postgres).text .postgres =
    "INSERT INTO migrations (project, filename, statement_index, status) " ++
    "VALUES ($1, $2, $3, $4) ON CONFLICT (project, filename) DO UPDATE " ++
    "SET statement_index = EXCLUDED.statement_index, status = EXCLUDED.status" := by
  decide +kernel

example : (saveQuery .sqlite).text .sqlite =
    "INSERT INTO migrations (project, filename, statement_index, status) " ++
    "VALUES (?, ?, ?, ?) ON CONFLICT (project, filename) DO UPDATE " ++
    "SET statement_index = excluded.statement_index, status = excluded.status" := by
  decide +kernel

example : (saveQuery .mysql).text .mysql =
    "REPLACE INTO migrations (project, filename, statement_index, status) VALUES (?, ?, ?, ?)" := by
  decide +kernel

namespace CheckpointRows

variable {keys : Collation}

def empty : CheckpointRows keys :=
  ⟨[]⟩

def row? (table : CheckpointRows keys) (project filename : String) : Option Checkpoint :=
  table.entries.find? fun row => decide (keys.SameKey row.key (project, filename))

/-- The index and the status that a database finds for a file. -/
def load (dialect : Dialect) (table : CheckpointRows keys) (project filename : String) :
    Option (Int × String) :=
  ((loadQuery dialect).run (loadParameters project filename) table).head?.bind readProgress?

def save (dialect : Dialect) (table : CheckpointRows keys) (checkpoint : Checkpoint) :
    CheckpointRows keys :=
  ((saveQuery dialect).run? (saveParameters checkpoint) table).getD table

/-- The rows, in order of project and file name. -/
def rows (table : CheckpointRows keys) : List Checkpoint :=
  table.entries.mergeSort fun row other =>
    decide (row.project < other.project ∨
      row.project = other.project ∧ row.filename ≤ other.filename)

end CheckpointRows

end SqlMigrations
