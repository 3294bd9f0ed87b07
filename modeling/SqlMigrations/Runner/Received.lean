import SqlMigrations.Catalog.Inspection
import SqlMigrations.Lock.Advisory
import SqlMigrations.Runner.Scripted

/-!
What a server receives for commands and for catalog requests: statements as text, and prepared
queries with their parameters. PostgreSQL locks by the hash of a key and MySQL by its name, with a
time limit in seconds.
-/

namespace SqlMigrations

inductive Received where
  | statement (sql : String)
  | query (name : String) (params : Option (List String))
  deriving Repr, DecidableEq

/-- A query with what is bound to its parameters. -/
structure Prepared where
  text : String
  parameters : List SqlValue
  deriving Repr, DecidableEq

def acquireQuery (dialect : Dialect) (key : String) : Prepared :=
  match dialect with
  | .mysql => ⟨"SELECT GET_LOCK(?, ?)", [.text (Lock.mysqlName key), .number 30]⟩
  | .postgres | .sqlite =>
    ⟨"SELECT pg_advisory_xact_lock($1)", [.number (Lock.hashKey key).toInt]⟩

/-- The query that a command sends, with the name that it is recorded by. -/
def Command.prepared? (dialect : Dialect) : Command → Option (String × Prepared)
  | .lock key => some ("lock", acquireQuery dialect key)
  | .unlock key => some ("unlock", ⟨"SELECT RELEASE_LOCK(?)", [.text (Lock.mysqlName key)]⟩)
  | .load project filename =>
    some ("load", ⟨(loadQuery dialect).text dialect, loadParameters project filename⟩)
  | .save checkpoint =>
    some ("save", ⟨(saveQuery dialect).text dialect, saveParameters checkpoint⟩)
  | _ => none

/-- What a server receives for a command, if anything. -/
def Command.received (dialect : Dialect) : Command → Option Received
  | .connect | .close => none
  | .statement sql => some (.statement sql)
  | .savepoint move => some (.statement move.text)
  | .begin => some (.statement (beginText dialect))
  | .commit => some (.statement "COMMIT")
  | .rollback => some (.statement "ROLLBACK")
  | command =>
    (command.prepared? dialect).map fun (name, query) =>
      .query name (some (query.parameters.map SqlValue.shown))

/-- The name of the query for the columns of a temporary object. -/
def temporaryQuery (dialect : Dialect) : String :=
  match dialect with
  | .mysql => "describe"
  | .postgres | .sqlite => "view"

def Catalog.Request.received (dialect : Dialect) : Catalog.Request → Received
  | .statement sql => .statement sql
  | .tables => .query "tables" (some [])
  | .tableComment table => .query "comments" (some [table])
  | .columns table => .query "columns" (some [table])
  | .indexes table => .query "indexes" (some [table])
  | .enumLabels type => .query "enums" (some [type])
  | .temporaryColumns _ => .query (temporaryQuery dialect) none
  | .temporaryInfo _ => .query "info" none
  | .tableInfo table => .query "table_info" (some [table])
  | .indexList table => .query "index_list" (some [table])
  | .indexInfo index => .query "index_info" (some [index])
  | .createText table => .query "create" (some [table])

end SqlMigrations
