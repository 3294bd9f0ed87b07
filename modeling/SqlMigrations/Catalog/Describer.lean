import SqlMigrations.Catalog.MySql
import SqlMigrations.Catalog.Postgres
import SqlMigrations.Catalog.Sqlite

namespace SqlMigrations.Catalog

open SqlMigrations.Schema

/-- An open connection to a catalog, by what it replies. -/
inductive Connection where
  | postgres (replies : Postgres.Replies)
  | mysql (replies : MySql.Replies)
  | sqlite (replies : Sqlite.Replies)

def Connection.dialect : Connection → Dialect
  | .postgres _ => .postgres
  | .mysql _ => .mysql
  | .sqlite _ => .sqlite

def describerOf (name : String) : Except CatalogError Dialect :=
  match Dialect.ofName? name with
  | some dialect => .ok dialect
  | none => .error (.unknownDialect name)

def readWith {α : Type} (describer : Dialect) (connection : Connection)
    (postgres : Postgres.Replies → Inspection α) (mysql : MySql.Replies → Inspection α)
    (sqlite : Sqlite.Replies → Inspection α) : Inspection α :=
  match describer, connection with
  | .postgres, .postgres replies => postgres replies
  | .mysql, .mysql replies => mysql replies
  | .sqlite, .sqlite replies => sqlite replies
  | _, _ => Inspection.fail (.dialectMismatch describer connection.dialect)

def listTables (describer : Dialect) (connection : Connection) : Inspection (List Table) :=
  readWith describer connection Postgres.listTables MySql.listTables Sqlite.listTables

/-- A table with its columns and indexes. -/
def describeTable (describer : Dialect) (connection : Connection) (table : String) :
    Inspection Table :=
  readWith describer connection (fun replies => Postgres.describeTable replies table)
    (fun replies => MySql.describeTable replies table)
    (fun replies => Sqlite.describeTable replies table)

def tableIndexes (describer : Dialect) (connection : Connection) (table : String) :
    Inspection (List Index) :=
  readWith describer connection (fun replies => Postgres.tableIndexes replies table)
    (fun replies => MySql.tableIndexes replies table)
    (fun replies => Sqlite.tableIndexes replies table)

/-- The name of the temporary object that is made for a query; `stamp` tells objects apart. -/
def temporaryName (describer : Dialect) (stamp : Nat) : String :=
  match describer with
  | .mysql => "mig_temp_tbl_" ++ toString stamp
  | .postgres | .sqlite => "mig_temp_view_" ++ toString stamp

def describeQuery (describer : Dialect) (connection : Connection) (stamp : Nat) (query : String) :
    Inspection (List Column) :=
  let trimmed := Text.trimmed query
  let object := temporaryName describer stamp
  if trimmed.isEmpty then Inspection.fail .emptyQuery
  else
    readWith describer connection (fun replies => Postgres.describeQuery replies object trimmed)
      (fun replies => MySql.describeQuery replies object trimmed)
      (fun replies => Sqlite.describeQuery replies object trimmed)

/-- A listed table completed by its description; without a comment it gets its title. -/
def completeTable (listed described : Table) : Table where
  name := listed.name
  comment := if listed.comment.isEmpty then title listed.name else listed.comment
  columns := described.columns
  indexes := sortIndexes described.indexes

def listTablesWithColumns (describer : Dialect) (connection : Connection) :
    Inspection (List Table) := do
  let tables ← listTables describer connection
  Inspection.each (fun listed => do
    let described ← describeTable describer connection listed.name
    return completeTable listed described) tables

end SqlMigrations.Catalog
