import SqlMigrations.Error
import SqlMigrations.Text.Case
import SqlMigrations.Text.Search

namespace SqlMigrations

/-- A database engine. -/
inductive Dialect where
  | postgres
  | mysql
  | sqlite
  deriving Repr, DecidableEq

def Dialect.name : Dialect → String
  | .postgres => "postgres"
  | .mysql => "mysql"
  | .sqlite => "sqlite"

/-- Whether the driver is available; every driver is. -/
def Dialect.isEnabled (_ : Dialect) : Bool :=
  true

def Dialect.ofScheme? (scheme : String) : Option Dialect :=
  match scheme with
  | "postgres" | "postgresql" => some .postgres
  | "mysql" => some .mysql
  | "sqlite" | "file" => some .sqlite
  | _ => none

/-- The dialect of a text without a known scheme: a network marker means MySQL. -/
def Dialect.ofMarkers (text : List Char) : Dialect :=
  if Text.occursIn "@tcp(".toList text || Text.occursIn "@unix(".toList text then .mysql
  else .sqlite

/-- The dialect of a connection string: a known scheme decides, then the network markers. -/
def Dialect.ofDsn (dsn : String) : Dialect :=
  match Text.splitOnce? "://".toList dsn.toList with
  | some (scheme, _) =>
    match Dialect.ofScheme? (String.ofList scheme) with
    | some dialect => dialect
    | none => Dialect.ofMarkers dsn.toList
  | none => Dialect.ofMarkers dsn.toList

/-- The dialect of a driver name, in any case. -/
def Dialect.ofName? (name : String) : Option Dialect :=
  match Text.lowered name with
  | "postgres" | "postgresql" | "pgx" => some .postgres
  | "mysql" => some .mysql
  | "sqlite" | "sqlite3" => some .sqlite
  | _ => none

/-- The dialect of a driver name, or the error that names the unknown one. -/
def Dialect.ofName (name : String) : Except ConnectionError Dialect :=
  match Dialect.ofName? name with
  | some dialect => .ok dialect
  | none => .error (.unknownDialect name)

end SqlMigrations
