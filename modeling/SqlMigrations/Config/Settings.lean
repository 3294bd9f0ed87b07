import SqlMigrations.Config.DurationText
import SqlMigrations.Config.Expand
import SqlMigrations.Connection.Options
import SqlMigrations.Store.Load
import SqlMigrations.Text.Utf8
import SqlMigrations.Toml.Document

/-!
The configuration file: a document with a table for the database and one for the migrations, in
which every field may be missing but none may be unknown. What is missing falls back to the
defaults, and the connection string to the environment.
-/

namespace SqlMigrations.Config

structure DatabaseSettings where
  dsn : Option String
  retries : Option Nat
  retryDelay : Option String
  connectTimeout : Option String
  maxConnections : Option Nat
  deriving Repr, DecidableEq

structure MigrationSettings where
  path : Option String
  project : Option String
  filename : Option String
  apply : Option Bool
  verbose : Option Bool
  deriving Repr, DecidableEq

/-- The settings of a configuration file. -/
structure Settings where
  database : DatabaseSettings
  migrations : MigrationSettings
  deriving Repr, DecidableEq

def DatabaseSettings.none : DatabaseSettings :=
  ⟨.none, .none, .none, .none, .none⟩

def MigrationSettings.none : MigrationSettings :=
  ⟨.none, .none, .none, .none, .none⟩

def allKnown (names : List String) (entries : Toml.Entries) : Bool :=
  List.all entries (fun entry => names.contains entry.1)

/-- The fields of a record: a table without unknown keys, or an array that gives all of them in
order. -/
def fields? (names : List String) : Toml.Value → Option Toml.Entries
  | .table _ entries => if allKnown names entries then some entries else none
  | .array items => if names.length ≤ items.length then some (names.zip items) else none
  | _ => none

def field? {α : Type} (entries : Toml.Entries) (name : String) (read : Toml.Value → Option α) :
    Option (Option α) :=
  match entries.get? name with
  | some value => (read value).map some
  | none => some none

def string? : Toml.Value → Option String
  | .string text => some text
  | _ => none

def boolean? : Toml.Value → Option Bool
  | .boolean value => some value
  | _ => none

/-- Reads an unsigned 32-bit number. -/
def count? : Toml.Value → Option Nat
  | .integer value => if 0 ≤ value ∧ value < UInt32.size then some value.toNat else none
  | _ => none

/-- The fields of the database table, in order. -/
def DatabaseSettings.fieldNames : List String :=
  ["dsn", "retries", "retry_delay", "connect_timeout", "max_connections"]

/-- The fields of the migrations table, in order. -/
def MigrationSettings.fieldNames : List String :=
  ["path", "project", "filename", "apply", "verbose"]

def DatabaseSettings.ofValue? (value : Toml.Value) : Option DatabaseSettings := do
  let entries ← fields? DatabaseSettings.fieldNames value
  let dsn ← field? entries "dsn" string?
  let retries ← field? entries "retries" count?
  let retryDelay ← field? entries "retry_delay" string?
  let connectTimeout ← field? entries "connect_timeout" string?
  let maxConnections ← field? entries "max_connections" count?
  return ⟨dsn, retries, retryDelay, connectTimeout, maxConnections⟩

def MigrationSettings.ofValue? (value : Toml.Value) : Option MigrationSettings := do
  let entries ← fields? MigrationSettings.fieldNames value
  let path ← field? entries "path" string?
  let project ← field? entries "project" string?
  let filename ← field? entries "filename" string?
  let apply ← field? entries "apply" boolean?
  let verbose ← field? entries "verbose" boolean?
  return ⟨path, project, filename, apply, verbose⟩

def Settings.ofEntries? (root : Toml.Entries) : Option Settings :=
  if allKnown ["database", "migrations"] root then do
    let database ← field? root "database" DatabaseSettings.ofValue?
    let migrations ← field? root "migrations" MigrationSettings.ofValue?
    return ⟨database.getD .none, migrations.getD .none⟩
  else none

/-- The settings of a text in which references to the environment are replaced first. -/
def Settings.ofText (environment : Environment) (text : String) :
    Except MigrationError Settings :=
  match (Toml.readDocument? (expand environment text)).bind Settings.ofEntries? with
  | some settings => .ok settings
  | none => .error (.config "the settings cannot be read")

def readText (system : Store.FileSystem) (path : String) : Except MigrationError String :=
  match system.read path with
  | .error problem => .error (.config ("failed to read " ++ path ++ ": " ++ problem.message))
  | .ok bytes =>
    match Text.Utf8.decode bytes with
    | .ok text => .ok (String.ofList text)
    | .error _ =>
      .error (.config ("failed to read " ++ path ++ ": stream did not contain valid UTF-8"))

def Settings.ofFile (system : Store.FileSystem) (environment : Environment) (path : String) :
    Except MigrationError Settings :=
  match readText system path with
  | .error problem => .error problem
  | .ok text => Settings.ofText environment text

def durationOr (default : Duration) : Option String → Except MigrationError Duration
  | none => .ok default
  | some written => readDuration written

/-- The connection options: defaults and the connection string of the environment where the
settings are silent. -/
def Settings.connectOptions (settings : Settings) (environment : Environment) :
    Except MigrationError ConnectOptions := do
  let database := settings.database
  let default := ConnectOptions.ofEnvironment environment
  let retryDelay ← durationOr default.retryDelay database.retryDelay
  let connectTimeout ← durationOr default.connectTimeout database.connectTimeout
  return ⟨database.dsn.getD default.dsn, database.retries.getD default.retries, retryDelay,
    connectTimeout, database.maxConnections.getD default.maxConnections⟩

/-- The migration options: defaults where the settings are silent. -/
def Settings.migrateOptions (settings : Settings) : MigrateOptions :=
  let migrations := settings.migrations
  let default := MigrateOptions.default
  ⟨migrations.path.getD default.path, migrations.project.getD default.project,
    migrations.filename, migrations.apply.getD default.apply,
    migrations.verbose.getD default.verbose⟩

end SqlMigrations.Config
