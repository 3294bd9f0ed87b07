import SqlMigrations.Store.FileSystem

namespace SqlMigrations

inductive RefusalLabel where
  | sqlite (code : String)
  | mysql (number : Nat) (state : String)
  | postgres
  deriving Repr, DecidableEq

/-- The text put before the server's message. -/
def RefusalLabel.text : RefusalLabel → String
  | .sqlite code => "(code: " ++ code ++ ") "
  | .mysql number state => toString number ++ " (" ++ state ++ "): "
  | .postgres => ""

/-- A driver's report of a command that did not succeed. -/
inductive DriverFailure where
  | refused (label : RefusalLabel) (message : String)
  | configuration (problem : String)
  | network (problem : String)
  | poolTimedOut
  | poolClosed
  | unexpectedNull (column : Nat)
  deriving Repr, DecidableEq

def DriverFailure.message : DriverFailure → String
  | .refused label message => "error returned from database: " ++ label.text ++ message
  | .configuration problem => "error with configuration: " ++ problem
  | .network problem => "error communicating with database: " ++ problem
  | .poolTimedOut => "pool timed out while waiting for an open connection"
  | .poolClosed => "attempted to acquire a connection on a closed pool"
  | .unexpectedNull column =>
    "error occurred while decoding column " ++ toString column ++
      ": unexpected null; try decoding as an `Option`"

/-- The server's own message when the server refused, else the driver's wording. -/
def DriverFailure.serverMessage : DriverFailure → String
  | .refused _ message => message
  | other => other.message

inductive ConnectionError where
  | driver (failure : DriverFailure)
  | emptyDsn
  | config (problem : String)
  | unknownDialect (name : String)
  | dialectDisabled (name : String)
  | timedOut (milliseconds : Nat)
  | cancelled
  | lockFailed (reason : String)
  deriving Repr, DecidableEq

def ConnectionError.message : ConnectionError → String
  | .driver failure => "Database error: " ++ failure.message
  | .emptyDsn => "DSN not provided"
  | .config problem => "Configuration error: " ++ problem
  | .unknownDialect name => "Unknown dialect: " ++ name
  | .dialectDisabled name =>
    "Dialect " ++ name ++ " not enabled. Enable the corresponding feature."
  | .timedOut milliseconds => "db connect timed out after " ++ toString milliseconds ++ "ms"
  | .cancelled => "db connection cancelled"
  | .lockFailed reason => "Failed to acquire lock: " ++ reason

/-- Whether another attempt to connect can succeed after this error. -/
def ConnectionError.isRetryable : ConnectionError → Bool
  | .emptyDsn | .config _ | .unknownDialect _ | .dialectDisabled _ | .cancelled => false
  | .driver _ | .timedOut _ | .lockFailed _ => true

/-- The text recorded for a failed statement: the server's message where there is one. -/
def ConnectionError.serverMessage : ConnectionError → String
  | .driver failure => failure.serverMessage
  | other => other.message

/-- Why migrations could not be loaded or applied. -/
inductive MigrationError where
  | io (problem : Store.IoError)
  | connection (error : ConnectionError)
  | driver (failure : DriverFailure)
  | unknownProject (project : String)
  | notFound (file : String)
  | config (problem : String)
  | statement (file : String) (index : Nat) (message : String)
  deriving Repr, DecidableEq

def MigrationError.message : MigrationError → String
  | .io problem => "I/O error: " ++ problem.message
  | .connection error => error.message
  | .driver failure => "Database error: " ++ failure.message
  | .unknownProject project => "Migrations for '" ++ project ++ "' don't exist"
  | .notFound file => "Migration '" ++ file ++ "' not found"
  | .config problem => "Configuration error: " ++ problem
  | .statement file index message =>
    file ++ ": statement " ++ toString index ++ " failed: " ++ message

def MigrationError.isConfig : MigrationError → Bool
  | .config _ | .unknownProject _ => true
  | .connection .emptyDsn | .connection (.unknownDialect _) | .connection (.config _) => true
  | _ => false

end SqlMigrations
