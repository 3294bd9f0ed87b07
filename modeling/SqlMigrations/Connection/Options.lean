import SqlMigrations.Config.DurationText
import SqlMigrations.Config.Expand

/-!
Options for connecting, their defaults, and the retry policy that follows from them. Zero retries
means no cap and a zero timeout means no deadline; with neither, a policy of its own applies, so
that no policy retries without bound.
-/

namespace SqlMigrations

/-- The variable that holds the default connection string. -/
def dsnVariable : String :=
  "MIG_DB_DSN"

structure ConnectOptions where
  dsn : String
  retries : Nat
  retryDelay : Duration
  connectTimeout : Duration
  maxConnections : Nat
  deriving Repr, DecidableEq

def ConnectOptions.ofDsn (dsn : String) : ConnectOptions :=
  ⟨dsn, 100, .ofSeconds 2, .ofSeconds 120, 800⟩

def ConnectOptions.ofEnvironment (environment : Environment) : ConnectOptions :=
  .ofDsn ((environment.get? dsnVariable).getD "")

/-- How connecting is retried: the attempt cap, the pause and the deadline. -/
structure RetryPolicy where
  retries : Nat
  delay : Duration
  timeout : Option Duration
  deriving Repr, DecidableEq

/-- The policy that applies when neither a cap nor a deadline is given. -/
def RetryPolicy.unlimited : RetryPolicy :=
  ⟨0, .ofSeconds 5, some (.ofSeconds 300)⟩

def ConnectOptions.retryPolicy (options : ConnectOptions) : RetryPolicy :=
  if options.retries = 0 ∧ options.connectTimeout.isZero = true then .unlimited
  else
    ⟨options.retries, options.retryDelay,
      if options.connectTimeout.isZero then none else some options.connectTimeout⟩

end SqlMigrations
