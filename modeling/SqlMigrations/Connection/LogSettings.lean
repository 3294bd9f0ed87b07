import SqlMigrations.Config.Expand
import SqlMigrations.Text.Case

namespace SqlMigrations

inductive LogFormat where
  | json
  | pretty
  | compact
  deriving Repr, DecidableEq

inductive LogLevel where
  | trace
  | debug
  | info
  | warn
  | error
  deriving Repr, DecidableEq

def LogLevel.name : LogLevel → String
  | .trace => "trace"
  | .debug => "debug"
  | .info => "info"
  | .warn => "warn"
  | .error => "error"

/-- The level of a word, in any case. -/
def LogLevel.ofName? (name : String) : Option LogLevel :=
  [LogLevel.trace, .debug, .info, .warn, .error].find? (fun level =>
    level.name == Text.lowered name)

structure LogSettings where
  enabled : Bool
  level : LogLevel
  format : LogFormat
  deriving Repr, DecidableEq

def isDebug (environment : Environment) : Bool :=
  match environment.get? "MIG_DEBUG" with
  | some value => ["true", "1", "yes"].contains (Text.lowered value)
  | none => false

def LogFormat.ofEnvironment (environment : Environment) : LogFormat :=
  match (environment.get? "MIG_LOG_FORMAT").map Text.lowered with
  | some "pretty" => .pretty
  | some "compact" => .compact
  | _ => .json

/-- The settings of the environment; an unknown level counts as asked for and changes nothing. -/
def LogSettings.ofEnvironment (environment : Environment) : LogSettings :=
  let requested := environment.get? "MIG_LOG_LEVEL"
  let fallback := if isDebug environment then LogLevel.debug else .warn
  ⟨isDebug environment || requested.isSome, (requested.bind LogLevel.ofName?).getD fallback,
    .ofEnvironment environment⟩

def LogSettings.directive (settings : LogSettings) : String :=
  ",".intercalate (["mig", "mig_db", "mig_introspect", "mig_migrate"].map (fun component =>
    component ++ "=" ++ settings.level.name))

end SqlMigrations
