import SqlMigrations.Error
import SqlMigrations.Text.Blank
import SqlMigrations.Text.Number

namespace SqlMigrations

/-- A span of time; `nanos` is the part below a second. -/
structure Duration where
  seconds : Nat
  nanos : Nat
  deriving Repr, DecidableEq

/-- The greatest number of whole seconds. -/
def Duration.maxSeconds : Nat :=
  UInt64.size - 1

def Duration.ofSeconds (seconds : Nat) : Duration :=
  ⟨seconds, 0⟩

def Duration.ofMillis (millis : Nat) : Duration :=
  ⟨millis / 1000, millis % 1000 * 1000000⟩

/-- The whole milliseconds in a span. -/
def Duration.toMillis (duration : Duration) : Nat :=
  duration.seconds * 1000 + duration.nanos / 1000000

def Duration.toNanos (duration : Duration) : Nat :=
  duration.seconds * 1000000000 + duration.nanos

def Duration.isZero (duration : Duration) : Bool :=
  duration.seconds == 0 && duration.nanos == 0

end SqlMigrations

namespace SqlMigrations.Config

inductive TimeUnit where
  | millisecond
  | second
  | minute
  | hour
  deriving Repr, DecidableEq

def TimeUnit.ofName? (name : String) : Option TimeUnit :=
  match name with
  | "ms" => some .millisecond
  | "" | "s" => some .second
  | "m" => some .minute
  | "h" => some .hour
  | _ => none

/-- A number of whole seconds, if it is in range. -/
def secondsInRange? (seconds : Nat) : Option Duration :=
  if seconds ≤ Duration.maxSeconds then some (.ofSeconds seconds) else none

/-- An amount of a unit, if it is in range. -/
def TimeUnit.duration? (unit : TimeUnit) (amount : Nat) : Option Duration :=
  match unit with
  | .millisecond => some (.ofMillis amount)
  | .second => secondsInRange? amount
  | .minute => secondsInRange? (60 * amount)
  | .hour => secondsInRange? (3600 * amount)

/-- An amount in a written unit; `text` is the whole duration, which errors quote. -/
def readUnit (text : List Char) (amount : Nat) (unit : List Char) :
    Except MigrationError Duration :=
  match TimeUnit.ofName? (String.ofList unit) with
  | none =>
    .error (.config ("invalid duration unit '" ++ String.ofList unit ++ "' in '" ++
      String.ofList text ++ "'"))
  | some unit =>
    match unit.duration? amount with
    | some duration => .ok duration
    | none => .error (.config ("duration out of range: '" ++ String.ofList text ++ "'"))

def readDuration (written : String) : Except MigrationError Duration :=
  let text := Text.trim written.toList
  match Text.readUnsigned Duration.maxSeconds (text.takeWhile Text.isDigit) with
  | .error _ => .error (.config ("invalid duration: '" ++ String.ofList text ++ "'"))
  | .ok amount => readUnit text amount (Text.trim (text.dropWhile Text.isDigit))

end SqlMigrations.Config
