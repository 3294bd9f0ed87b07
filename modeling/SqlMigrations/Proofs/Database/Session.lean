import SqlMigrations.Checkpoint.Table
import SqlMigrations.Dialect
import SqlMigrations.Runner.Transaction

/-!
What the engines promise about transactions, as a rule for every command. A session is what can be
said of a database between two commands: what it holds for good, and the open transaction. Beside
the checkpoint table a database holds the effects of statements, in order, each under the file whose
checkpoint its transaction had read.
-/

namespace SqlMigrations

structure Effect where
  file : Option (String × String)
  sql : String
  deriving Repr, DecidableEq

structure Contents (keys : Collation) where
  table : CheckpointRows keys
  effects : List Effect

variable {keys : Collation}

namespace Contents

def perform (contents : Contents keys) (file : Option (String × String))
    (statements : List String) : Contents keys :=
  { contents with effects := contents.effects ++ statements.map (fun sql => ⟨file, sql⟩) }

def save (dialect : Dialect) (contents : Contents keys) (checkpoint : Checkpoint) :
    Contents keys :=
  { contents with table := contents.table.save dialect checkpoint }

def row (contents : Contents keys) (project filename : String) : Option (Int × String) :=
  (contents.table.row? project filename).map (fun row => (row.index, row.status))

/-- The checkpoint of a file, as its row has it. -/
def checkpoint (contents : Contents keys) (project filename : String) : Checkpoint :=
  Runner.checkpointOfRow project filename (contents.row project filename)

/-- The statements of a file whose effects are held, in the order they came in. -/
def applied (contents : Contents keys) (project filename : String) : List String :=
  (contents.effects.filter (fun effect => effect.file = some (project, filename))).map Effect.sql

/-- The contents after statements of a file were applied together with its new checkpoint. -/
def advance (dialect : Dialect) (contents : Contents keys) (project filename : String)
    (statements : List String) (index : Int) (status : String) : Contents keys :=
  (contents.perform (some (project, filename)) statements).save dialect
    ⟨project, filename, index, status⟩

@[simp] theorem perform_nil (contents : Contents keys) (file : Option (String × String)) :
    contents.perform file [] = contents := by
  simp [perform]

theorem perform_append (contents : Contents keys) (file : Option (String × String))
    (first later : List String) :
    contents.perform file (first ++ later) = (contents.perform file first).perform file later := by
  simp [perform]

end Contents

/-- A transaction with the contents that its commands see. Each savepoint keeps the contents of its
time; after a failure PostgreSQL takes nothing but the way back. -/
structure OpenTransaction (keys : Collation) where
  contents : Contents keys
  file : Option (String × String)
  savepoints : List (Contents keys)
  aborted : Bool

def OpenTransaction.move (opened : OpenTransaction keys) :
    SavepointMove → Option (OpenTransaction keys)
  | .set =>
    if opened.aborted then none
    else some { opened with savepoints := opened.contents :: opened.savepoints }
  | .release =>
    match opened.aborted, opened.savepoints with
    | false, _ :: outer => some { opened with savepoints := outer }
    | _, _ => none
  | .rollBack =>
    match opened.savepoints with
    | kept :: _ => some { opened with contents := kept, aborted := false }
    | [] => none

structure Session (keys : Collation) where
  durable : Contents keys
  transaction : Option (OpenTransaction keys)

namespace Session

def isAborted (session : Session keys) : Bool :=
  session.transaction.any OpenTransaction.aborted

/-- The contents that a command sees. -/
def contents (session : Session keys) : Contents keys :=
  match session.transaction with
  | some opened => opened.contents
  | none => session.durable

def begun (session : Session keys) : Session keys :=
  { session with transaction := some ⟨session.durable, none, [], false⟩ }

def rolledBack (session : Session keys) : Session keys :=
  { session with transaction := none }

def committed (session : Session keys) : Session keys :=
  match session.transaction with
  | some opened => ⟨if opened.aborted then session.durable else opened.contents, none⟩
  | none => session

/-- A failed command undoes nothing but itself; on PostgreSQL it aborts the open transaction. -/
def failed (dialect : Dialect) (session : Session keys) : Session keys :=
  match dialect, session.transaction with
  | .postgres, some opened =>
    { session with transaction := some { opened with aborted := true } }
  | _, _ => session

def reading (session : Session keys) (project filename : String) : Session keys :=
  { session with
    transaction := session.transaction.map (fun opened =>
      { opened with file := some (project, filename) }) }

def save (dialect : Dialect) (session : Session keys) (checkpoint : Checkpoint) : Session keys :=
  match session.transaction with
  | some opened =>
    { session with
      transaction := some { opened with contents := opened.contents.save dialect checkpoint } }
  | none => { session with durable := session.durable.save dialect checkpoint }

def perform (session : Session keys) (sql : String) : Session keys :=
  match session.transaction with
  | some opened =>
    { session with
      transaction := some { opened with contents := opened.contents.perform opened.file [sql] } }
  | none => { session with durable := session.durable.perform none [sql] }

/-- The rule for each command: what its answer says of the session after it. With `discards`, an
engine other than PostgreSQL may answer a failing statement by rolling the open transaction back and
ending it. Nothing is said of a transaction begun inside another one. -/
def Answers (dialect : Dialect) (discards : Bool) (before : Session keys) :
    (command : Command) → Except DriverFailure command.Answer → Session keys → Prop
  | .connect, _, after => after = before
  | .close, _, after => after = before.rolledBack
  | .begin, .ok _, after => before.transaction = none → after = before.begun
  | .begin, .error _, after => before.transaction = none → after = before
  | .commit, .ok _, after => after = before.committed
  | .commit, .error _, after =>
    after.durable = before.durable ∧ (before.transaction = none → after.transaction = none)
  | .rollback, _, after => after = before.rolledBack
  | .lock _, .ok _, after => before.isAborted = false ∧ after = before
  | .lock _, .error _, after => after = before.failed dialect
  | .unlock _, _, after => before.transaction = none → after = before
  | .load project filename, .ok row, after =>
    before.isAborted = false ∧ row = before.contents.table.load dialect project filename ∧
      after = before.reading project filename
  | .load _ _, .error _, after => after = before.failed dialect
  | .save checkpoint, .ok _, after =>
    before.isAborted = false ∧ after = before.save dialect checkpoint
  | .save _, .error _, after => after = before.failed dialect
  | .statement sql, .ok _, after => before.isAborted = false ∧ after = before.perform sql
  | .statement _, .error _, after =>
    after = before.failed dialect ∨
      discards = true ∧ dialect ≠ .postgres ∧ after = before.rolledBack
  | .savepoint move, .ok _, after =>
    ∀ opened, before.transaction = some opened →
      ∃ moved, opened.move move = some moved ∧ after = { before with transaction := some moved }
  | .savepoint _, .error _, after => after = before.failed dialect

end Session

variable {σ : Type}

/-- A database keeps to the rules if every command does, seen through `view`. -/
def Database.Follows (dialect : Dialect) (discards : Bool) (database : Database σ)
    (view : σ → Session keys) : Prop :=
  ∀ command state, (view state).Answers dialect discards command (database.send command state).1
    (view (database.send command state).2)

/-- The rules under which a failing statement costs nothing but itself. -/
def Database.Transactional (dialect : Dialect) (database : Database σ)
    (view : σ → Session keys) : Prop :=
  database.Follows dialect false view

theorem Database.Follows.answers {dialect : Dialect} {discards : Bool} {database : Database σ}
    {view : σ → Session keys} (rules : database.Follows dialect discards view) {command : Command}
    {state after : σ} {answer : Except DriverFailure command.Answer}
    (sent : database.send command state = (answer, after)) :
    (view state).Answers dialect discards command answer (view after) := by
  have answered := rules command state
  rwa [sent] at answered

end SqlMigrations
