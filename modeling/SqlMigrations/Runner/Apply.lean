import SqlMigrations.Lock.Advisory
import SqlMigrations.Runner.Print
import SqlMigrations.Runner.Transaction
import SqlMigrations.Store.FileSet

/-!
Applying one planned file. On a connection of its own the file is applied in one transaction, under
a lock: the checkpoint is read, the statements that it does not cover are sent in order, and the new
checkpoint is saved in the same transaction. A failing statement stops the file; what succeeded
before it is committed with a checkpoint that records the failure.
-/

namespace SqlMigrations.Runner

variable {σ : Type}

/-- A value, what was printed on the way to it, and the database afterwards. -/
structure Run (σ α : Type) where
  result : Except MigrationError α
  lines : List String
  state : σ

structure FileOutcome where
  filename : String
  applied : Nat
  skipped : Bool
  index : Int
  status : String
  deriving Repr, DecidableEq

/-- The answer to a statement without the number of affected rows. -/
def ignoreCount (answered : Except ConnectionError Nat × σ) : Except ConnectionError Unit × σ :=
  (answered.1.map (fun _ => ()), answered.2)

/-- Sends a statement inside a savepoint, so that a failure leaves the transaction usable. -/
def executeInSavepoint (database : Database σ) (sql : String) (state : σ) :
    Except ConnectionError Unit × σ :=
  match moveSavepoint database .set state with
  | (.error problem, opened) => (.error problem, opened)
  | (.ok _, opened) =>
    match execute database sql opened with
    | (.ok _, sent) => moveSavepoint database .release sent
    | (.error problem, sent) =>
      match moveSavepoint database .rollBack sent with
      | (.ok _, undone) => (.error problem, undone)
      | (.error undoing, undone) => (.error undoing, undone)

def executeMigration (database : Database σ) (dialect : Dialect) (sql : String) (state : σ) :
    Except ConnectionError Unit × σ :=
  match dialect with
  | .postgres => executeInSavepoint database sql state
  | .mysql | .sqlite => ignoreCount (execute database sql state)

/-- Progress through the statements of a file. -/
structure Attempt (σ : Type) where
  checkpoint : Checkpoint
  applied : Nat
  failure : Option MigrationError
  lines : List String
  state : σ

/-- Executes the statements from an index on that the checkpoint does not cover, up to the first
failure. -/
def applyStatements (database : Database σ) (dialect : Dialect) (verbose : Bool) :
    Nat → List String → Checkpoint → σ → Attempt σ
  | _, [], checkpoint, state =>
    ⟨{ checkpoint with status := statusOk }, 0, none, [], state⟩
  | index, sql :: rest, checkpoint, state =>
    let shown := echoApplied verbose checkpoint index ++ echo verbose index sql
    if checkpoint.isApplied index then
      let later := applyStatements database dialect verbose (index + 1) rest checkpoint state
      { later with lines := shown ++ later.lines }
    else
      match executeMigration database dialect sql state with
      | (.ok (), after) =>
        let later := applyStatements database dialect verbose (index + 1) rest
          { checkpoint with index := Int.ofNat index } after
        { later with applied := later.applied + 1, lines := shown ++ later.lines }
      | (.error problem, after) =>
        let message := problem.serverMessage
        ⟨{ checkpoint with status := message }, 0,
          some (.statement checkpoint.filename index message), shown, after⟩

/-- Ends a run with an error after the open transaction was given up. -/
def abandon {α : Type} (database : Database σ) (problem : MigrationError) (lines : List String)
    (state : σ) : Run σ α :=
  ⟨.error problem, lines, abandonTransaction database state⟩

/-- Ends a run with a result, if the transaction can be committed. -/
def commit {α : Type} (database : Database σ) (result : Except MigrationError α)
    (lines : List String) (state : σ) : Run σ α :=
  match commitTransaction database state with
  | (.ok (), after) => ⟨result, lines, after⟩
  | (.error problem, after) => ⟨.error (.connection problem), lines, after⟩

def Attempt.outcome (attempt : Attempt σ) : Except MigrationError FileOutcome :=
  match attempt.failure with
  | some problem => .error problem
  | none =>
    .ok ⟨attempt.checkpoint.filename, attempt.applied, false, attempt.checkpoint.index,
      attempt.checkpoint.status⟩

def conclude (database : Database σ) (attempt : Attempt σ) : Run σ FileOutcome :=
  match saveCheckpoint database attempt.checkpoint attempt.state with
  | (.error problem, after) => abandon database problem attempt.lines after
  | (.ok (), after) => commit database attempt.outcome attempt.lines after

/-- Applies a file inside an open transaction whose lock was taken. -/
def applyUnderLock (database : Database σ) (dialect : Dialect) (verbose : Bool) (project : String)
    (file : Store.PlannedFile) (state : σ) : Run σ FileOutcome :=
  match loadCheckpoint database project file.name state with
  | (.error problem, after) => abandon database problem [] after
  | (.ok checkpoint, after) =>
    if checkpoint.isComplete then
      commit database (.ok ⟨file.name, 0, true, checkpoint.index, checkpoint.status⟩) [] after
    else
      conclude database
        (applyStatements database dialect verbose 0 file.statements checkpoint after)

def lockKey (project filename : String) : String :=
  project ++ ":" ++ filename

def applyInTransaction (database : Database σ) (dialect : Dialect) (verbose : Bool)
    (project : String) (file : Store.PlannedFile) (state : σ) : Run σ FileOutcome :=
  match openTransaction database state with
  | (.error problem, after) => ⟨.error (.connection problem), [], after⟩
  | (.ok (), after) =>
    match Lock.acquire database dialect (lockKey project file.name) after with
    | (.error problem, locked) => abandon database (.connection problem) [] locked
    | (.ok (), locked) => applyUnderLock database dialect verbose project file locked

/-- Releases the lock of a file; a connection that cannot release it is closed. -/
def releaseLock (database : Database σ) (dialect : Dialect) (key : String) (state : σ) : σ :=
  match Lock.release database dialect key state with
  | (.ok (), after) => after
  | (.error _, after) => (database.send .close after).2

def applyFile (database : Database σ) (dialect : Dialect) (verbose : Bool) (project : String)
    (file : Store.PlannedFile) (state : σ) : Run σ FileOutcome :=
  match database.send .connect state with
  | (.error failure, after) => ⟨.error (.connection (.driver failure)), [], after⟩
  | (.ok _, after) =>
    let applied := applyInTransaction database dialect verbose project file after
    { applied with
      state := releaseLock database dialect (lockKey project file.name) applied.state }

end SqlMigrations.Runner
