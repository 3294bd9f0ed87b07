import SqlMigrations.Proofs.Runner.Statements

namespace SqlMigrations.Runner

open Session

variable {σ α : Type} {dialect : Dialect} {keys : Collation} {discards : Bool}
  {database : Database σ}
  {view : σ → Session keys} {state : σ} {durable data : Contents keys}
  {file : Option (String × String)}

/-- A run returns `result` and leaves `contents` for good, with no transaction open. -/
def Ended (view : σ → Session keys) (run : Run σ α) (result : Except MigrationError α)
    (contents : Contents keys) : Prop :=
  run.result = result ∧ view run.state = ⟨contents, none⟩

/-- A run fails outside of its statements and leaves `contents` for good. -/
def Undone (view : σ → Session keys) (run : Run σ α) (contents : Contents keys) : Prop :=
  ∃ problem : MigrationError, problem.IsCommandFailure ∧ Ended view run (.error problem) contents

section
variable (rules : database.Follows dialect discards view)
include rules

theorem abandon_undone {problem : MigrationError} (failure : problem.IsCommandFailure)
    (lines : List String) (aftermath : (view state).Aftermath discards durable data file) :
    Undone view (abandon database problem lines state : Run σ α) durable :=
  ⟨problem, failure, rfl, (abandonTransaction_rolledBack rules state).trans aftermath.rolledBack⟩

theorem commit_holds (result : Except MigrationError α) (lines : List String)
    (holds : (view state).Holds durable data file) :
    Ended view (commit database result lines state) result data ∨
      Undone view (commit database result lines state) durable := by
  cases committing : commitTransaction database state with
  | mk answer after =>
    simp only [commit, committing]
    cases answer with
    | ok _ => exact .inl ⟨rfl, (commitTransaction_ok rules committing).trans holds.committed⟩
    | error problem =>
      refine .inr ⟨.connection problem, trivial, rfl, ?_⟩
      rw [commitTransaction_error rules committing, holds.1]

/-- A commit without a transaction changes nothing, whether it succeeds or fails. -/
theorem commit_bare (result : Except MigrationError α) (lines : List String)
    (bare : view state = ⟨durable, none⟩) :
    Ended view (commit database result lines state) result durable ∨
      Undone view (commit database result lines state) durable := by
  cases committing : commitTransaction database state with
  | mk answer after =>
    simp only [commit, committing]
    cases answer with
    | ok _ =>
      refine .inl ⟨rfl, ?_⟩
      rw [commitTransaction_ok rules committing, bare]
      rfl
    | error problem =>
      refine .inr ⟨.connection problem, trivial, rfl, ?_⟩
      rw [commitTransaction_error rules committing, bare]

theorem conclude_holds {attempt : Attempt σ}
    (holds : (view attempt.state).Holds durable data file) :
    Ended view (conclude database attempt) attempt.outcome (data.save dialect attempt.checkpoint) ∨
      Undone view (conclude database attempt) durable := by
  cases saving : saveCheckpoint database attempt.checkpoint attempt.state with
  | mk answer after =>
    simp only [conclude, saving]
    cases answer with
    | ok _ =>
      have saved : (view after).Holds durable (data.save dialect attempt.checkpoint) file := by
        rw [(saveCheckpoint_ok rules saving).2]
        exact holds.save dialect attempt.checkpoint
      exact commit_holds rules attempt.outcome attempt.lines saved
    | error problem =>
      obtain ⟨failure, failing⟩ := saveCheckpoint_error rules saving
      have aftermath : (view after).Aftermath discards durable data file := by
        rw [failing]
        exact holds.failed dialect
      exact .inr (abandon_undone rules failure attempt.lines aftermath)

/-- In an aborted transaction the checkpoint cannot be saved. -/
theorem conclude_aborted {attempt : Attempt σ} {opened : OpenTransaction keys}
    (kept : (view attempt.state).durable = durable)
    (remains : (view attempt.state).transaction = some opened) (dead : opened.aborted = true) :
    Undone view (conclude database attempt) durable := by
  cases saving : saveCheckpoint database attempt.checkpoint attempt.state with
  | mk answer after =>
    simp only [conclude, saving]
    cases answer with
    | ok _ =>
      have healthy := (saveCheckpoint_ok rules saving).1
      simp [isAborted, remains, dead] at healthy
    | error problem =>
      obtain ⟨failure, failing⟩ := saveCheckpoint_error rules saving
      have aftermath : (view after).Aftermath discards durable durable none := by
        rw [failing]
        exact failed_of_aborted kept remains dead
      exact abandon_undone rules failure attempt.lines aftermath

theorem conclude_bare_unsaved {attempt : Attempt σ} {problem : MigrationError} {after : σ}
    (bare : view attempt.state = ⟨durable, none⟩)
    (saving : saveCheckpoint database attempt.checkpoint attempt.state = (.error problem, after)) :
    Undone view (conclude database attempt) durable := by
  obtain ⟨failure, failing⟩ := saveCheckpoint_error rules saving
  refine ⟨problem, failure, by simp [conclude, saving, abandon], ?_⟩
  have rolledBack := abandonTransaction_rolledBack rules after
  rw [failing, bare] at rolledBack
  simpa only [conclude, saving, abandon, rolledBack] using by cases dialect <;> rfl

/-- Without a transaction the checkpoint is saved for good, whatever becomes of the commit. -/
theorem conclude_bare_saved {attempt : Attempt σ} {after : σ}
    (bare : view attempt.state = ⟨durable, none⟩)
    (saving : saveCheckpoint database attempt.checkpoint attempt.state = (.ok (), after)) :
    Ended view (conclude database attempt) attempt.outcome
        (durable.save dialect attempt.checkpoint) ∨
      Undone view (conclude database attempt) (durable.save dialect attempt.checkpoint) := by
  have saved : view after = ⟨durable.save dialect attempt.checkpoint, none⟩ := by
    rw [(saveCheckpoint_ok rules saving).2, bare]
    rfl
  simp only [conclude, saving]
  exact commit_bare rules attempt.outcome attempt.lines saved

/-- Releasing a lock changes nothing, even when it fails and the connection is closed. -/
theorem releaseLock_kept {key : String} (idle : (view state).transaction = none) :
    view (releaseLock database dialect key state) = view state := by
  cases dialect with
  | sqlite => rfl
  | postgres => rfl
  | mysql =>
    cases reply : database.send (.unlock key) state with
    | mk answer after =>
      have released : view after = view state := rules.answers reply idle
      cases answer with
      | ok _ => simpa [releaseLock, Lock.release, reply] using released
      | error failure =>
        have closed : view (database.send .close after).2 = (view after).rolledBack :=
          rules .close after
        simp only [releaseLock, Lock.release, reply, closed, released]
        exact congrArg (Session.mk (view state).durable) idle.symm

end

end SqlMigrations.Runner
