import SqlMigrations.Proofs.Runner.FirstFailure
import SqlMigrations.Proofs.Runner.Savepoints

namespace SqlMigrations

def MigrationError.EndsRun : MigrationError → Prop
  | .connection _ | .driver _ | .statement _ _ _ => True
  | _ => False

namespace Runner

variable {σ α : Type} {database : Database σ} {state : σ}

def FailsUnderWay (result : Except MigrationError α) : Prop :=
  ∀ problem, result = .error problem → problem.EndsRun

theorem failsUnderWay_ok (value : α) : FailsUnderWay (.ok value) := nofun

theorem failsUnderWay_error {problem : MigrationError} (ends : problem.EndsRun) :
    FailsUnderWay (.error problem : Except MigrationError α) := by
  rintro _ ⟨⟩
  exact ends

theorem commit_fails {result : Except MigrationError α} (fails : FailsUnderWay result)
    (lines : List String) : FailsUnderWay (commit database result lines state).result := by
  rw [commit]
  rcases commitTransaction database state with ⟨_ | _, after⟩
  · exact failsUnderWay_error trivial
  · exact fails

theorem conclude_fails {attempt : Attempt σ} (fails : FailsUnderWay attempt.outcome) :
    FailsUnderWay (conclude database attempt).result := by
  rw [conclude, saveCheckpoint_eq]
  cases (database.send (.save attempt.checkpoint) attempt.state).1 with
  | error failure => exact failsUnderWay_error trivial
  | ok _ => exact commit_fails fails _

section
variable (database : Database σ) (dialect : Dialect) (verbose : Bool) (project : String)
  (file : Store.PlannedFile)

theorem outcome_fails (checkpoint : Checkpoint) (statements : List String) (index : Nat) :
    FailsUnderWay
      (applyStatements database dialect verbose index statements checkpoint state).outcome := by
  intro problem failed
  obtain ⟨position, message, _, rfl, _⟩ := applyStatements_failure database dialect verbose
    statements (Attempt.failure_of_outcome failed)
  trivial

theorem applyUnderLock_fails (state : σ) :
    FailsUnderWay (applyUnderLock database dialect verbose project file state).result := by
  rw [applyUnderLock, loadCheckpoint_eq]
  cases (database.send (.load project file.name) state).1 with
  | error failure => exact failsUnderWay_error trivial
  | ok row =>
    simp only [Except.map, Except.mapError]
    split
    · exact commit_fails (failsUnderWay_ok _) []
    · exact conclude_fails (outcome_fails database dialect verbose _ file.statements 0)

theorem applyFile_fails (state : σ) :
    FailsUnderWay (applyFile database dialect verbose project file state).result := by
  rw [applyFile]
  rcases database.send .connect state with ⟨_ | _, connected⟩
  · exact failsUnderWay_error trivial
  · simp only [applyInTransaction, openTransaction_eq]
    rcases database.send .begin connected with ⟨_ | _, opened⟩
    · exact failsUnderWay_error trivial
    · simp only [Except.mapError]
      rcases Lock.acquire database dialect (lockKey project file.name) opened with ⟨_ | _, locked⟩
      · exact failsUnderWay_error trivial
      · exact applyUnderLock_fails database dialect verbose project file locked

theorem applyFiles_fails (plan : List Store.PlannedFile) :
    ∀ state, FailsUnderWay (applyFiles database dialect verbose project plan state).result := by
  induction plan with
  | nil => exact fun _ => failsUnderWay_ok []
  | cons file rest induction =>
    intro state problem failed
    simp only [applyFiles] at failed
    cases result : (applyFile database dialect verbose project file state).result with
    | error reason =>
      simp only [result] at failed
      rw [Except.error.inj failed] at result
      exact applyFile_fails database dialect verbose project file state problem result
    | ok outcome =>
      simp only [result] at failed
      exact induction _ problem (error_of_map failed)

theorem bootstrap_fails (state : σ) :
    FailsUnderWay (bootstrap database dialect verbose state).result := by
  obtain ⟨sql, only⟩ := List.length_eq_one_iff.mp (bootstrapStatements_length dialect)
  simp only [bootstrap, only, sendAll, execute_eq]
  cases (database.send (.statement sql) state).1 with
  | error failure => exact failsUnderWay_error trivial
  | ok count => exact failsUnderWay_ok ()

theorem runPlan_fails (plan : List Store.PlannedFile) (state : σ) :
    FailsUnderWay (runPlan database dialect verbose project plan state).result := by
  intro problem failed
  simp only [runPlan] at failed
  cases result : (bootstrap database dialect verbose state).result with
  | error reason =>
    simp only [result] at failed
    rw [Except.error.inj failed] at result
    exact bootstrap_fails database dialect verbose state problem result
  | ok _ =>
    simp only [result] at failed
    exact applyFiles_fails database dialect verbose project plan _ problem (error_of_map failed)

end

end Runner

end SqlMigrations
