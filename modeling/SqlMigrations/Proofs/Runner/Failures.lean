import SqlMigrations.Proofs.Runner.Discipline

namespace SqlMigrations

variable {σ α : Type} {dialect : Dialect}

/-- The error that a run returns for the answer to a command, be it that a lock is not granted. The
answers to statements and to the release of a lock are reported otherwise or not at all. -/
def Exchange.problem? (dialect : Dialect) : Exchange → Option MigrationError
  | ⟨.connect, .error failure⟩ | ⟨.begin, .error failure⟩ | ⟨.commit, .error failure⟩ =>
    some (.connection (.driver failure))
  | ⟨.load _ _, .error failure⟩ | ⟨.save _, .error failure⟩ => some (.driver failure)
  | ⟨.lock _, answer⟩ =>
    match Runner.lockResult dialect answer with
    | .error problem => some (.connection problem)
    | .ok _ => none
  | _ => none

namespace Runner

def IsStatementError : MigrationError → Prop
  | .statement _ _ _ => True
  | _ => False

/-- An error that is not about a statement is that of a failed command. -/
def Explained (dialect : Dialect) (exchanges : List Exchange) (result : Except MigrationError α) :
    Prop :=
  ∀ problem, result = .error problem → IsStatementError problem ∨
    ∃ exchange ∈ exchanges, exchange.problem? dialect = some problem

theorem explained_ok (exchanges : List Exchange) (value : α) :
    Explained dialect exchanges (.ok value) :=
  nofun

theorem explained_of_last {exchange : Exchange} {problem : MigrationError}
    (fails : exchange.problem? dialect = some problem) (earlier : List Exchange) :
    Explained dialect (earlier ++ [exchange]) (.error problem : Except MigrationError α) := by
  intro other same
  obtain rfl := Except.error.inj same
  exact .inr ⟨exchange, List.mem_append_right _ List.mem_cons_self, fails⟩

theorem Explained.append {exchanges : List Exchange} {result : Except MigrationError α}
    (explained : Explained dialect exchanges result) (later : List Exchange) :
    Explained dialect (exchanges ++ later) result :=
  fun problem same => (explained problem same).imp_right fun ⟨exchange, member, fails⟩ =>
    ⟨exchange, List.mem_append_left _ member, fails⟩

/-- The checkpoint of a failing attempt has the text of the failure, and the index before that of
the statement. -/
theorem applyStatements_failure (database : Database σ) (dialect : Dialect) (verbose : Bool)
    (statements : List String) :
    ∀ {index : Nat} {checkpoint : Checkpoint} {state : σ} {problem : MigrationError},
      (applyStatements database dialect verbose index statements checkpoint state).failure =
          some problem →
        ∃ position message reached, problem = .statement checkpoint.filename position message ∧
          (applyStatements database dialect verbose index statements checkpoint state).checkpoint =
            ⟨checkpoint.project, checkpoint.filename, reached, message⟩ ∧
          ((index : Int) - 1 ≤ checkpoint.index → checkpoint.index < max indexBound index →
            reached = (position : Int) - 1) := by
  induction statements with
  | nil => exact nofun
  | cons sql rest induction =>
    intro index checkpoint state problem failure
    simp only [applyStatements] at failure ⊢
    by_cases covered : checkpoint.isApplied index = true
    · rw [if_pos covered] at failure ⊢
      obtain ⟨position, message, reached, named, written, before⟩ := induction failure
      refine ⟨position, message, reached, named, written, fun _ upper => before ?_ ?_⟩
      · have behind := (Bool.and_eq_true_iff.mp covered).2
        simpa using behind
      · omega
    · rw [if_neg covered] at failure ⊢
      cases executing : executeMigration database dialect sql state with
      | mk answer after =>
        rw [executing] at failure
        cases answer with
        | error reason =>
          refine ⟨index, reason.serverMessage, checkpoint.index, (Option.some.inj failure).symm,
            rfl, fun lower upper => ?_⟩
          simp only [Checkpoint.isApplied, Bool.and_eq_true, decide_eq_true_eq, not_and,
            Int.ofNat_eq_natCast] at covered
          omega
        | ok _ =>
          obtain ⟨position, message, reached, named, written, before⟩ := induction failure
          refine ⟨position, message, reached, named, written, fun _ _ => before ?_ ?_⟩
          · simp
          · simp only [Int.ofNat_eq_natCast]
            omega

theorem Attempt.failure_of_outcome {attempt : Attempt σ} {problem : MigrationError}
    (failed : attempt.outcome = .error problem) : attempt.failure = some problem := by
  unfold Attempt.outcome at failed
  split at failed
  · rename_i reason found
    rw [found, Except.error.inj failed]
  · cases failed

section
variable {database : Database σ} {log : σ → List Exchange} (faithful : database.Logs log)
  {state : σ}
include faithful

theorem abandon_explained {problem : MigrationError} (lines : List String)
    (explained : Explained dialect (log state) (.error problem : Except MigrationError α)) :
    Explained dialect (log (abandon database problem lines state : Run σ α).state)
      (abandon database problem lines state : Run σ α).result := by
  have logged : log (abandonTransaction database state) = _ := faithful .rollback state
  rw [abandon, logged]
  exact explained.append _

theorem commit_explained {result : Except MigrationError α} (lines : List String)
    (explained : Explained dialect (log state) result) :
    Explained dialect (log (commit database result lines state).state)
      (commit database result lines state).result := by
  cases committing : database.send .commit state with
  | mk answer after =>
    have committed := faithful.sent committing
    simp only [commit, commitTransaction, committing]
    cases answer with
    | ok _ =>
      rw [committed]
      exact explained.append _
    | error failure =>
      have logged : log (abandonTransaction database after) = _ := faithful .rollback after
      rw [logged, committed]
      exact (explained_of_last rfl (log state)).append _

theorem conclude_explained {attempt : Attempt σ}
    (stopped : ∀ problem, attempt.failure = some problem → IsStatementError problem) :
    Explained dialect (log (conclude database attempt).state)
      (conclude database attempt).result := by
  cases saving : database.send (.save attempt.checkpoint) attempt.state with
  | mk answer after =>
    have saved := faithful.sent saving
    simp only [conclude, saveCheckpoint, saving]
    cases answer with
    | error failure =>
      refine abandon_explained faithful _ ?_
      rw [saved]
      exact explained_of_last rfl _
    | ok _ =>
      exact commit_explained faithful _ fun problem failed =>
        .inl (stopped problem (Attempt.failure_of_outcome failed))

theorem applyUnderLock_explained (dialect : Dialect) (verbose : Bool) (project : String)
    (file : Store.PlannedFile) (state : σ) :
    Explained dialect (log (applyUnderLock database dialect verbose project file state).state)
      (applyUnderLock database dialect verbose project file state).result := by
  cases loading : database.send (.load project file.name) state with
  | mk answer loaded =>
    have read := faithful.sent loading
    simp only [applyUnderLock, loadCheckpoint, loading]
    cases answer with
    | error failure =>
      refine abandon_explained faithful _ ?_
      rw [read]
      exact explained_of_last rfl _
    | ok row =>
      by_cases complete : (checkpointOfRow project file.name row).isComplete = true
      · simp only [if_pos complete]
        exact commit_explained faithful _ (explained_ok _ _)
      · simp only [if_neg complete]
        refine conclude_explained faithful fun problem failure => ?_
        obtain ⟨_, _, _, rfl, _⟩ := applyStatements_failure _ _ _ _ failure
        trivial

theorem applyInTransaction_explained (dialect : Dialect) (verbose : Bool) (project : String)
    (file : Store.PlannedFile) (state : σ) :
    Explained dialect (log (applyInTransaction database dialect verbose project file state).state)
      (applyInTransaction database dialect verbose project file state).result := by
  cases beginning : database.send .begin state with
  | mk answer opened =>
    have begun := faithful.sent beginning
    simp only [applyInTransaction, openTransaction, beginning]
    cases answer with
    | error failure =>
      simp only [begun]
      exact explained_of_last rfl _
    | ok _ =>
      by_cases locks : dialect = .sqlite
      · subst locks
        exact applyUnderLock_explained faithful .sqlite verbose project file opened
      · simp only
        rw [acquire_eq database opened locks]
        cases locking : database.send (.lock (lockKey project file.name)) opened with
        | mk reply locked =>
          have taken := faithful.sent locking
          simp only
          cases granted : lockResult dialect reply with
          | ok _ => exact applyUnderLock_explained faithful dialect verbose project file locked
          | error problem =>
            refine abandon_explained faithful _ ?_
            rw [taken]
            exact explained_of_last (by simp only [Exchange.problem?, granted]) _

theorem applyFile_explained (dialect : Dialect) (verbose : Bool) (project : String)
    (file : Store.PlannedFile) (state : σ) :
    Explained dialect (log (applyFile database dialect verbose project file state).state)
      (applyFile database dialect verbose project file state).result := by
  cases connecting : database.send .connect state with
  | mk answer connected =>
    have connection := faithful.sent connecting
    simp only [applyFile, connecting]
    cases answer with
    | error failure =>
      simp only [connection]
      exact explained_of_last rfl _
    | ok _ =>
      have explained := applyInTransaction_explained faithful dialect verbose project file connected
      obtain ⟨release, grown, _⟩ :=
        releaseLock_exchanges faithful dialect (lockKey project file.name) rfl
      rw [grown]
      exact explained.append release

end

end Runner

end SqlMigrations
