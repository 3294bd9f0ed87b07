import SqlMigrations.Proofs.Runner.Conclusion

namespace SqlMigrations.Runner

open Session

variable {σ : Type} {dialect : Dialect} {keys : Collation} {discards : Bool} {database : Database σ}
  {view : σ → Session keys} {project : String} {file : Store.PlannedFile} {state : σ}
  {before : Contents keys}

/-- The attempt that is made inside an open transaction whose lock was taken, if any. -/
def attemptUnderLock? (database : Database σ) (dialect : Dialect) (verbose : Bool)
    (project : String) (file : Store.PlannedFile) (state : σ) : Option (Attempt σ) :=
  match loadCheckpoint database project file.name state with
  | (.error _, _) => none
  | (.ok checkpoint, loaded) =>
    if checkpoint.isComplete then none
    else some (applyStatements database dialect verbose 0 file.statements checkpoint loaded)

def attemptInTransaction? (database : Database σ) (dialect : Dialect) (verbose : Bool)
    (project : String) (file : Store.PlannedFile) (state : σ) : Option (Attempt σ) :=
  match openTransaction database state with
  | (.error _, _) => none
  | (.ok (), opened) =>
    match Lock.acquire database dialect (lockKey project file.name) opened with
    | (.error _, _) => none
    | (.ok (), locked) => attemptUnderLock? database dialect verbose project file locked

/-- The attempt that applying a file comes to, if it gets as far as the statements. -/
def attempt? (database : Database σ) (dialect : Dialect) (verbose : Bool) (project : String)
    (file : Store.PlannedFile) (state : σ) : Option (Attempt σ) :=
  match database.send .connect state with
  | (.error _, _) => none
  | (.ok _, connected) => attemptInTransaction? database dialect verbose project file connected

def pending (before : Contents keys) (project : String) (file : Store.PlannedFile) : List String :=
  file.statements.drop (before.checkpoint project file.name).covered

inductive Course (view : σ → Session keys) (discards : Bool) (database : Database σ)
    (before : Contents keys) (project : String) (file : Store.PlannedFile)
    (attempt : Option (Attempt σ)) (run : Run σ FileOutcome) : Prop where
  | skipped (unattempted : attempt = none)
      (complete : (before.checkpoint project file.name).isComplete = true)
      (ended : Ended view run
        (.ok ⟨file.name, 0, true, (before.checkpoint project file.name).index,
          (before.checkpoint project file.name).status⟩) before)
  | undone (unattempted : attempt = none) (ended : Undone view run before)
  | attempted (made : Attempt σ) (found : attempt = some made)
      (incomplete : (before.checkpoint project file.name).isComplete = false)
      (reached : Attempted view discards before before (some (project, file.name))
        (before.checkpoint project file.name) (before.checkpoint project file.name).covered
        (pending before project file) made)
      (concluded : run.result = (conclude database made).result ∧
        view run.state = view (conclude database made).state)

theorem Course.of_same {attempt : Option (Attempt σ)} {run other : Run σ FileOutcome}
    (course : Course view discards database before project file attempt run)
    (result : other.result = run.result) (final : view other.state = view run.state) :
    Course view discards database before project file attempt other := by
  cases course with
  | skipped unattempted complete ended =>
    exact .skipped unattempted complete ⟨result.trans ended.1, final.trans ended.2⟩
  | undone unattempted undone =>
    obtain ⟨problem, failure, ended⟩ := undone
    exact .undone unattempted ⟨problem, failure, result.trans ended.1, final.trans ended.2⟩
  | attempted made found incomplete reached concluded =>
    exact .attempted made found incomplete reached
      ⟨result.trans concluded.1, final.trans concluded.2⟩

/-- What the transaction of a file comes to, whichever way, it is over. -/
theorem conclude_idle {attempt : Attempt σ} {data : Contents keys}
    {owner : Option (String × String)}
    (rules : database.Follows dialect discards view)
    (aftermath : (view attempt.state).Aftermath discards before data owner) :
    (view (conclude database attempt).state).transaction = none := by
  cases aftermath with
  | intact holds =>
    rcases conclude_holds rules holds with ⟨_, final⟩ | ⟨_, _, _, final⟩ <;> rw [final]
  | aborted opened kept remains dead =>
    obtain ⟨_, _, _, final⟩ := conclude_aborted rules kept remains dead
    rw [final]
  | ended _ bare =>
    cases saving : saveCheckpoint database attempt.checkpoint attempt.state with
    | mk answer after =>
      cases answer with
      | ok _ =>
        rcases conclude_bare_saved rules bare saving with ⟨_, final⟩ | ⟨_, _, _, final⟩ <;>
          rw [final]
      | error problem =>
        obtain ⟨_, _, _, final⟩ := conclude_bare_unsaved rules bare saving
        rw [final]

theorem Attempted.aftermath {durable data : Contents keys} {owner : Option (String × String)}
    {checkpoint : Checkpoint} {start : Nat} {pending : List String} {attempt : Attempt σ}
    (reached : Attempted view discards durable data owner checkpoint start pending attempt) :
    ∃ done, (view attempt.state).Aftermath discards durable done owner := by
  cases reached with
  | completed _ _ _ holds => exact ⟨_, .intact holds⟩
  | stopped _ _ _ _ aftermath => exact ⟨_, aftermath⟩

theorem Course.idle {attempt : Option (Attempt σ)} {run : Run σ FileOutcome}
    (rules : database.Follows dialect discards view)
    (course : Course view discards database before project file attempt run) :
    (view run.state).transaction = none := by
  cases course with
  | skipped _ _ ended => rw [ended.2]
  | undone _ undone =>
    obtain ⟨_, _, ended⟩ := undone
    rw [ended.2]
  | attempted made _ _ reached concluded =>
    obtain ⟨done, aftermath⟩ := reached.aftermath
    rw [concluded.2]
    exact conclude_idle rules aftermath

section
variable (rules : database.Follows dialect discards view)
include rules

theorem applyUnderLock_course (verbose : Bool) {owner : Option (String × String)}
    (holds : (view state).Holds before before owner) :
    Course view discards database before project file
      (attemptUnderLock? database dialect verbose project file state)
      (applyUnderLock database dialect verbose project file state) := by
  cases loading : loadCheckpoint database project file.name state with
  | mk answer loaded =>
    cases answer with
    | error problem =>
      simp only [attemptUnderLock?, applyUnderLock, loading]
      obtain ⟨failure, failing⟩ := loadCheckpoint_error rules loading
      have aftermath : (view loaded).Aftermath discards before before owner := by
        rw [failing]
        exact holds.failed dialect
      exact .undone rfl (abandon_undone rules failure [] aftermath)
    | ok checkpoint =>
      obtain ⟨found, reading⟩ := loadCheckpoint_ok rules holds loading
      change checkpoint = before.checkpoint project file.name at found
      simp only [attemptUnderLock?, applyUnderLock, loading, found]
      by_cases complete : (before.checkpoint project file.name).isComplete = true
      · simp only [if_pos complete]
        rcases commit_holds rules
            (.ok (FileOutcome.mk file.name 0 true (before.checkpoint project file.name).index
              (before.checkpoint project file.name).status)) [] reading with ended | undone
        · exact .skipped rfl complete ended
        · exact .undone rfl undone
      · simp only [if_neg complete]
        have reached := applyStatements_attempted rules verbose file.statements 0
          (before.checkpoint project file.name) reading
        rw [Nat.zero_max, Nat.sub_zero] at reached
        exact .attempted _ rfl (by simpa using complete) reached ⟨rfl, rfl⟩

theorem applyInTransaction_course (verbose : Bool) (project : String) (file : Store.PlannedFile)
    (idle : view state = ⟨before, none⟩) :
    Course view discards database before project file
      (attemptInTransaction? database dialect verbose project file state)
      (applyInTransaction database dialect verbose project file state) := by
  have closed : (view state).transaction = none := by rw [idle]
  cases beginning : openTransaction database state with
  | mk answer opened =>
    cases answer with
    | error problem =>
      simp only [attemptInTransaction?, applyInTransaction, beginning]
      have unchanged := (openTransaction_error rules closed beginning).trans idle
      exact .undone rfl ⟨.connection problem, trivial, rfl, unchanged⟩
    | ok _ =>
      have holds := openTransaction_ok rules closed beginning
      rw [idle] at holds
      cases locking : Lock.acquire database dialect (lockKey project file.name) opened with
      | mk answer locked =>
        simp only [attemptInTransaction?, applyInTransaction, beginning, locking]
        cases answer with
        | error problem =>
          have aftermath : (view locked).Aftermath discards before before none := by
            rcases acquire_error rules locking with unharmed | failing
            · rw [unharmed]
              exact .intact holds
            · rw [failing]
              exact holds.failed dialect
          have failure : (MigrationError.connection problem).IsCommandFailure := trivial
          exact .undone rfl (abandon_undone rules failure [] aftermath)
        | ok _ =>
          rw [← acquire_ok rules locking] at holds
          exact applyUnderLock_course rules verbose holds

theorem applyFile_course (verbose : Bool) (project : String) (file : Store.PlannedFile)
    (idle : view state = ⟨before, none⟩) :
    Course view discards database before project file
      (attempt? database dialect verbose project file state)
      (applyFile database dialect verbose project file state) := by
  cases connecting : database.send .connect state with
  | mk answer connected =>
    have unchanged : view connected = view state := rules.answers connecting
    simp only [attempt?, applyFile, connecting]
    cases answer with
    | error failure =>
      exact .undone rfl ⟨.connection (.driver failure), trivial, rfl, unchanged.trans idle⟩
    | ok _ =>
      have course := applyInTransaction_course rules verbose project file (unchanged.trans idle)
      exact course.of_same rfl (releaseLock_kept rules (course.idle rules))

end

end SqlMigrations.Runner
