import SqlMigrations.Runner.Run

/-!
Runners on two databases whose operations correspond. The states are related in one way outside of
a transaction and in another inside of one; the operations that a runner is made of answer alike and
keep to that. Then applying files comes to the same on both, whether statements are shown or not.
-/

namespace SqlMigrations

variable {σ τ α : Type}

/-- Two answers are the same, and the states after them are related as it says. -/
def Matches (related : α → σ → τ → Prop) (left : α × σ) (right : α × τ) : Prop :=
  left.1 = right.1 ∧ related left.1 left.2 right.2

namespace Runner

/-- The operations on a file correspond. Of a failing statement only the text that is recorded has
to be the same. -/
structure Counterpart (first : Database σ) (left : Dialect) (second : Database τ) (right : Dialect)
    (idle during : σ → τ → Prop) : Prop where
  opens : ∀ {s t}, idle s t →
    Matches (fun opened => if opened.isOk then during else idle) (openTransaction first s)
      (openTransaction second t)
  acquires : ∀ key {s t}, during s t →
    Matches (fun _ => during) (Lock.acquire first left key s) (Lock.acquire second right key t)
  loads : ∀ project filename {s t}, during s t →
    Matches (fun _ => during) (loadCheckpoint first project filename s)
      (loadCheckpoint second project filename t)
  executes : ∀ sql {s t}, during s t →
    (executeMigration first left sql s).1.mapError ConnectionError.serverMessage =
        (executeMigration second right sql t).1.mapError ConnectionError.serverMessage ∧
      during (executeMigration first left sql s).2 (executeMigration second right sql t).2
  saves : ∀ checkpoint {s t}, during s t →
    Matches (fun _ => during) (saveCheckpoint first checkpoint s)
      (saveCheckpoint second checkpoint t)
  commits : ∀ {s t}, during s t →
    Matches (fun _ => idle) (commitTransaction first s) (commitTransaction second t)
  abandons : ∀ {s t}, during s t →
    idle (abandonTransaction first s) (abandonTransaction second t)

/-- Two runs return the same and end in related states. -/
def SameRun (related : σ → τ → Prop) (left : Run σ α) (right : Run τ α) : Prop :=
  left.result = right.result ∧ related left.state right.state

/-- Two attempts come equally far and end in related states. -/
def SameAttempt (related : σ → τ → Prop) (left : Attempt σ) (right : Attempt τ) : Prop :=
  left.checkpoint = right.checkpoint ∧ left.applied = right.applied ∧
    left.failure = right.failure ∧ related left.state right.state

namespace Counterpart

variable {first : Database σ} {left : Dialect} {second : Database τ} {right : Dialect}
  {idle during : σ → τ → Prop} {s : σ} {t : τ}
  (counterpart : Counterpart first left second right idle during)
include counterpart

theorem applyStatements (shown hidden : Bool) (statements : List String) :
    ∀ (index : Nat) (checkpoint : Checkpoint) {s : σ} {t : τ}, during s t →
      SameAttempt during (Runner.applyStatements first left shown index statements checkpoint s)
        (Runner.applyStatements second right hidden index statements checkpoint t) := by
  induction statements with
  | nil => exact fun _ _ _ _ related => ⟨rfl, rfl, rfl, related⟩
  | cons sql rest induction =>
    intro index checkpoint s t related
    simp only [Runner.applyStatements]
    by_cases covered : checkpoint.isApplied index = true
    · rw [if_pos covered, if_pos covered]
      obtain ⟨written, applied, failure, after⟩ := induction (index + 1) checkpoint related
      exact ⟨written, applied, failure, after⟩
    · rw [if_neg covered, if_neg covered]
      obtain ⟨answers, after⟩ := counterpart.executes sql related
      cases executed : executeMigration first left sql s with
      | mk answer performed =>
        cases executedToo : executeMigration second right sql t with
        | mk answerToo performedToo =>
          rw [executed, executedToo] at answers after
          cases answer <;> cases answerToo
          case ok.error | error.ok => contradiction
          case ok.ok =>
            obtain ⟨written, applied, failure, final⟩ :=
              induction (index + 1) { checkpoint with index := Int.ofNat index } after
            exact ⟨written, congrArg (· + 1) applied, failure, final⟩
          case error.error problem problemToo =>
            have said : problem.serverMessage = problemToo.serverMessage :=
              Except.error.inj answers
            exact ⟨by simp only [said], rfl, by simp only [said], after⟩

theorem commit (result : Except MigrationError α) (lines linesToo : List String)
    (related : during s t) :
    SameRun idle (Runner.commit first result lines s) (Runner.commit second result linesToo t) := by
  have committing := counterpart.commits related
  revert committing
  simp only [Runner.commit]
  cases commitTransaction first s with
  | mk answer after =>
    cases commitTransaction second t with
    | mk answerToo afterToo =>
      rintro ⟨rfl, ended⟩
      cases answer <;> exact ⟨rfl, ended⟩

theorem conclude {attempt : Attempt σ} {attemptToo : Attempt τ}
    (same : SameAttempt during attempt attemptToo) :
    SameRun idle (Runner.conclude first attempt) (Runner.conclude second attemptToo) := by
  obtain ⟨written, applied, failure, related⟩ := same
  have outcome : attempt.outcome = attemptToo.outcome := by
    simp only [Attempt.outcome, written, applied, failure]
  have saving := counterpart.saves attemptToo.checkpoint related
  revert saving
  simp only [Runner.conclude, written, outcome]
  cases saveCheckpoint first attemptToo.checkpoint attempt.state with
  | mk answer after =>
    cases saveCheckpoint second attemptToo.checkpoint attemptToo.state with
    | mk answerToo afterToo =>
      rintro ⟨rfl, saved⟩
      cases answer with
      | error problem => exact ⟨rfl, counterpart.abandons saved⟩
      | ok _ => exact counterpart.commit attemptToo.outcome attempt.lines attemptToo.lines saved

theorem applyUnderLock (shown hidden : Bool) (project : String) (file : Store.PlannedFile)
    (related : during s t) :
    SameRun idle (Runner.applyUnderLock first left shown project file s)
      (Runner.applyUnderLock second right hidden project file t) := by
  have loading := counterpart.loads project file.name related
  revert loading
  simp only [Runner.applyUnderLock]
  cases loadCheckpoint first project file.name s with
  | mk answer after =>
    cases loadCheckpoint second project file.name t with
    | mk answerToo afterToo =>
      rintro ⟨rfl, loaded⟩
      cases answer with
      | error problem => exact ⟨rfl, counterpart.abandons loaded⟩
      | ok checkpoint =>
        by_cases complete : checkpoint.isComplete = true
        · simp only [if_pos complete]
          exact counterpart.commit _ [] [] loaded
        · simp only [if_neg complete]
          exact counterpart.conclude
            (counterpart.applyStatements shown hidden file.statements 0 checkpoint loaded)

theorem applyInTransaction (shown hidden : Bool) (project : String) (file : Store.PlannedFile)
    (related : idle s t) :
    SameRun idle (Runner.applyInTransaction first left shown project file s)
      (Runner.applyInTransaction second right hidden project file t) := by
  have opening := counterpart.opens related
  revert opening
  simp only [Runner.applyInTransaction]
  cases openTransaction first s with
  | mk answer after =>
    cases openTransaction second t with
    | mk answerToo afterToo =>
      rintro ⟨rfl, opened⟩
      cases answer with
      | error problem => exact ⟨rfl, opened⟩
      | ok _ =>
        have locking := counterpart.acquires (lockKey project file.name) opened
        revert locking
        simp only
        cases Lock.acquire first left (lockKey project file.name) after with
        | mk granted locked =>
          cases Lock.acquire second right (lockKey project file.name) afterToo with
          | mk grantedToo lockedToo =>
            rintro ⟨rfl, held⟩
            cases granted with
            | error problem => exact ⟨rfl, counterpart.abandons held⟩
            | ok _ => exact counterpart.applyUnderLock shown hidden project file held

/-- The lock is released after everything else, so it matters to the final states only. -/
theorem applyFile {final : σ → τ → Prop} (shown hidden : Bool) (project : String)
    (file : Store.PlannedFile)
    (connects : Matches (fun _ => idle) (first.send .connect s) (second.send .connect t))
    (unconnected : ∀ {s t}, idle s t → final s t)
    (releases : ∀ {s t}, idle s t → final (releaseLock first left (lockKey project file.name) s)
      (releaseLock second right (lockKey project file.name) t)) :
    SameRun final (Runner.applyFile first left shown project file s)
      (Runner.applyFile second right hidden project file t) := by
  revert connects
  simp only [Runner.applyFile]
  cases first.send .connect s with
  | mk answer after =>
    cases second.send .connect t with
    | mk answerToo afterToo =>
      rintro ⟨rfl, connected⟩
      cases answer with
      | error failure => exact ⟨rfl, unconnected connected⟩
      | ok _ =>
        obtain ⟨result, ended⟩ :=
          counterpart.applyInTransaction shown hidden project file connected
        exact ⟨result, releases ended⟩

end Counterpart

end Runner

end SqlMigrations
