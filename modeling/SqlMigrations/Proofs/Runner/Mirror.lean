import SqlMigrations.Proofs.Database.Transcript
import SqlMigrations.Proofs.Runner.Counterpart
import SqlMigrations.Proofs.Runner.Sending

namespace SqlMigrations

variable {σ τ α β : Type}

/-- Commands of a kind are answered alike in related states, and the states stay related. -/
def Database.Mirrors (mirrored : Command → Prop) (first : Database σ) (second : Database τ)
    (related : σ → τ → Prop) : Prop :=
  ∀ command, mirrored command → ∀ {s t}, related s t →
    Matches (fun _ => related) (first.send command s) (second.send command t)

theorem Matches.map {related : σ → τ → Prop} {left : α × σ} {right : α × τ}
    (same : Matches (fun _ => related) left right) (use : α → β) :
    Matches (fun _ => related) (use left.1, left.2) (use right.1, right.2) :=
  ⟨congrArg use same.1, same.2⟩

theorem Database.Mirrors.mono {mirrored fewer : Command → Prop} {first : Database σ}
    {second : Database τ} {related : σ → τ → Prop}
    (mirrors : Database.Mirrors mirrored first second related)
    (within : ∀ command, fewer command → mirrored command) :
    Database.Mirrors fewer first second related :=
  fun command known => mirrors command (within command known)

namespace Runner

variable {first : Database σ} {second : Database τ}
  {related : σ → τ → Prop} {s : σ} {t : τ}

section
variable
  (mirrors : Database.Mirrors (fun command => command.isRelease = false) first second related)
include mirrors

theorem execute_matches (sql : String) (same : related s t) :
    Matches (fun _ => related) (execute first sql s) (execute second sql t) := by
  rw [execute_eq, execute_eq]
  exact (mirrors (.statement sql) rfl same).map _

theorem moveSavepoint_matches (move : SavepointMove) (same : related s t) :
    Matches (fun _ => related) (moveSavepoint first move s) (moveSavepoint second move t) := by
  rw [moveSavepoint_eq, moveSavepoint_eq]
  exact (mirrors (.savepoint move) rfl same).map _

theorem executeInSavepoint_matches (sql : String) (same : related s t) :
    Matches (fun _ => related) (executeInSavepoint first sql s)
      (executeInSavepoint second sql t) := by
  have setting := moveSavepoint_matches mirrors .set same
  revert setting
  simp only [executeInSavepoint]
  rcases moveSavepoint first .set s with ⟨answer, opened⟩
  rcases moveSavepoint second .set t with ⟨answerToo, openedToo⟩
  rintro ⟨rfl, set⟩
  cases answer with
  | error problem => exact ⟨rfl, set⟩
  | ok _ =>
    have executing := execute_matches mirrors sql set
    revert executing
    simp only
    rcases execute first sql opened with ⟨answer, performed⟩
    rcases execute second sql openedToo with ⟨answerToo, performedToo⟩
    rintro ⟨rfl, executed⟩
    cases answer with
    | ok count => exact moveSavepoint_matches mirrors .release executed
    | error problem =>
      have undoing := moveSavepoint_matches mirrors .rollBack executed
      revert undoing
      simp only
      rcases moveSavepoint first .rollBack performed with ⟨answer, undone⟩
      rcases moveSavepoint second .rollBack performedToo with ⟨answerToo, undoneToo⟩
      rintro ⟨rfl, back⟩
      cases answer <;> exact ⟨rfl, back⟩

theorem executeMigration_matches (dialect : Dialect) (sql : String) (same : related s t) :
    Matches (fun _ => related) (executeMigration first dialect sql s)
      (executeMigration second dialect sql t) := by
  cases dialect with
  | postgres => exact executeInSavepoint_matches mirrors sql same
  | mysql | sqlite => exact (execute_matches mirrors sql same).map _

theorem commitTransaction_matches (same : related s t) :
    Matches (fun _ => related) (commitTransaction first s) (commitTransaction second t) := by
  rw [commitTransaction_eq, commitTransaction_eq]
  obtain ⟨answers, committed⟩ := mirrors .commit rfl same
  rw [answers]
  refine ⟨rfl, ?_⟩
  simp only
  split
  · exact committed
  · exact (mirrors .rollback rfl committed).2

theorem acquire_matches (dialect : Dialect) (key : String) (same : related s t) :
    Matches (fun _ => related) (Lock.acquire first dialect key s)
      (Lock.acquire second dialect key t) := by
  by_cases locks : dialect = .sqlite
  · subst locks
    exact ⟨rfl, same⟩
  · rw [acquire_eq _ _ locks, acquire_eq _ _ locks]
    exact (mirrors (.lock key) rfl same).map _

theorem counterpart_of_mirrors (dialect : Dialect) :
    Counterpart first dialect second dialect related related where
  opens same := by
    rw [openTransaction_eq, openTransaction_eq]
    obtain ⟨answers, opened⟩ := mirrors .begin rfl same
    exact ⟨by rw [answers], by simpa only [ite_self] using opened⟩
  acquires key _ _ same := acquire_matches mirrors dialect key same
  loads project filename _ _ same := by
    rw [loadCheckpoint_eq, loadCheckpoint_eq]
    exact (mirrors (.load project filename) rfl same).map
      fun answer => (answer.map (checkpointOfRow project filename)).mapError MigrationError.driver
  executes sql _ _ same := by
    obtain ⟨answers, executed⟩ := executeMigration_matches mirrors dialect sql same
    exact ⟨by rw [answers], executed⟩
  saves checkpoint _ _ same := by
    rw [saveCheckpoint_eq, saveCheckpoint_eq]
    exact (mirrors (.save checkpoint) rfl same).map _
  commits same := commitTransaction_matches mirrors same
  abandons same := (mirrors .rollback rfl same).2

end

section
variable (mirrors : Database.Mirrors (fun _ => True) first second related)
include mirrors

theorem releaseLock_mirrors (dialect : Dialect) (key : String) (same : related s t) :
    related (releaseLock first dialect key s) (releaseLock second dialect key t) := by
  by_cases releases : dialect = .mysql
  · subst releases
    have unlocking := mirrors (.unlock key) trivial same
    revert unlocking
    simp only [releaseLock, Lock.release]
    rcases first.send (.unlock key) s with ⟨answer, unlocked⟩
    rcases second.send (.unlock key) t with ⟨answerToo, unlockedToo⟩
    rintro ⟨rfl, after⟩
    cases answer with
    | ok _ => exact after
    | error failure => exact (mirrors .close trivial after).2
  · rwa [releaseLock_of_not_mysql _ _ releases, releaseLock_of_not_mysql _ _ releases]

theorem applyFile_mirrors (dialect : Dialect) (shown hidden : Bool) (project : String)
    (file : Store.PlannedFile) (same : related s t) :
    SameRun related (applyFile first dialect shown project file s)
      (applyFile second dialect hidden project file t) :=
  (counterpart_of_mirrors (mirrors.mono fun _ _ => trivial) dialect).applyFile shown hidden project
    file (mirrors .connect trivial same) id (releaseLock_mirrors mirrors dialect _)

theorem applyFiles_mirrors (dialect : Dialect) (shown hidden : Bool) (project : String)
    (plan : List Store.PlannedFile) :
    ∀ {s t}, related s t → SameRun related (applyFiles first dialect shown project plan s)
      (applyFiles second dialect hidden project plan t) := by
  induction plan with
  | nil => exact fun same => ⟨rfl, same⟩
  | cons file rest induction =>
    intro s t same
    obtain ⟨result, after⟩ := applyFile_mirrors mirrors dialect shown hidden project file same
    simp only [applyFiles, result]
    cases (applyFile second dialect hidden project file t).result with
    | error problem => exact ⟨rfl, after⟩
    | ok outcome =>
      obtain ⟨later, final⟩ := induction after
      exact ⟨by simp only [later], final⟩

theorem sendAll_mirrors (shown hidden : Bool) (statements : List String) :
    ∀ (index : Nat) {s t}, related s t → SameRun related (sendAll first shown index statements s)
      (sendAll second hidden index statements t) := by
  induction statements with
  | nil => exact fun _ _ _ same => ⟨rfl, same⟩
  | cons sql rest induction =>
    intro index s t same
    have executing := execute_matches (mirrors.mono fun _ _ => trivial) sql same
    revert executing
    simp only [sendAll]
    rcases execute first sql s with ⟨answer, after⟩
    rcases execute second sql t with ⟨answerToo, afterToo⟩
    rintro ⟨rfl, executed⟩
    cases answer with
    | error problem => exact ⟨rfl, executed⟩
    | ok count => exact induction (index + 1) executed

theorem run_mirrors (dialect : Dialect) (projects : Store.Projects) (shown hidden : Bool)
    (supply : Statement.Supply) (next : Nat) (project : String) (same : related s t) :
    SameRun related (run first dialect projects shown supply next project s)
      (run second dialect projects hidden supply next project t) := by
  simp only [run]
  cases projects.find project with
  | error problem => exact ⟨rfl, same⟩
  | ok files =>
    obtain ⟨result, prepared⟩ : SameRun related (bootstrap first dialect shown s)
        (bootstrap second dialect hidden t) :=
      sendAll_mirrors mirrors shown hidden (bootstrapStatements dialect) 0 same
    simp only [runPlan, result]
    cases (bootstrap second dialect hidden t).result with
    | error problem => exact ⟨rfl, prepared⟩
    | ok _ =>
      obtain ⟨results, final⟩ := applyFiles_mirrors mirrors dialect shown hidden project
        (files.plan supply next).1 prepared
      exact ⟨by simp only [results], final⟩

end

end Runner

end SqlMigrations
