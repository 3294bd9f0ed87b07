import SqlMigrations.Proofs.Checkpoint.Covered
import SqlMigrations.Proofs.Database.Engine
import SqlMigrations.Proofs.Runner.Counterpart
import SqlMigrations.Proofs.Runner.Failures
import SqlMigrations.Proofs.Runner.Sending

/-!
Savepoints around the statements make up for what a failure costs on PostgreSQL: applying a file
comes to the same on every engine, and the checkpoint of a failing statement is always committed.
-/

namespace SqlMigrations.Runner

variable {σ δ : Type} {keys : Collation} {behaviour : Behaviour δ} {stored : Stored δ}

/-- What executing a statement leaves: what it did, or what there was before it failed. -/
def settled (behaviour : Behaviour δ) (sql : String) (stored : Stored δ) : Stored δ :=
  match behaviour sql stored with
  | .ok next => next
  | .error _ => stored

theorem executeMigration_healthy (dialect : Dialect) (sql : String) (durable : Stored δ)
    (savepoints : List (Stored δ)) :
    ∃ answer left, executeMigration (engineDatabase keys dialect behaviour) dialect sql
          (Engine.healthy durable stored savepoints) =
        (answer, Engine.healthy durable (settled behaviour sql stored) left) ∧
      answer.mapError ConnectionError.serverMessage = (behaviour sql stored).map fun _ => () := by
  simp only [settled]
  cases behaves : behaviour sql stored with
  | ok next =>
    refine ⟨.ok (), savepoints, ?_, rfl⟩
    cases dialect with
    | postgres =>
      simp only [executeMigration, executeInSavepoint, moveSavepoint, execute, engine_set,
        engine_executes _ _ _ behaves, engine_release]
    | mysql | sqlite =>
      simp only [executeMigration, ignoreCount, execute, engine_executes _ _ _ behaves]
      rfl
  | error message =>
    refine ⟨.error (.driver (.refused (refusalLabel dialect) message)), ?_⟩
    cases dialect with
    | postgres =>
      have aborts : (Engine.healthy durable stored (stored :: savepoints)).failed .postgres =
          Engine.aborted durable stored (stored :: savepoints) := rfl
      refine ⟨stored :: savepoints, ?_, rfl⟩
      simp only [executeMigration, executeInSavepoint, moveSavepoint, execute, engine_set,
        engine_refuses _ _ _ behaves, aborts, engine_rollBack]
    | mysql | sqlite =>
      refine ⟨savepoints, ?_, rfl⟩
      simp only [executeMigration, ignoreCount, execute, engine_refuses _ _ _ behaves]
      rfl

/-- Two engines are in transactions that see the same. Left-over savepoints do not matter. -/
def Abreast (first second : Engine δ) : Prop :=
  ∃ durable stored kept keptToo, first = Engine.healthy durable stored kept ∧
    second = Engine.healthy durable stored keptToo

def Level (first second : Engine δ) : Prop :=
  first = second ∧ first.work = none

theorem acquire_healthy (dialect : Dialect) (key : String) (durable : Stored δ)
    (savepoints : List (Stored δ)) :
    Lock.acquire (engineDatabase keys dialect behaviour) dialect key
      (Engine.healthy durable stored savepoints) =
        (.ok (), Engine.healthy durable stored savepoints) := by
  cases dialect <;> rfl

theorem counterpart_of_engines (behaviour : Behaviour δ) (left right : Dialect) :
    Counterpart (engineDatabase keys left behaviour) left
      (engineDatabase keys right behaviour) right Level
      Abreast where
  opens := by
    rintro ⟨durable, _⟩ _ ⟨rfl, rfl⟩
    exact ⟨rfl, durable, durable, [], [], rfl, rfl⟩
  acquires key := by
    rintro _ _ ⟨durable, stored, kept, keptToo, rfl, rfl⟩
    rw [acquire_healthy, acquire_healthy]
    exact ⟨rfl, durable, stored, kept, keptToo, rfl, rfl⟩
  loads project filename := by
    rintro _ _ ⟨durable, stored, kept, keptToo, rfl, rfl⟩
    simp only [loadCheckpoint, engine_load]
    exact ⟨rfl, durable, stored, kept, keptToo, rfl, rfl⟩
  executes sql := by
    rintro _ _ ⟨durable, stored, kept, keptToo, rfl, rfl⟩
    obtain ⟨answer, rest, executed, said⟩ := executeMigration_healthy left sql durable kept
    obtain ⟨answerToo, restToo, executedToo, saidToo⟩ :=
      executeMigration_healthy right sql durable keptToo
    rw [executed, executedToo]
    exact ⟨said.trans saidToo.symm, durable, _, rest, restToo, rfl, rfl⟩
  saves checkpoint := by
    rintro _ _ ⟨durable, stored, kept, keptToo, rfl, rfl⟩
    simp only [saveCheckpoint, engine_save]
    exact ⟨rfl, durable, _, kept, keptToo, rfl, rfl⟩
  commits := by
    rintro _ _ ⟨durable, stored, kept, keptToo, rfl, rfl⟩
    simp only [commitTransaction, engine_commit]
    exact ⟨rfl, rfl, rfl⟩
  abandons := by
    rintro _ _ ⟨durable, stored, kept, keptToo, rfl, rfl⟩
    exact ⟨rfl, rfl⟩

theorem releaseLock_engine (dialect : Dialect) (key : String) (stored : Stored δ) :
    releaseLock (engineDatabase keys dialect behaviour) dialect key ⟨stored, none⟩ =
      ⟨stored, none⟩ := by
  cases dialect <;> rfl

theorem conclude_healthy (dialect : Dialect) {attempt : Attempt (Engine δ)} {durable : Stored δ}
    {savepoints : List (Stored δ)}
    (healthy : attempt.state = Engine.healthy durable stored savepoints) :
    (conclude (engineDatabase keys dialect behaviour) attempt).result = attempt.outcome ∧
      (conclude (engineDatabase keys dialect behaviour) attempt).state =
        ⟨stored.save keys attempt.checkpoint, none⟩ := by
  simp only [conclude, saveCheckpoint, healthy, engine_save, commit, commitTransaction,
    engine_commit, and_self]

theorem applyFile_engine (dialect : Dialect) (verbose : Bool) (project : String)
    (file : Store.PlannedFile) :
    applyFile (engineDatabase keys dialect behaviour) dialect verbose project file ⟨stored, none⟩ =
      { applyUnderLock (engineDatabase keys dialect behaviour) dialect verbose project file
          (Engine.healthy stored stored []) with
        state := releaseLock (engineDatabase keys dialect behaviour) dialect
          (lockKey project file.name)
          (applyUnderLock (engineDatabase keys dialect behaviour) dialect verbose project file
            (Engine.healthy stored stored [])).state } := by
  have connecting : (engineDatabase keys dialect behaviour).send .connect ⟨stored, none⟩ =
      (.ok (), ⟨stored, none⟩) := rfl
  have opening : openTransaction (engineDatabase keys dialect behaviour) ⟨stored, none⟩ =
      (.ok (), Engine.healthy stored stored []) := rfl
  simp only [applyFile, applyInTransaction, connecting, opening, acquire_healthy]

/-- Nothing but a statement makes an engine fail a file, and its checkpoint is committed then. -/
theorem applyFile_engine_error (dialect : Dialect) (verbose : Bool) (project : String)
    (file : Store.PlannedFile) {problem : MigrationError}
    (failed : (applyFile (engineDatabase keys dialect behaviour) dialect verbose project file
      ⟨stored, none⟩).result = .error problem) :
    ∃ index message reached, problem = .statement file.name index message ∧
      (applyFile (engineDatabase keys dialect behaviour) dialect verbose project file
        ⟨stored, none⟩).state.durable.row project file.name = some (reached, message) ∧
      ((stored.checkpoint project file.name).InRange → reached = (index : Int) - 1) := by
  rw [applyFile_engine] at failed ⊢
  simp only [applyUnderLock, loadCheckpoint, engine_load] at failed ⊢
  by_cases complete : (checkpointOfRow project file.name
      (stored.row project file.name)).isComplete = true
  · simp only [if_pos complete, commit, commitTransaction, engine_commit] at failed
    cases failed
  · simp only [if_neg complete] at failed ⊢
    obtain ⟨_, _, _, durable, after, kept, _, healthy, _⟩ :=
      (counterpart_of_engines behaviour dialect dialect).applyStatements verbose verbose
        file.statements 0 (checkpointOfRow project file.name (stored.row project file.name))
        ⟨stored, stored, [], [], rfl, rfl⟩
    obtain ⟨result, final⟩ := conclude_healthy dialect healthy
    rw [result] at failed
    obtain ⟨index, message, reached, named, written, before⟩ :=
      applyStatements_failure _ _ _ _ (Attempt.failure_of_outcome failed)
    rw [checkpointOfRow_project, checkpointOfRow_filename] at written
    rw [final, releaseLock_engine, written]
    refine ⟨index, message, reached, by simpa using named, after.row_save _ _ _ _, ?_⟩
    rintro ⟨lower, upper⟩
    exact before (by simpa [Stored.checkpoint] using lower)
      (by simpa [Stored.checkpoint] using upper)

/-- Applying a file with savepoints on PostgreSQL comes to what it comes to on an engine where
failures cost nothing, whatever the statements do: the same result, data and checkpoints. In
particular the checkpoint of a failing statement is committed. -/
theorem savepoints_implement_plain (behaviour : Behaviour δ) (plain : Dialect)
    (shown hidden : Bool) (project : String) (file : Store.PlannedFile) (stored : Stored δ) :
    SameRun Level
      (applyFile (engineDatabase keys .postgres behaviour) .postgres shown project file
        ⟨stored, none⟩)
      (applyFile (engineDatabase keys plain behaviour) plain hidden project file ⟨stored, none⟩) ∧
    ∀ problem, (applyFile (engineDatabase keys .postgres behaviour) .postgres shown project file
        ⟨stored, none⟩).result = .error problem →
      ∃ index message reached, problem = .statement file.name index message ∧
        (applyFile (engineDatabase keys .postgres behaviour) .postgres shown project file
          ⟨stored, none⟩).state.durable.row project file.name = some (reached, message) ∧
        ((stored.checkpoint project file.name).InRange → reached = (index : Int) - 1) := by
  refine ⟨?_, fun _ => applyFile_engine_error .postgres shown project file⟩
  have start : Level (⟨stored, none⟩ : Engine δ) ⟨stored, none⟩ := ⟨rfl, rfl⟩
  refine (counterpart_of_engines behaviour .postgres plain).applyFile shown hidden project file
    ⟨rfl, start⟩ id ?_
  rintro ⟨durable, _⟩ _ ⟨rfl, rfl⟩
  rw [releaseLock_engine, releaseLock_engine]
  exact ⟨rfl, rfl⟩

/-- Keeps the statements, and refuses `B`. -/
def refusingB : Behaviour (List String) := fun sql stored =>
  if sql = "B" then .error "no such table"
  else .ok { stored with data := stored.data ++ [sql] }

/-- Statements sent plainly to an engine whose transactions abort lose the checkpoint. -/
example : (applyFile (engineDatabase .exact .postgres refusingB) .sqlite false "p"
    ⟨"a.up.sql", ["A", "B", "C"]⟩ ⟨⟨[], fun _ _ => none⟩, none⟩).state.durable.row "p"
      "a.up.sql" = none :=
  rfl

theorem refusingB_alike :
    SameRun Level
      (applyFile (engineDatabase .exact .postgres refusingB) .postgres false "p"
        ⟨"a.up.sql", ["A", "B", "C"]⟩ ⟨⟨[], fun _ _ => none⟩, none⟩)
      (applyFile (engineDatabase .exact .sqlite refusingB) .sqlite false "p"
        ⟨"a.up.sql", ["A", "B", "C"]⟩ ⟨⟨[], fun _ _ => none⟩, none⟩) ∧
    ∃ index message reached,
      MigrationError.statement "a.up.sql" 1 "no such table" =
          .statement "a.up.sql" index message ∧
        (applyFile (engineDatabase .exact .postgres refusingB) .postgres false "p"
          ⟨"a.up.sql", ["A", "B", "C"]⟩ ⟨⟨[], fun _ _ => none⟩, none⟩).state.durable.row "p"
            "a.up.sql" = some (reached, message) ∧
        reached = (index : Int) - 1 := by
  obtain ⟨alike, recorded⟩ := savepoints_implement_plain refusingB .sqlite false false "p"
    ⟨"a.up.sql", ["A", "B", "C"]⟩ ⟨[], fun _ _ => none⟩
  obtain ⟨index, message, reached, named, row, before⟩ :=
    recorded (.statement "a.up.sql" 1 "no such table") rfl
  exact ⟨alike, index, message, reached, named, row, before (by constructor <;> decide)⟩

end SqlMigrations.Runner
