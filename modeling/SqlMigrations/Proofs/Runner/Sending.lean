import SqlMigrations.Lock.Advisory
import SqlMigrations.Runner.Apply

namespace SqlMigrations.Runner

variable {σ : Type} (database : Database σ) (state : σ)

theorem execute_eq (sql : String) :
    execute database sql state =
      ((database.send (.statement sql) state).1.mapError .driver,
        (database.send (.statement sql) state).2) := by
  rw [execute]
  rcases database.send (.statement sql) state with ⟨_ | _, after⟩ <;> rfl

theorem moveSavepoint_eq (move : SavepointMove) :
    moveSavepoint database move state =
      ((database.send (.savepoint move) state).1.mapError .driver,
        (database.send (.savepoint move) state).2) := by
  rw [moveSavepoint]
  rcases database.send (.savepoint move) state with ⟨_ | _, after⟩ <;> rfl

theorem openTransaction_eq :
    openTransaction database state =
      ((database.send .begin state).1.mapError .driver, (database.send .begin state).2) := by
  rw [openTransaction]
  rcases database.send .begin state with ⟨_ | _, after⟩ <;> rfl

theorem commitTransaction_eq :
    commitTransaction database state =
      ((database.send .commit state).1.mapError .driver,
        if (database.send .commit state).1.isOk then (database.send .commit state).2
        else (database.send .rollback (database.send .commit state).2).2) := by
  rw [commitTransaction]
  rcases database.send .commit state with ⟨_ | _, after⟩ <;> rfl

theorem loadCheckpoint_eq (project filename : String) :
    loadCheckpoint database project filename state =
      (((database.send (.load project filename) state).1.map
          (checkpointOfRow project filename)).mapError .driver,
        (database.send (.load project filename) state).2) := by
  rw [loadCheckpoint]
  rcases database.send (.load project filename) state with ⟨_ | _, after⟩ <;> rfl

theorem saveCheckpoint_eq (checkpoint : Checkpoint) :
    saveCheckpoint database checkpoint state =
      ((database.send (.save checkpoint) state).1.mapError .driver,
        (database.send (.save checkpoint) state).2) := by
  rw [saveCheckpoint]
  rcases database.send (.save checkpoint) state with ⟨_ | _, after⟩ <;> rfl

/-- What the answer to a lock comes to: MySQL may answer that the lock is not granted. -/
def lockResult (dialect : Dialect) : Except DriverFailure (Option Int) → Except ConnectionError Unit
  | .ok granted =>
    if dialect = .mysql ∧ granted ≠ some 1 then .error (.lockFailed "timeout or error") else .ok ()
  | .error failure =>
    .error (.lockFailed
      (if dialect = .postgres then "advisory lock: " ++ failure.message else failure.message))

theorem acquire_eq {dialect : Dialect} (locks : dialect ≠ .sqlite) (key : String) :
    Lock.acquire database dialect key state =
      (lockResult dialect (database.send (.lock key) state).1,
        (database.send (.lock key) state).2) := by
  cases dialect with
  | sqlite => contradiction
  | postgres =>
    rw [Lock.acquire]
    rcases database.send (.lock key) state with ⟨_ | _, after⟩ <;> rfl
  | mysql =>
    rw [Lock.acquire]
    rcases database.send (.lock key) state with ⟨failure | granted, after⟩
    · rfl
    · by_cases given : granted = some 1 <;> simp [lockResult, given]

theorem releaseLock_of_not_mysql {dialect : Dialect} (other : dialect ≠ .mysql) (key : String) :
    releaseLock database dialect key state = state := by
  cases dialect with
  | mysql => contradiction
  | postgres | sqlite => rfl

end SqlMigrations.Runner
