import SqlMigrations.Error
import SqlMigrations.Runner.Database

namespace SqlMigrations.Runner

variable {σ : Type}

/-- Sends a statement; returns the number of rows that it affects. -/
def execute (database : Database σ) (sql : String) (state : σ) : Except ConnectionError Nat × σ :=
  match database.send (.statement sql) state with
  | (.ok affected, after) => (.ok affected, after)
  | (.error failure, after) => (.error (.driver failure), after)

def moveSavepoint (database : Database σ) (move : SavepointMove) (state : σ) :
    Except ConnectionError Unit × σ :=
  match database.send (.savepoint move) state with
  | (.ok _, after) => (.ok (), after)
  | (.error failure, after) => (.error (.driver failure), after)

def openTransaction (database : Database σ) (state : σ) : Except ConnectionError Unit × σ :=
  match database.send .begin state with
  | (.ok _, after) => (.ok (), after)
  | (.error failure, after) => (.error (.driver failure), after)

/-- Gives up a transaction, whatever the database answers. -/
def abandonTransaction (database : Database σ) (state : σ) : σ :=
  (database.send .rollback state).2

def commitTransaction (database : Database σ) (state : σ) : Except ConnectionError Unit × σ :=
  match database.send .commit state with
  | (.ok _, after) => (.ok (), after)
  | (.error failure, after) => (.error (.driver failure), abandonTransaction database after)

def rollbackTransaction (database : Database σ) (state : σ) : Except ConnectionError Unit × σ :=
  match database.send .rollback state with
  | (.ok _, after) => (.ok (), after)
  | (.error failure, after) => (.error (.driver failure), abandonTransaction database after)

/-- The checkpoint of a row, or the one of a file that never ran. -/
def checkpointOfRow (project filename : String) (row : Option (Int × String)) : Checkpoint :=
  match row with
  | some (index, status) => ⟨project, filename, index, status⟩
  | none => Checkpoint.fresh project filename

def loadCheckpoint (database : Database σ) (project filename : String) (state : σ) :
    Except MigrationError Checkpoint × σ :=
  match database.send (.load project filename) state with
  | (.ok row, after) => (.ok (checkpointOfRow project filename row), after)
  | (.error failure, after) => (.error (.driver failure), after)

def saveCheckpoint (database : Database σ) (checkpoint : Checkpoint) (state : σ) :
    Except MigrationError Unit × σ :=
  match database.send (.save checkpoint) state with
  | (.ok _, after) => (.ok (), after)
  | (.error failure, after) => (.error (.driver failure), after)

end SqlMigrations.Runner
