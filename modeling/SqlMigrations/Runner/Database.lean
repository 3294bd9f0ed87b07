import SqlMigrations.Checkpoint.Record
import SqlMigrations.Error

namespace SqlMigrations

/-- What is done about the savepoint around a statement: it is set, or released so that the work
since then is kept, or rolled back to so that it is undone. -/
inductive SavepointMove where
  | set
  | release
  | rollBack
  deriving Repr, DecidableEq

def SavepointMove.text : SavepointMove → String
  | .set => "SAVEPOINT mig_stmt"
  | .release => "RELEASE SAVEPOINT mig_stmt"
  | .rollBack => "ROLLBACK TO SAVEPOINT mig_stmt"

/-- A command to a database. `connect` checks a connection out and `close` gives it up; `load` and
`save` are the queries `loadQuery` and `saveQuery` of its dialect with their parameters. -/
inductive Command where
  | connect
  | statement (sql : String)
  | savepoint (move : SavepointMove)
  | begin
  | commit
  | rollback
  | lock (key : String)
  | unlock (key : String)
  | load (project filename : String)
  | save (checkpoint : Checkpoint)
  | close
  deriving Repr, DecidableEq

/-- What a successful command yields: a statement the number of affected rows, a lock what the
server returned for it, and a load the index and the status of the row. -/
abbrev Command.Answer : Command → Type
  | .statement _ => Nat
  | .lock _ => Option Int
  | .load _ _ => Option (Int × String)
  | .connect | .savepoint _ | .begin | .commit | .rollback | .unlock _ | .save _ | .close => Unit

/-- A database over a state. -/
structure Database (σ : Type) where
  send : (command : Command) → σ → Except DriverFailure command.Answer × σ

/-- The database that also keeps the commands that it was sent, in order. -/
def Database.recording {σ : Type} (database : Database σ) : Database (σ × List Command) where
  send command state :=
    let answered := database.send command state.1
    (answered.1, (answered.2, state.2 ++ [command]))

end SqlMigrations
