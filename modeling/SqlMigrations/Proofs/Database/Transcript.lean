import SqlMigrations.Dialect
import SqlMigrations.Runner.Database

namespace SqlMigrations

/-- Whether a command belongs to the release of a lock: a connection that cannot release it is
closed. -/
def Command.isRelease : Command → Bool
  | .unlock _ | .close => true
  | _ => false

structure Exchange where
  command : Command
  answer : Except DriverFailure command.Answer

/-- Whether a command did not get what it is for. MySQL may answer that a lock is not granted. -/
def Exchange.failed (dialect : Dialect) : Exchange → Bool
  | ⟨.lock _, .ok granted⟩ => dialect == .mysql && granted != some 1
  | ⟨_, .ok _⟩ => false
  | ⟨_, .error _⟩ => true

variable {σ : Type}

def Database.transcribing (database : Database σ) : Database (σ × List Exchange) where
  send command state :=
    let answered := database.send command state.1
    (answered.1, (answered.2, state.2 ++ [⟨command, answered.1⟩]))

/-- Whether a part of the state is the transcript of the database. -/
def Database.Logs (database : Database σ) (log : σ → List Exchange) : Prop :=
  ∀ command state, log (database.send command state).2 =
    log state ++ [⟨command, (database.send command state).1⟩]

theorem Database.transcribing_logs (database : Database σ) : database.transcribing.Logs Prod.snd :=
  fun _ _ => rfl

theorem Database.Logs.sent {database : Database σ} {log : σ → List Exchange}
    (faithful : database.Logs log) {command : Command} {state after : σ}
    {answer : Except DriverFailure command.Answer}
    (reply : database.send command state = (answer, after)) :
    log after = log state ++ [⟨command, answer⟩] := by
  have logged := faithful command state
  rwa [reply] at logged

/-- Whether every command got what it is for, the release of a lock aside. -/
def smooth (dialect : Dialect) (exchanges : List Exchange) : Bool :=
  exchanges.all (fun exchange => exchange.command.isRelease || !exchange.failed dialect)

@[simp] theorem smooth_append (dialect : Dialect) (earlier later : List Exchange) :
    smooth dialect (earlier ++ later) = (smooth dialect earlier && smooth dialect later) :=
  List.all_append

end SqlMigrations
