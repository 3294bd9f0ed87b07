import SqlMigrations.Proofs.Database.Session

/-!
A database that keeps to the rules and fails where it is told to: `fault?` says by how many commands
it was sent before. Every pattern of failures is one such database.
-/

namespace SqlMigrations

/-- A failure, and whether it discards the open transaction. -/
structure Fault where
  failure : DriverFailure
  discards : Bool

def inAbortedTransaction : DriverFailure :=
  .refused .postgres
    "current transaction is aborted, commands ignored until end of transaction block"

variable {keys : Collation}

namespace Session

def unused : Session keys :=
  ⟨⟨.empty, []⟩, none⟩

theorem unused_idle :
    Prod.fst ((unused : Session keys), (0 : Nat)) = ⟨(unused : Session keys).durable, none⟩ :=
  rfl

def answer? (dialect : Dialect) (session : Session keys) :
    (command : Command) → Option (command.Answer × Session keys)
  | .connect => some ((), session)
  | .close | .rollback => some ((), session.rolledBack)
  | .begin => if session.transaction.isNone then some ((), session.begun) else none
  | .commit => some ((), session.committed)
  | .unlock _ => some ((), session)
  | .lock _ => if session.isAborted then none else some (some 1, session)
  | .load project filename =>
    if session.isAborted then none
    else
      some (session.contents.table.load dialect project filename, session.reading project filename)
  | .save checkpoint =>
    if session.isAborted then none else some ((), session.save dialect checkpoint)
  | .statement sql => if session.isAborted then none else some (0, session.perform sql)
  | .savepoint move =>
    (session.transaction.bind (fun opened => opened.move move)).map (fun moved =>
      ((), { session with transaction := some moved }))

def refused (dialect : Dialect) (discards : Bool) (session : Session keys) : Command → Session keys
  | .connect | .begin | .commit | .unlock _ => session
  | .close | .rollback => session.rolledBack
  | .statement _ =>
    if discards = true ∧ dialect ≠ .postgres then session.rolledBack else session.failed dialect
  | .lock _ | .load _ _ | .save _ | .savepoint _ => session.failed dialect

theorem answers_of_answer? {session after : Session keys} {dialect : Dialect} {discards : Bool}
    {command : Command} {answer : command.Answer}
    (answered : session.answer? dialect command = some (answer, after)) :
    session.Answers dialect discards command (.ok answer) after := by
  cases command <;> simp only [answer?, Option.some.injEq, Prod.mk.injEq,
    Option.ite_none_left_eq_some, Option.ite_none_right_eq_some, Bool.not_eq_true] at answered
  case connect => exact answered.2.symm
  case close => exact answered.2.symm
  case rollback => exact answered.2.symm
  case begin => exact fun _ => answered.2.2.symm
  case commit => exact answered.2.symm
  case unlock => exact fun _ => answered.2.symm
  case lock => exact ⟨answered.1, answered.2.2.symm⟩
  case load => exact ⟨answered.1, answered.2.1.symm, answered.2.2.symm⟩
  case save => exact ⟨answered.1, answered.2.2.symm⟩
  case statement => exact ⟨answered.1, answered.2.2.symm⟩
  case savepoint move =>
    intro opened during
    rw [during, Option.bind_some] at answered
    obtain ⟨moved, found, same⟩ := Option.map_eq_some_iff.mp answered
    exact ⟨moved, found, (Prod.mk.inj same).2.symm⟩

theorem answers_refused (session : Session keys) (dialect : Dialect) {discards allowed : Bool}
    (within : discards = true → allowed = true) (command : Command) (failure : DriverFailure) :
    session.Answers dialect allowed command (.error failure)
      (session.refused dialect discards command) := by
  cases command
  case statement sql =>
    simp only [refused]
    split
    · rename_i discarding
      exact .inr ⟨within discarding.1, discarding.2, rfl⟩
    · exact .inl rfl
  case commit => exact ⟨rfl, id⟩
  case begin => exact fun _ => rfl
  case unlock => exact fun _ => rfl
  all_goals rfl

end Session

def faultyDatabase (dialect : Dialect) (discards : Bool) (fault? : Nat → Option Fault) :
    Database (Session keys × Nat) where
  send command state :=
    match fault? state.2, state.1.answer? dialect command with
    | none, some answered => (.ok answered.1, answered.2, state.2 + 1)
    | none, none => (.error inAbortedTransaction,
      state.1.refused dialect false command, state.2 + 1)
    | some fault, _ =>
      (.error fault.failure, state.1.refused dialect (discards && fault.discards) command,
        state.2 + 1)

theorem faultyDatabase_follows (dialect : Dialect) (discards : Bool) (fault? : Nat → Option Fault) :
    (faultyDatabase dialect discards fault? : Database (Session keys × Nat)).Follows
      dialect discards
      Prod.fst := by
  intro command state
  simp only [faultyDatabase]
  split
  · rename_i answered _ found
    exact Session.answers_of_answer? found
  · exact Session.answers_refused state.1 dialect (by simp) command _
  · exact Session.answers_refused state.1 dialect (by simp +contextual) command _

end SqlMigrations
