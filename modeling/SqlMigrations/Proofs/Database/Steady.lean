import SqlMigrations.Proofs.Database.Faulty
import SqlMigrations.Proofs.Database.Transcript
import SqlMigrations.Runner.Run

/-!
Steady databases. Whether a statement is refused, and with what text, depends on the statement
alone, and every other command succeeds that a session can take.
-/

namespace SqlMigrations

variable {σ : Type} {dialect : Dialect} {keys : Collation} {database : Database σ}
  {view : σ → Session keys}
  {refusal? : String → Option String}

/-- `refusal?` gives the texts of the refusals. The checkpoint table can be created. -/
structure Database.Steady (dialect : Dialect) (database : Database σ) (view : σ → Session keys)
    (refusal? : String → Option String) : Prop where
  rules : database.Transactional dialect view
  prepares : ∀ sql ∈ Runner.bootstrapStatements dialect, refusal? sql = none
  accepts : ∀ {sql state}, (view state).isAborted = false → refusal? sql = none →
    ∃ count, (database.send (.statement sql) state).1 = .ok count
  refuses : ∀ {sql state text}, (view state).isAborted = false → refusal? sql = some text →
    ∃ failure : DriverFailure, (database.send (.statement sql) state).1 = .error failure ∧
      failure.serverMessage = text
  succeeds : ∀ {command state}, (∀ sql, command ≠ .statement sql) →
    ((view state).answer? dialect command).isSome = true →
      Exchange.failed dialect ⟨command, (database.send command state).1⟩ = false

theorem Database.Steady.transcribing (steady : database.Steady dialect view refusal?) :
    database.transcribing.Steady dialect (view ∘ Prod.fst) refusal? where
  rules command state := steady.rules command state.1
  prepares := steady.prepares
  accepts healthy accepted := steady.accepts healthy accepted
  refuses healthy refused := steady.refuses healthy refused
  succeeds other taken := steady.succeeds other taken

def Command.failure? (refusal? : String → Option String) : Command → Option DriverFailure
  | .statement sql => (refusal? sql).map (.refused .postgres)
  | _ => none

def refusingDatabase (dialect : Dialect) (refusal? : String → Option String) :
    Database (Session keys) where
  send command session :=
    match command.failure? refusal?, session.answer? dialect command with
    | none, some answered => (.ok answered.1, answered.2)
    | none, none => (.error inAbortedTransaction, session.refused dialect false command)
    | some failure, _ => (.error failure, session.refused dialect false command)

theorem refusingDatabase_transactional (dialect : Dialect) (refusal? : String → Option String) :
    (refusingDatabase dialect refusal? : Database (Session keys)).Transactional dialect id := by
  intro command session
  simp only [refusingDatabase]
  split
  · rename_i answered _ found
    exact Session.answers_of_answer? found
  · exact Session.answers_refused session dialect id command _
  · exact Session.answers_refused session dialect id command _

theorem refusingDatabase_steady
    (prepares : ∀ sql ∈ Runner.bootstrapStatements dialect, refusal? sql = none) :
    (refusingDatabase dialect refusal? : Database (Session keys)).Steady dialect id refusal? where
  rules := refusingDatabase_transactional dialect refusal?
  prepares := prepares
  accepts {sql session} healthy accepted := by
    have answered : session.answer? dialect (.statement sql) = some (0, session.perform sql) :=
      if_neg (by simpa using healthy)
    refine ⟨0, ?_⟩
    simp only [refusingDatabase, Command.failure?, accepted, Option.map_none, answered]
  refuses {sql session text} _ refused := by
    refine ⟨.refused .postgres text, ?_, rfl⟩
    simp only [refusingDatabase, Command.failure?, refused, Option.map_some]
  succeeds {command session} other taken := by
    obtain ⟨answered, found⟩ := Option.isSome_iff_exists.mp taken
    have unrefused : command.failure? refusal? = none := by
      cases command with
      | statement sql => exact absurd rfl (other sql)
      | _ => rfl
    simp only [refusingDatabase, unrefused]
    simp only [id] at found
    rw [found]
    cases command with
    | lock key =>
      simp only [Session.answer?, Option.ite_none_left_eq_some, Option.some.injEq] at found
      rw [← found.2]
      simp [Exchange.failed]
    | _ => rfl

end SqlMigrations
