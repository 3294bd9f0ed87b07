import SqlMigrations.Lock.Advisory
import SqlMigrations.Proofs.Checkpoint.Rows
import SqlMigrations.Proofs.Database.Held

namespace SqlMigrations

def MigrationError.IsCommandFailure : MigrationError → Prop
  | .connection _ | .driver _ => True
  | _ => False

namespace Runner

variable {σ : Type} {dialect : Dialect} {keys : Collation} {discards : Bool} {database : Database σ}
  {view : σ → Session keys} {state after : σ} {durable data : Contents keys}
  {file : Option (String × String)}

section
variable (rules : database.Follows dialect discards view)
include rules

theorem execute_ok {sql : String} {count : Nat}
    (sent : execute database sql state = (.ok count, after)) :
    view after = (view state).perform sql := by
  cases reply : database.send (.statement sql) state with
  | mk answer next =>
    cases answer with
    | error failure => simp [execute, reply] at sent
    | ok affected =>
      obtain ⟨rfl, rfl⟩ : affected = count ∧ next = after := by simpa [execute, reply] using sent
      exact (rules.answers reply).2

theorem execute_error {sql : String} {problem : ConnectionError}
    (sent : execute database sql state = (.error problem, after)) :
    view after = (view state).failed dialect ∨
      discards = true ∧ dialect ≠ .postgres ∧ view after = (view state).rolledBack := by
  cases reply : database.send (.statement sql) state with
  | mk answer next =>
    cases answer with
    | ok affected => simp [execute, reply] at sent
    | error failure =>
      obtain ⟨_, rfl⟩ : _ ∧ next = after := by simpa [execute, reply] using sent
      exact rules.answers reply

theorem moveSavepoint_ok {move : SavepointMove} {opened : OpenTransaction keys}
    (during : (view state).transaction = some opened)
    (sent : moveSavepoint database move state = (.ok (), after)) :
    ∃ moved, opened.move move = some moved ∧
      view after = { view state with transaction := some moved } := by
  cases reply : database.send (.savepoint move) state with
  | mk answer next =>
    cases answer with
    | error failure => simp [moveSavepoint, reply] at sent
    | ok _ =>
      obtain rfl : next = after := by simpa [moveSavepoint, reply] using sent
      exact rules.answers reply opened during

theorem moveSavepoint_error {move : SavepointMove} {problem : ConnectionError}
    (sent : moveSavepoint database move state = (.error problem, after)) :
    view after = (view state).failed dialect := by
  cases reply : database.send (.savepoint move) state with
  | mk answer next =>
    cases answer with
    | ok _ => simp [moveSavepoint, reply] at sent
    | error failure =>
      obtain ⟨_, rfl⟩ : _ ∧ next = after := by simpa [moveSavepoint, reply] using sent
      exact rules.answers reply

theorem openTransaction_ok (idle : (view state).transaction = none)
    (sent : openTransaction database state = (.ok (), after)) :
    (view after).Holds (view state).durable (view state).durable none := by
  cases reply : database.send .begin state with
  | mk answer next =>
    cases answer with
    | error failure => simp [openTransaction, reply] at sent
    | ok _ =>
      obtain rfl : next = after := by simpa [openTransaction, reply] using sent
      rw [show view next = (view state).begun from rules.answers reply idle]
      exact Session.begun_holds _

theorem openTransaction_error {problem : ConnectionError}
    (idle : (view state).transaction = none)
    (sent : openTransaction database state = (.error problem, after)) :
    view after = view state := by
  cases reply : database.send .begin state with
  | mk answer next =>
    cases answer with
    | ok _ => simp [openTransaction, reply] at sent
    | error failure =>
      obtain ⟨_, rfl⟩ : _ ∧ next = after := by simpa [openTransaction, reply] using sent
      exact rules.answers reply idle

theorem abandonTransaction_rolledBack (state : σ) :
    view (abandonTransaction database state) = (view state).rolledBack :=
  rules .rollback state

theorem commitTransaction_ok (sent : commitTransaction database state = (.ok (), after)) :
    view after = (view state).committed := by
  cases reply : database.send .commit state with
  | mk answer next =>
    cases answer with
    | error failure => simp [commitTransaction, reply] at sent
    | ok _ =>
      obtain rfl : next = after := by simpa [commitTransaction, reply] using sent
      exact rules.answers reply

theorem commitTransaction_error {problem : ConnectionError}
    (sent : commitTransaction database state = (.error problem, after)) :
    view after = ⟨(view state).durable, none⟩ := by
  cases reply : database.send .commit state with
  | mk answer next =>
    cases answer with
    | ok _ => simp [commitTransaction, reply] at sent
    | error failure =>
      obtain ⟨_, rfl⟩ : _ ∧ abandonTransaction database next = after := by
        simpa [commitTransaction, reply] using sent
      have kept := (rules.answers reply).1
      rw [abandonTransaction_rolledBack rules, Session.rolledBack, kept]

theorem acquire_ok {key : String} {opened : Dialect}
    (sent : Lock.acquire database opened key state = (.ok (), after)) :
    view after = view state := by
  cases reply : database.send (.lock key) state with
  | mk answer next =>
    cases opened with
    | sqlite => simp_all [Lock.acquire]
    | postgres =>
      cases answer with
      | error failure => simp [Lock.acquire, reply] at sent
      | ok granted =>
        obtain rfl : next = after := by simpa [Lock.acquire, reply] using sent
        exact (rules.answers reply).2
    | mysql =>
      cases answer with
      | error failure => simp [Lock.acquire, reply] at sent
      | ok granted =>
        by_cases given : granted = some 1
        · obtain rfl : next = after := by simpa [Lock.acquire, reply, given] using sent
          exact (rules.answers reply).2
        · simp [Lock.acquire, reply, given] at sent

/-- A lock may be refused without any failure of the command: the transaction is then unharmed. -/
theorem acquire_error {key : String} {opened : Dialect} {problem : ConnectionError}
    (sent : Lock.acquire database opened key state = (.error problem, after)) :
    view after = view state ∨ view after = (view state).failed dialect := by
  cases reply : database.send (.lock key) state with
  | mk answer next =>
    cases opened with
    | sqlite => simp [Lock.acquire] at sent
    | postgres =>
      cases answer with
      | ok granted => simp [Lock.acquire, reply] at sent
      | error failure =>
        obtain ⟨_, rfl⟩ : _ ∧ next = after := by simpa [Lock.acquire, reply] using sent
        exact .inr (rules.answers reply)
    | mysql =>
      cases answer with
      | error failure =>
        obtain ⟨_, rfl⟩ : _ ∧ next = after := by simpa [Lock.acquire, reply] using sent
        exact .inr (rules.answers reply)
      | ok granted =>
        by_cases given : granted = some 1
        · simp [Lock.acquire, reply, given] at sent
        · obtain ⟨_, rfl⟩ : _ ∧ next = after := by simpa [Lock.acquire, reply, given] using sent
          exact .inl (rules.answers reply).2

theorem loadCheckpoint_ok {project filename : String} {checkpoint : Checkpoint}
    (holds : (view state).Holds durable data file)
    (sent : loadCheckpoint database project filename state = (.ok checkpoint, after)) :
    checkpoint = checkpointOfRow project filename (data.row project filename) ∧
      (view after).Holds durable data (some (project, filename)) := by
  cases reply : database.send (.load project filename) state with
  | mk answer next =>
    cases answer with
    | error failure => simp [loadCheckpoint, reply] at sent
    | ok row =>
      obtain ⟨rfl, rfl⟩ : checkpointOfRow project filename row = checkpoint ∧ next = after := by
        simpa [loadCheckpoint, reply] using sent
      obtain ⟨_, found, read⟩ := rules.answers reply
      rw [holds.contents] at found
      rw [found, CheckpointRows.load_eq, read]
      exact ⟨rfl, holds.reading project filename⟩

theorem loadCheckpoint_error {project filename : String} {problem : MigrationError}
    (sent : loadCheckpoint database project filename state = (.error problem, after)) :
    problem.IsCommandFailure ∧ view after = (view state).failed dialect := by
  cases reply : database.send (.load project filename) state with
  | mk answer next =>
    cases answer with
    | ok row => simp [loadCheckpoint, reply] at sent
    | error failure =>
      obtain ⟨rfl, rfl⟩ : MigrationError.driver failure = problem ∧ next = after := by
        simpa [loadCheckpoint, reply] using sent
      exact ⟨trivial, rules.answers reply⟩

theorem saveCheckpoint_ok {checkpoint : Checkpoint}
    (sent : saveCheckpoint database checkpoint state = (.ok (), after)) :
    (view state).isAborted = false ∧ view after = (view state).save dialect checkpoint := by
  cases reply : database.send (.save checkpoint) state with
  | mk answer next =>
    cases answer with
    | error failure => simp [saveCheckpoint, reply] at sent
    | ok _ =>
      obtain rfl : next = after := by simpa [saveCheckpoint, reply] using sent
      exact rules.answers reply

theorem saveCheckpoint_error {checkpoint : Checkpoint} {problem : MigrationError}
    (sent : saveCheckpoint database checkpoint state = (.error problem, after)) :
    problem.IsCommandFailure ∧ view after = (view state).failed dialect := by
  cases reply : database.send (.save checkpoint) state with
  | mk answer next =>
    cases answer with
    | ok _ => simp [saveCheckpoint, reply] at sent
    | error failure =>
      obtain ⟨rfl, rfl⟩ : MigrationError.driver failure = problem ∧ next = after := by
        simpa [saveCheckpoint, reply] using sent
      exact ⟨trivial, rules.answers reply⟩

end

end Runner

end SqlMigrations
