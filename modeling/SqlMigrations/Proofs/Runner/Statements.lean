import SqlMigrations.Runner.Apply
import SqlMigrations.Proofs.Checkpoint.Covered
import SqlMigrations.Proofs.Runner.Commands

namespace SqlMigrations.Runner

open Session

variable {σ : Type} {dialect : Dialect} {keys : Collation} {discards : Bool} {database : Database σ}
  {view : σ → Session keys} {state after : σ} {durable data : Contents keys}
  {file : Option (String × String)} {sql : String}

theorem executeInSavepoint_ok (rules : database.Follows dialect discards view)
    (holds : (view state).Holds durable data file)
    (sent : executeInSavepoint database sql state = (.ok (), after)) :
    (view after).Holds durable (data.perform file [sql]) file := by
  obtain ⟨kept, savepoints, during⟩ := holds
  cases setting : moveSavepoint database .set state with
  | mk answer opened =>
    cases answer with
    | error problem => simp [executeInSavepoint, setting] at sent
    | ok _ =>
      obtain ⟨marked, moved, opening⟩ := moveSavepoint_ok rules during setting
      cases moved
      cases executing : execute database sql opened with
      | mk answer performed =>
        cases answer with
        | ok count =>
          have releasing : moveSavepoint database .release performed = (.ok (), after) := by
            simpa [executeInSavepoint, setting, executing] using sent
          have performing := execute_ok rules executing
          rw [opening] at performing
          obtain ⟨released, moved, closing⟩ := moveSavepoint_ok rules
            (by rw [performing]; rfl) releasing
          cases moved
          rw [closing, performing]
          exact ⟨kept, savepoints, rfl⟩
        | error problem =>
          cases undoing : moveSavepoint database .rollBack performed with
          | mk answer undone =>
            cases answer <;> simp [executeInSavepoint, setting, executing, undoing] at sent

/-- Rolling back to the savepoint brings the transaction back to where it was. -/
theorem executeInSavepoint_error {problem : ConnectionError}
    (rules : database.Follows .postgres discards view)
    (holds : (view state).Holds durable data file)
    (sent : executeInSavepoint database sql state = (.error problem, after)) :
    (view after).Aftermath discards durable data file := by
  have healthy := holds
  obtain ⟨kept, savepoints, during⟩ := holds
  cases setting : moveSavepoint database .set state with
  | mk answer opened =>
    cases answer with
    | error failure =>
      obtain ⟨_, rfl⟩ : _ ∧ opened = after := by simpa [executeInSavepoint, setting] using sent
      rw [moveSavepoint_error rules setting]
      exact healthy.failed .postgres
    | ok _ =>
      obtain ⟨marked, moved, opening⟩ := moveSavepoint_ok rules during setting
      cases moved
      cases executing : execute database sql opened with
      | mk answer performed =>
        cases answer with
        | ok count =>
          have releasing : moveSavepoint database .release performed = (.error problem, after) := by
            simpa [executeInSavepoint, setting, executing] using sent
          have performing := execute_ok rules executing
          rw [opening] at performing
          rw [moveSavepoint_error rules releasing, performing]
          exact .aborted _ kept rfl rfl
        | error failure =>
          have aborting : view performed = (view opened).failed .postgres := by
            simpa using execute_error rules executing
          rw [opening] at aborting
          cases undoing : moveSavepoint database .rollBack performed with
          | mk answer undone =>
            obtain rfl : undone = after := by
              cases answer <;>
                simp [executeInSavepoint, setting, executing, undoing] at sent <;> simp [sent]
            cases answer with
            | error another =>
              rw [moveSavepoint_error rules undoing, aborting]
              exact failed_of_aborted kept rfl rfl
            | ok _ =>
              obtain ⟨restored, moved, returning⟩ := moveSavepoint_ok rules
                (by rw [aborting]; rfl) undoing
              cases moved
              rw [returning, aborting]
              exact .intact ⟨kept, _, rfl⟩

theorem executeMigration_ok (rules : database.Follows dialect discards view)
    (holds : (view state).Holds durable data file)
    (sent : executeMigration database dialect sql state = (.ok (), after)) :
    (view after).Holds durable (data.perform file [sql]) file := by
  have plain (sent : ignoreCount (execute database sql state) = (.ok (), after)) :
      (view after).Holds durable (data.perform file [sql]) file := by
    cases executing : execute database sql state with
    | mk answer performed =>
      cases answer with
      | error problem => simp [ignoreCount, executing, Except.map] at sent
      | ok count =>
        obtain rfl : performed = after := by simpa [ignoreCount, executing, Except.map] using sent
        rw [execute_ok rules executing]
        exact holds.perform sql
  cases dialect with
  | postgres => exact executeInSavepoint_ok rules holds sent
  | mysql => exact plain sent
  | sqlite => exact plain sent

theorem executeMigration_error {problem : ConnectionError}
    (rules : database.Follows dialect discards view)
    (holds : (view state).Holds durable data file)
    (sent : executeMigration database dialect sql state = (.error problem, after)) :
    (view after).Aftermath discards durable data file := by
  have plain (sent : ignoreCount (execute database sql state) = (.error problem, after)) :
      (view after).Aftermath discards durable data file := by
    cases executing : execute database sql state with
    | mk answer performed =>
      cases answer with
      | ok count => simp [ignoreCount, executing, Except.map] at sent
      | error failure =>
        obtain ⟨_, rfl⟩ : _ ∧ performed = after := by
          simpa [ignoreCount, executing, Except.map] using sent
        rcases execute_error rules executing with unharmed | ⟨allowed, _, discarded⟩
        · rw [unharmed]
          exact holds.failed dialect
        · exact .ended allowed (discarded.trans holds.rolledBack)
  cases dialect with
  | postgres => exact executeInSavepoint_error rules holds sent
  | mysql => exact plain sent
  | sqlite => exact plain sent

/-- What an attempt comes to that starts at the position `start` with the statements `pending` still
to do: all of them are applied, or one fails and those before it are applied. -/
inductive Attempted (view : σ → Session keys) (discards : Bool) (durable data : Contents keys)
    (file : Option (String × String)) (checkpoint : Checkpoint) (start : Nat)
    (pending : List String) (attempt : Attempt σ) : Prop where
  | completed (applied : attempt.applied = pending.length) (failure : attempt.failure = none)
      (written : attempt.checkpoint =
        { checkpoint with index := checkpoint.reached start pending.length, status := statusOk })
      (holds : (view attempt.state).Holds durable (data.perform file pending) file)
  | stopped (message : String) (within : attempt.applied < pending.length)
      (failure : attempt.failure =
        some (.statement checkpoint.filename (start + attempt.applied) message))
      (written : attempt.checkpoint =
        { checkpoint with index := checkpoint.reached start attempt.applied, status := message })
      (aftermath : (view attempt.state).Aftermath discards durable
        (data.perform file (pending.take attempt.applied)) file)

/-- One more statement before an attempt: the checkpoint that the later one starts from is the
earlier one with the index of that statement. -/
theorem Attempted.cons {checkpoint : Checkpoint} {start : Nat} {pending : List String}
    {attempt : Attempt σ} {lines : List String}
    (attempted : Attempted view discards durable (data.perform file [sql]) file
      { checkpoint with index := Int.ofNat start } (start + 1) pending attempt) :
    Attempted view discards durable data file checkpoint start (sql :: pending)
      { attempt with applied := attempt.applied + 1, lines := lines } := by
  have index (count : Nat) :
      ({ checkpoint with index := Int.ofNat start } : Checkpoint).reached (start + 1) count =
        checkpoint.reached start (count + 1) := by
    simp only [Checkpoint.reached, Int.ofNat_eq_natCast, Nat.succ_ne_zero, if_false]
    split <;> omega
  cases attempted with
  | completed applied failure written holds =>
    refine .completed (by simp [applied]) failure ?_ ?_
    · simpa only [index, List.length_cons] using written
    · rw [← List.singleton_append, Contents.perform_append]
      exact holds
  | stopped message within failure written aftermath =>
    refine .stopped message (by simpa using within) ?_ ?_ ?_
    · simpa only [Nat.add_assoc, Nat.add_comm 1] using failure
    · simpa only [index] using written
    · rw [List.take_succ_cons, ← List.singleton_append, Contents.perform_append]
      exact aftermath

theorem applyStatements_attempted (rules : database.Follows dialect discards view) (verbose : Bool)
    (statements : List String) :
    ∀ (index : Nat) (checkpoint : Checkpoint) {data : Contents keys} {state : σ},
      (view state).Holds durable data file →
      Attempted view discards durable data file checkpoint (max index checkpoint.covered)
        (statements.drop (checkpoint.covered - index))
        (applyStatements database dialect verbose index statements checkpoint state) := by
  induction statements with
  | nil =>
    intro index checkpoint data state holds
    refine .completed (by simp [applyStatements]) rfl ?_ ?_
    · simp [applyStatements, Checkpoint.reached]
    · simpa [applyStatements] using holds
  | cons sql rest induction =>
    intro index checkpoint data state holds
    simp only [applyStatements]
    -- A covered statement moves the position on; behind the first other one none is covered.
    by_cases covered : checkpoint.isApplied index = true
    · have before := (checkpoint.isApplied_iff index).mp covered
      have position : max index checkpoint.covered = max (index + 1) checkpoint.covered := by omega
      rw [if_pos covered, Checkpoint.drop_of_isApplied covered, position]
      cases induction (index + 1) checkpoint holds with
      | completed applied failure written holds => exact .completed applied failure written holds
      | stopped message within failure written aftermath =>
        exact .stopped message within failure written aftermath
    · have reachedNow := Checkpoint.covered_le_of_not_isApplied covered
      have position : max index checkpoint.covered = index := by omega
      have pending : (sql :: rest).drop (checkpoint.covered - index) = sql :: rest := by
        rw [Nat.sub_eq_zero_of_le reachedNow, List.drop_zero]
      rw [if_neg covered, position, pending]
      cases executing : executeMigration database dialect sql state with
      | mk answer performed =>
        cases answer with
        | ok _ =>
          have later := induction (index + 1) { checkpoint with index := Int.ofNat index }
            (executeMigration_ok rules holds executing)
          have behind := checkpoint.covered_at_le index
          rw [Nat.max_eq_left behind, Nat.sub_eq_zero_of_le behind, List.drop_zero] at later
          exact later.cons
        | error problem =>
          refine .stopped problem.serverMessage (by simp) (by simp) ?_ ?_
          · simp [Checkpoint.reached]
          · simpa using executeMigration_error rules holds executing

end SqlMigrations.Runner
