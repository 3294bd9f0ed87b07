import SqlMigrations.Proofs.Database.Transcript
import SqlMigrations.Runner.Apply

namespace SqlMigrations

/-- Whether a command is for a statement of a file: the statement itself, or about its savepoint. -/
def Command.isMigration : Command → Bool
  | .statement _ | .savepoint _ => true
  | _ => false

theorem cons_suffix_append {α : Type} {head : α} {tail first rest : List α}
    (suffix : head :: tail <:+ first ++ rest) :
    head :: tail <:+ rest ∨ ∃ more, head :: more <:+ first ∧ tail = more ++ rest := by
  obtain ⟨before, split⟩ := suffix
  rcases List.append_eq_append_iff.mp split with ⟨between, cut, same⟩ | ⟨between, cut, same⟩
  · cases between with
    | nil => exact .inl ⟨[], same⟩
    | cons item more =>
      obtain ⟨rfl, rfl⟩ := List.cons.inj same
      exact .inr ⟨more, ⟨before, cut.symm⟩, rfl⟩
  · exact .inl ⟨between, same.symm⟩

namespace Runner

variable {σ : Type} {dialect : Dialect} {exchanges : List Exchange} {complete : Bool}

/-- What directly follows a failing command for a statement: PostgreSQL undoes a failing
statement. -/
def Undoes (dialect : Dialect) (failed : Exchange) (undoing : List Exchange) : Prop :=
  match dialect, failed.command with
  | .postgres, .statement _ => ∃ answer, undoing = [⟨.savepoint .rollBack, answer⟩]
  | _, _ => undoing = []

inductive Executed : Dialect → List Exchange → Prop where
  | plain {dialect : Dialect} (direct : dialect ≠ .postgres) (sql : String) (count : Nat) :
      Executed dialect [⟨.statement sql, .ok count⟩]
  | saved (sql : String) (count : Nat) :
      Executed .postgres [⟨.savepoint .set, .ok ()⟩, ⟨.statement sql, .ok count⟩,
        ⟨.savepoint .release, .ok ()⟩]

inductive Refused : Dialect → List Exchange → Prop where
  | plain {dialect : Dialect} (direct : dialect ≠ .postgres) (sql : String)
      (failure : DriverFailure) : Refused dialect [⟨.statement sql, .error failure⟩]
  | unset (failure : DriverFailure) : Refused .postgres [⟨.savepoint .set, .error failure⟩]
  | unreleased (sql : String) (count : Nat) (failure : DriverFailure) :
      Refused .postgres [⟨.savepoint .set, .ok ()⟩, ⟨.statement sql, .ok count⟩,
        ⟨.savepoint .release, .error failure⟩]
  | undone (sql : String) (failure : DriverFailure) (answer : Except DriverFailure Unit) :
      Refused .postgres [⟨.savepoint .set, .ok ()⟩, ⟨.statement sql, .error failure⟩,
        ⟨.savepoint .rollBack, answer⟩]

/-- The exchanges for statements in a row, up to the first one that fails. -/
inductive Progress (dialect : Dialect) : Bool → List Exchange → Prop where
  | done : Progress dialect true []
  | executed {complete : Bool} {first later : List Exchange} (fine : Executed dialect first)
      (rest : Progress dialect complete later) : Progress dialect complete (first ++ later)
  | refused {exchanges : List Exchange} (failing : Refused dialect exchanges) :
      Progress dialect false exchanges

theorem Executed.fine (executed : Executed dialect exchanges) :
    ∀ exchange ∈ exchanges, exchange.failed dialect = false := by
  cases executed <;> simp [Exchange.failed]

theorem Executed.isMigration (executed : Executed dialect exchanges) :
    ∀ exchange ∈ exchanges, exchange.command.isMigration = true := by
  cases executed <;> simp [Command.isMigration]

theorem Refused.isMigration (refused : Refused dialect exchanges) :
    ∀ exchange ∈ exchanges, exchange.command.isMigration = true := by
  cases refused <;> simp [Command.isMigration]

theorem Refused.undoes {failed : Exchange} {later : List Exchange}
    (refused : Refused dialect exchanges) (suffix : failed :: later <:+ exchanges)
    (fails : failed.failed dialect = true) : Undoes dialect failed later := by
  cases refused with
  | plain direct sql failure =>
    obtain ⟨rfl, rfl⟩ : failed = ⟨.statement sql, .error failure⟩ ∧ later = [] := by
      simpa [List.suffix_cons_iff] using suffix
    cases dialect with
    | postgres => contradiction
    | mysql | sqlite => rfl
  | unset failure =>
    obtain ⟨rfl, rfl⟩ : failed = ⟨.savepoint .set, .error failure⟩ ∧ later = [] := by
      simpa [List.suffix_cons_iff] using suffix
    rfl
  | unreleased sql count failure =>
    simp only [List.suffix_cons_iff, List.cons.injEq, List.suffix_nil, reduceCtorEq,
      or_false] at suffix
    rcases suffix with ⟨rfl, rfl⟩ | ⟨rfl, rfl⟩ | ⟨rfl, rfl⟩
    · contradiction
    · contradiction
    · rfl
  | undone sql failure answer =>
    simp only [List.suffix_cons_iff, List.cons.injEq, List.suffix_nil, reduceCtorEq,
      or_false] at suffix
    rcases suffix with ⟨rfl, rfl⟩ | ⟨rfl, rfl⟩ | ⟨rfl, rfl⟩
    · contradiction
    · exact ⟨answer, rfl⟩
    · rfl

theorem Progress.smooth_eq (progress : Progress dialect complete exchanges) :
    smooth dialect exchanges = complete := by
  induction progress with
  | done => rfl
  | executed fine _ induction =>
    rw [smooth_append, induction]
    cases fine <;> rfl
  | refused failing => cases failing <;> rfl

theorem Progress.isMigration (progress : Progress dialect complete exchanges) :
    ∀ exchange ∈ exchanges, exchange.command.isMigration = true := by
  induction progress with
  | done => exact List.forall_mem_nil _
  | executed fine _ induction =>
    intro exchange member
    exact (List.mem_append.mp member).elim (fine.isMigration exchange) (induction exchange)
  | refused failing => exact failing.isMigration

theorem Progress.undoes {failed : Exchange} {later : List Exchange}
    (progress : Progress dialect complete exchanges) (suffix : failed :: later <:+ exchanges)
    (fails : failed.failed dialect = true) : Undoes dialect failed later := by
  induction progress with
  | done => simp at suffix
  | executed fine _ induction =>
    rcases cons_suffix_append suffix with inside | ⟨more, before, _⟩
    · exact induction inside
    · simp [fine.fine failed (before.subset List.mem_cons_self)] at fails
  | refused failing => exact failing.undoes suffix fails

section
variable {database : Database σ} {log : σ → List Exchange} (faithful : database.Logs log)
  {state after : σ} {sql : String} {answer : Except ConnectionError Unit}
include faithful

theorem executeInSavepoint_exchanges
    (sent : executeInSavepoint database sql state = (answer, after)) :
    ∃ exchanges, log after = log state ++ exchanges ∧
      if answer.isOk then Executed .postgres exchanges else Refused .postgres exchanges := by
  cases setting : database.send (.savepoint .set) state with
  | mk setAnswer opened =>
    have set := faithful.sent setting
    cases setAnswer with
    | error failure =>
      simp only [executeInSavepoint, moveSavepoint, setting, Prod.mk.injEq] at sent
      obtain ⟨rfl, rfl⟩ := sent
      exact ⟨_, set, .unset failure⟩
    | ok _ =>
      cases executing : database.send (.statement sql) opened with
      | mk reply performed =>
        have executed := faithful.sent executing
        rw [set, List.append_assoc] at executed
        cases reply with
        | ok count =>
          cases releasing : database.send (.savepoint .release) performed with
          | mk releaseAnswer released =>
            have release := faithful.sent releasing
            rw [executed, List.append_assoc] at release
            simp only [executeInSavepoint, moveSavepoint, execute, setting, executing,
              releasing] at sent
            cases releaseAnswer with
            | error failure =>
              obtain ⟨rfl, rfl⟩ := Prod.mk.inj sent
              exact ⟨_, release, .unreleased sql count failure⟩
            | ok _ =>
              obtain ⟨rfl, rfl⟩ := Prod.mk.inj sent
              exact ⟨_, release, .saved sql count⟩
        | error failure =>
          cases undoing : database.send (.savepoint .rollBack) performed with
          | mk undoAnswer undone =>
            have undo := faithful.sent undoing
            rw [executed, List.append_assoc] at undo
            simp only [executeInSavepoint, moveSavepoint, execute, setting, executing,
              undoing] at sent
            cases undoAnswer <;> obtain ⟨rfl, rfl⟩ := Prod.mk.inj sent <;>
              exact ⟨_, undo, .undone sql failure _⟩

theorem executeMigration_exchanges
    (sent : executeMigration database dialect sql state = (answer, after)) :
    ∃ exchanges, log after = log state ++ exchanges ∧
      if answer.isOk then Executed dialect exchanges else Refused dialect exchanges := by
  have plain (direct : dialect ≠ .postgres)
      (sent : ignoreCount (execute database sql state) = (answer, after)) :
      ∃ exchanges, log after = log state ++ exchanges ∧
        if answer.isOk then Executed dialect exchanges else Refused dialect exchanges := by
    cases executing : database.send (.statement sql) state with
    | mk reply performed =>
      have executed := faithful.sent executing
      simp only [ignoreCount, execute, executing] at sent
      cases reply with
      | error failure =>
        obtain ⟨rfl, rfl⟩ := Prod.mk.inj sent
        exact ⟨_, executed, .plain direct sql failure⟩
      | ok count =>
        obtain ⟨rfl, rfl⟩ := Prod.mk.inj sent
        exact ⟨_, executed, .plain direct sql count⟩
  cases dialect with
  | postgres => exact executeInSavepoint_exchanges faithful sent
  | mysql => exact plain nofun sent
  | sqlite => exact plain nofun sent

theorem applyStatements_exchanges (dialect : Dialect) (verbose : Bool) (statements : List String) :
    ∀ (index : Nat) (checkpoint : Checkpoint) (state : σ), ∃ exchanges,
      log (applyStatements database dialect verbose index statements checkpoint state).state =
          log state ++ exchanges ∧
        Progress dialect
          (applyStatements database dialect verbose index statements checkpoint
            state).failure.isNone exchanges := by
  induction statements with
  | nil => exact fun _ _ state => ⟨[], (List.append_nil _).symm, .done⟩
  | cons sql rest induction =>
    intro index checkpoint state
    simp only [applyStatements]
    by_cases covered : checkpoint.isApplied index = true
    · rw [if_pos covered]
      exact induction (index + 1) checkpoint state
    · rw [if_neg covered]
      cases executing : executeMigration database dialect sql state with
      | mk answer performed =>
        obtain ⟨first, logged, course⟩ := executeMigration_exchanges faithful executing
        cases answer with
        | error problem => exact ⟨first, logged, .refused course⟩
        | ok _ =>
          obtain ⟨later, logging, progress⟩ :=
            induction (index + 1) { checkpoint with index := Int.ofNat index } performed
          rw [logged, List.append_assoc] at logging
          exact ⟨first ++ later, logging, .executed course progress⟩

end

/-- Executing statements moves the index and the status of a checkpoint, never whose it is. -/
theorem applyStatements_key (database : Database σ) (dialect : Dialect) (verbose : Bool)
    (statements : List String) :
    ∀ (index : Nat) (checkpoint : Checkpoint) (state : σ), ∃ reached status,
      (applyStatements database dialect verbose index statements checkpoint state).checkpoint =
        ⟨checkpoint.project, checkpoint.filename, reached, status⟩ := by
  induction statements with
  | nil => exact fun _ _ _ => ⟨_, _, rfl⟩
  | cons sql rest induction =>
    intro index checkpoint state
    simp only [applyStatements]
    by_cases covered : checkpoint.isApplied index = true
    · rw [if_pos covered]
      exact induction (index + 1) checkpoint state
    · rw [if_neg covered]
      rcases executeMigration database dialect sql state with ⟨problem | _, performed⟩
      · exact ⟨_, _, rfl⟩
      · exact induction (index + 1) { checkpoint with index := Int.ofNat index } performed

end Runner

end SqlMigrations
