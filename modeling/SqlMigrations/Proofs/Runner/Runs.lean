import SqlMigrations.Proofs.Runner.Applied
import SqlMigrations.Runner.Run

namespace SqlMigrations.Runner

variable {σ : Type} {dialect : Dialect} {keys : Collation} {discards : Bool} {database : Database σ}
  {view : σ → Session keys} {state : σ} {project : String} {before after : Contents keys}

inductive AppliedAll (dialect : Dialect) (discards : Bool) (project : String) :
    List Store.PlannedFile → Contents keys → Except MigrationError (List FileOutcome) →
      Contents keys → Prop where
  | nil (before : Contents keys) : AppliedAll dialect discards project [] before (.ok []) before
  | failed {file : Store.PlannedFile} {rest : List Store.PlannedFile} {before after : Contents keys}
      {problem : MigrationError}
      (first : Applied dialect (Discardable discards) project file before (.error problem) after) :
      AppliedAll dialect discards project (file :: rest) before (.error problem) after
  | cons {file : Store.PlannedFile} {rest : List Store.PlannedFile}
      {before between after : Contents keys}
      {outcome : FileOutcome} {result : Except MigrationError (List FileOutcome)}
      (first : Applied dialect (Discardable discards) project file before (.ok outcome) between)
      (later : AppliedAll dialect discards project rest between result after) :
      AppliedAll dialect discards project (file :: rest) before (result.map (outcome :: ·)) after

theorem applyFiles_appliedAll (rules : database.Follows dialect discards view) (verbose : Bool)
    (project : String) (plan : List Store.PlannedFile) :
    ∀ {state : σ} {before : Contents keys}, view state = ⟨before, none⟩ →
      ∃ after, AppliedAll dialect discards project plan before
          (applyFiles database dialect verbose project plan state).result after ∧
        view (applyFiles database dialect verbose project plan state).state = ⟨after, none⟩ := by
  induction plan with
  | nil =>
    intro state before idle
    exact ⟨before, .nil before, idle⟩
  | cons file rest induction =>
    intro state before idle
    obtain ⟨between, applied, final⟩ := applyFile_leaves rules verbose project file idle
    have applied := applied.mono (fun _ lost => lost.1)
    simp only [applyFiles]
    cases result : (applyFile database dialect verbose project file state).result with
    | error problem => exact ⟨between, .failed (result ▸ applied), final⟩
    | ok outcome =>
      obtain ⟨after, later, last⟩ := induction final
      exact ⟨after, .cons (result ▸ applied) later, last⟩

theorem sendAll_performs (rules : database.Follows dialect discards view) (verbose : Bool)
    (statements : List String) :
    ∀ {index : Nat} {state : σ} {before : Contents keys}, view state = ⟨before, none⟩ →
      ((sendAll database verbose index statements state).result = .ok () ∧
          view (sendAll database verbose index statements state).state =
            ⟨before.perform none statements, none⟩) ∨
        ∃ done, done <+: statements ∧
          Undone view (sendAll database verbose index statements state)
            (before.perform none done) := by
  induction statements with
  | nil =>
    intro index state before idle
    exact .inl ⟨rfl, by simpa [sendAll] using idle⟩
  | cons sql rest induction =>
    intro index state before idle
    cases executing : execute database sql state with
    | mk answer next =>
      simp only [sendAll, executing]
      cases answer with
      | error problem =>
        have unchanged : view next = ⟨before, none⟩ := by
          rcases execute_error rules executing with failed | ⟨_, _, failed⟩ <;> rw [failed, idle]
          · cases dialect <;> rfl
          · rfl
        exact .inr ⟨[], List.nil_prefix, .connection problem, trivial, rfl,
          by simpa using unchanged⟩
      | ok count =>
        have performed : view next = ⟨before.perform none [sql], none⟩ := by
          rw [execute_ok rules executing, idle]
          rfl
        rcases induction performed with ⟨result, final⟩ | ⟨done, within, problem, failure, ended⟩
        · rw [← Contents.perform_append] at final
          exact .inl ⟨result, final⟩
        · rw [← Contents.perform_append] at ended
          exact .inr ⟨sql :: done, (List.prefix_cons_inj sql).mpr within, problem, failure, ended⟩

theorem bootstrap_performs (rules : database.Follows dialect discards view) (verbose : Bool)
    (idle : view state = ⟨before, none⟩) :
    ((bootstrap database dialect verbose state).result = .ok () ∧
        view (bootstrap database dialect verbose state).state =
          ⟨before.perform none (bootstrapStatements dialect), none⟩) ∨
      ∃ done, done <+: bootstrapStatements dialect ∧
        Undone view (bootstrap database dialect verbose state) (before.perform none done) :=
  sendAll_performs rules verbose (bootstrapStatements dialect) idle

theorem bootstrap_contents (rules : database.Follows dialect discards view) (verbose : Bool)
    (idle : view state = ⟨before, none⟩) :
    ∃ done, view (bootstrap database dialect verbose state).state =
      ⟨before.perform none done, none⟩ := by
  rcases bootstrap_performs rules verbose idle with ⟨_, final⟩ | ⟨done, _, _, _, _, final⟩
  · exact ⟨_, final⟩
  · exact ⟨done, final⟩

/-- What a run of a plan does: the table is prepared and the files are applied, or preparing fails
on the way. -/
inductive Ran (dialect : Dialect) (discards : Bool) (project : String)
    (plan : List Store.PlannedFile) (before : Contents keys) :
    Except MigrationError RunReport → Contents keys → Prop where
  | unprepared (done : List String) (within : done <+: bootstrapStatements dialect)
      (problem : MigrationError) (failure : problem.IsCommandFailure) :
      Ran dialect discards project plan before (.error problem) (before.perform none done)
  | prepared {result : Except MigrationError (List FileOutcome)} {after : Contents keys}
      (applied : AppliedAll dialect discards project plan
        (before.perform none (bootstrapStatements dialect)) result after) :
      Ran dialect discards project plan before (result.map (fun files => ⟨project, files⟩)) after

theorem runPlan_ran (rules : database.Follows dialect discards view) (verbose : Bool)
    (project : String) (plan : List Store.PlannedFile) (idle : view state = ⟨before, none⟩) :
    ∃ after, Ran dialect discards project plan before
        (runPlan database dialect verbose project plan state).result after ∧
      view (runPlan database dialect verbose project plan state).state = ⟨after, none⟩ := by
  simp only [runPlan]
  rcases bootstrap_performs rules verbose idle with
    ⟨result, final⟩ | ⟨done, within, problem, failure, result, final⟩
  · obtain ⟨after, applied, last⟩ := applyFiles_appliedAll rules verbose project plan final
    rw [result]
    exact ⟨after, .prepared applied, last⟩
  · rw [result]
    exact ⟨_, .unprepared done within problem failure, final⟩

end SqlMigrations.Runner
