import SqlMigrations.Proofs.Runner.Runs
import SqlMigrations.Proofs.Store.Plan

/-!
Histories: any sequence of runs on one database, each with its own projects. A property of the
contents that the statements of the checkpoint table and the files of every run keep holds after the
whole history.
-/

namespace SqlMigrations.Runner

variable {σ : Type} {dialect : Dialect} {keys : Collation} {discards : Bool} {database : Database σ}
  {view : σ → Session keys} {state : σ} {project : String} {before after : Contents keys}

/-- One call of the runner. -/
structure Call where
  projects : Store.Projects
  project : String
  verbose : Bool
  supply : Statement.Supply
  next : Nat

def Call.run (call : Call) (database : Database σ) (dialect : Dialect) (state : σ) :
    Run σ RunReport :=
  Runner.run database dialect call.projects call.verbose call.supply call.next call.project state

def Call.plan (call : Call) (files : Store.FileSet) : List Store.PlannedFile :=
  (files.plan call.supply call.next).1

/-- Whether the database tells the names of the files of a call apart. -/
def Call.NamesApart (keys : Collation) (call : Call) : Prop :=
  ∀ files, call.projects.find call.project = .ok files →
    files.migrations.Pairwise fun name other => ¬ keys.Same name other

theorem Call.namesApart_exact (call : Call) : call.NamesApart .exact :=
  fun files _ => files.migrations_ascending.imp fun less same => String.ne_of_lt less same

/-- The calls with what they returned, and the state after them. -/
def history (database : Database σ) (dialect : Dialect) :
    List Call → σ → List (Call × Except MigrationError RunReport) × σ
  | [], state => ([], state)
  | call :: rest, state =>
    let first := call.run database dialect state
    let later := history database dialect rest first.state
    ((call, first.result) :: later.1, later.2)

inductive Called (dialect : Dialect) (discards : Bool) (call : Call) (before : Contents keys) :
    Except MigrationError RunReport → Contents keys → Prop where
  | unknown (absent : call.projects.find call.project = .error (.unknownProject call.project)) :
      Called dialect discards call before (.error (.unknownProject call.project)) before
  | ran {result : Except MigrationError RunReport} {after : Contents keys} (files : Store.FileSet)
      (found : call.projects.find call.project = .ok files)
      (runs : Ran dialect discards call.project (call.plan files) before result after) :
      Called dialect discards call before result after

theorem find_error {projects : Store.Projects} {problem : MigrationError}
    (absent : projects.find project = .error problem) : problem = .unknownProject project := by
  unfold Store.Projects.find at absent
  split at absent
  · contradiction
  · exact (Except.error.inj absent).symm

theorem Call.run_called (rules : database.Follows dialect discards view) (call : Call)
    (idle : view state = ⟨before, none⟩) :
    ∃ after, Called dialect discards call before (call.run database dialect state).result after ∧
      view (call.run database dialect state).state = ⟨after, none⟩ := by
  cases found : call.projects.find call.project with
  | error problem =>
    obtain rfl := find_error found
    simp only [Call.run, Runner.run, found]
    exact ⟨before, .unknown found, idle⟩
  | ok files =>
    obtain ⟨after, ran, final⟩ :=
      runPlan_ran rules call.verbose call.project (call.plan files) idle
    simp only [Call.run, Runner.run, found]
    exact ⟨after, .ran files found ran, final⟩

variable (holds : Contents keys → Prop)

theorem AppliedAll.preserves {plan : List Store.PlannedFile}
    {result : Except MigrationError (List FileOutcome)}
    (all : AppliedAll dialect discards project plan before result after)
    (step : ∀ file ∈ plan, ∀ {before after : Contents keys}
      {result : Except MigrationError FileOutcome},
      Applied dialect (Discardable discards) project file before result after → holds before →
      holds after)
    (start : holds before) : holds after := by
  induction all with
  | nil => exact start
  | failed first => exact step _ List.mem_cons_self first start
  | cons first _ induction =>
    exact induction (fun file member => step file (List.mem_cons_of_mem _ member))
      (step _ List.mem_cons_self first start)

theorem Called.preserves {call : Call} {result : Except MigrationError RunReport}
    (called : Called dialect discards call before result after)
    (prepare : ∀ {before : Contents keys} (done : List String),
      done <+: bootstrapStatements dialect →
      holds before → holds (before.perform none done))
    (step : ∀ files, call.projects.find call.project = .ok files → ∀ file ∈ call.plan files,
      ∀ {before after : Contents keys} {result : Except MigrationError FileOutcome},
        Applied dialect (Discardable discards) call.project file before result after →
        holds before →
          holds after)
    (start : holds before) : holds after := by
  cases called with
  | unknown => exact start
  | ran files found runs =>
    cases runs with
    | unprepared done within => exact prepare done within start
    | prepared applied =>
      exact applied.preserves holds (step files found) (prepare _ (List.prefix_refl _) start)

/-- A call touches nothing of a file that the database tells apart from all that it applies. -/
theorem Called.other_file {call : Call} {result : Except MigrationError RunReport}
    {filename : String} (called : Called dialect discards call before result after)
    (apart : ∀ files, call.projects.find call.project = .ok files → ∀ name ∈ files.migrations,
      ¬ keys.SameKey (project, filename) (call.project, name)) :
    Contents.AgreeAt project filename after before := by
  refine called.preserves (fun contents => Contents.AgreeAt project filename contents before)
    ?_ ?_ (.refl before)
  · intro contents done _ agree
    exact (contents.perform_none_agreeAt done).trans agree
  · intro files found file member contents next result applied agree
    obtain ⟨eligible, _⟩ := Store.FileSet.mem_plan member
    exact (applied.other (apart files found file.name eligible)).trans agree

/-- A call touches nothing of a project that the database tells apart from its own. -/
theorem Called.other {call : Call} {result : Except MigrationError RunReport}
    (called : Called dialect discards call before result after)
    (apart : ¬ keys.Same project call.project) (filename : String) :
    Contents.AgreeAt project filename after before :=
  called.other_file fun _ _ _ _ same => apart same.1

/-- The contents before and after a sequence of calls, each recorded with its result. -/
inductive Passed (dialect : Dialect) (discards : Bool) :
    Contents keys → List (Call × Except MigrationError RunReport) → Contents keys → Prop where
  | nil (before : Contents keys) : Passed dialect discards before [] before
  | cons {call : Call} {result : Except MigrationError RunReport}
      {rest : List (Call × Except MigrationError RunReport)} {before between after : Contents keys}
      (first : Called dialect discards call before result between)
      (later : Passed dialect discards between rest after) :
      Passed dialect discards before ((call, result) :: rest) after

theorem history_calls (calls : List Call) :
    ∀ state, (history database dialect calls state).1.map Prod.fst = calls := by
  induction calls with
  | nil => exact fun _ => rfl
  | cons call rest induction => exact fun _ => congrArg (call :: ·) (induction _)

theorem history_passed (rules : database.Follows dialect discards view) (calls : List Call) :
    ∀ {state : σ} {before : Contents keys}, view state = ⟨before, none⟩ →
      ∃ after, Passed dialect discards before (history database dialect calls state).1 after ∧
        view (history database dialect calls state).2 = ⟨after, none⟩ := by
  induction calls with
  | nil => exact fun idle => ⟨_, .nil _, idle⟩
  | cons call rest induction =>
    intro state before idle
    obtain ⟨between, called, next⟩ := call.run_called rules idle
    obtain ⟨after, passed, final⟩ := induction next
    exact ⟨after, .cons called passed, final⟩

theorem Passed.preserves {records : List (Call × Except MigrationError RunReport)}
    (passed : Passed dialect discards before records after)
    (step : ∀ record ∈ records, ∀ {before after : Contents keys},
      Called dialect discards record.1 before record.2 after → holds before → holds after)
    (start : holds before) : holds after := by
  induction passed with
  | nil => exact start
  | cons first _ induction =>
    exact induction (fun record member => step record (List.mem_cons_of_mem _ member))
      (step _ List.mem_cons_self first start)

theorem history_preserves (rules : database.Follows dialect discards view) (calls : List Call)
    (step : ∀ call ∈ calls, ∀ {before after : Contents keys}
      {result : Except MigrationError RunReport},
      Called dialect discards call before result after → holds before → holds after)
    (idle : view state = ⟨before, none⟩) (start : holds before) :
    ∃ after, view (history database dialect calls state).2 = ⟨after, none⟩ ∧ holds after := by
  obtain ⟨after, passed, final⟩ := history_passed rules calls idle
  refine ⟨after, final, passed.preserves holds (fun record member => ?_) start⟩
  refine step record.1 ?_
  have recorded : record.1 ∈ (history database dialect calls state).1.map Prod.fst :=
    List.mem_map_of_mem member
  rwa [history_calls] at recorded

end SqlMigrations.Runner
