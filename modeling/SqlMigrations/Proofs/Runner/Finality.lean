import SqlMigrations.Proofs.Runner.Completion
import SqlMigrations.Proofs.Runner.Transcripts

namespace SqlMigrations

/-- Nothing is sent that could change data or the checkpoint table. -/
def Quiet (exchanges : List Exchange) : Prop :=
  ∀ exchange ∈ exchanges, exchange.command.alters = false

namespace Runner

variable {σ : Type} {dialect : Dialect} {keys : Collation} {discards : Bool} {database : Database σ}
  {view : σ → Session keys} {state : σ} {project filename : String} {file : Store.PlannedFile}
  {before after : Contents keys} {index : Int} {mayLose : Nat → Prop}

/-- What was true of the contents when a block came to be sent. -/
theorem planBlocks_reached (rules : database.Follows dialect discards view) (verbose : Bool)
    (holds : Contents keys → Prop) {plan : List Store.PlannedFile}
    (step : ∀ {file : Store.PlannedFile} {before after : Contents keys}
      {result : Except MigrationError FileOutcome},
        Applied dialect (Discardable discards) project file before result after → holds before →
          holds after) :
    ∀ {state : σ} {before : Contents keys}, view state = ⟨before, none⟩ → holds before →
      ∀ block ∈ planBlocks database dialect verbose project plan state,
        ∃ file ∈ plan, ∃ reached contents, view reached = ⟨contents, none⟩ ∧ holds contents ∧
          block = fileBlock database dialect verbose project file reached := by
  induction plan with
  | nil => exact fun _ _ _ member => by cases member
  | cons file rest induction =>
    intro state before idle start block member
    rcases List.mem_cons.mp member with rfl | later
    · exact ⟨file, List.mem_cons_self, state, before, idle, start, rfl⟩
    · obtain ⟨between, applied, final⟩ := applyFile_leaves rules verbose project file idle
      have kept : holds between := step (applied.mono fun _ lost => lost.1) start
      cases result : (applyFile database dialect verbose project file state).result with
      | error problem =>
        simp only [result] at later
        cases later
      | ok outcome =>
        simp only [result] at later
        obtain ⟨other, inside, reached⟩ := induction final kept block later
        exact ⟨other, List.mem_cons_of_mem file inside, reached⟩

theorem Call.blocks_reached (rules : database.Follows dialect discards view) (call : Call)
    (holds : Contents keys → Prop)
    (prepare : ∀ {before : Contents keys} (done : List String), holds before →
      holds (before.perform none done))
    (step : ∀ {file : Store.PlannedFile} {before after : Contents keys}
      {result : Except MigrationError FileOutcome},
        Applied dialect (Discardable discards) call.project file before result after →
        holds before →
          holds after)
    (idle : view state = ⟨before, none⟩) (start : holds before) :
    ∀ block ∈ call.blocks database dialect state,
      ∃ files, call.projects.find call.project = .ok files ∧ ∃ file ∈ call.plan files,
        ∃ reached contents, view reached = ⟨contents, none⟩ ∧ holds contents ∧
          block = fileBlock database dialect call.verbose call.project file reached := by
  intro block member
  obtain ⟨done, prepared⟩ := bootstrap_contents rules call.verbose idle
  simp only [Call.blocks] at member
  cases found : call.projects.find call.project with
  | error problem => simp [found] at member
  | ok files =>
    cases result : (bootstrap database dialect call.verbose state).result with
    | error problem => simp [found, result] at member
    | ok _ =>
      simp only [found, result] at member
      exact ⟨files, rfl, planBlocks_reached rules call.verbose holds step prepared
        (prepare done start)
        block member⟩

theorem fileBlock_quiet (rules : database.Follows dialect discards view) (verbose : Bool)
    (idle : view state = ⟨before, none⟩) (marked : MarkedComplete project file.name before) :
    Quiet (fileBlock database dialect verbose project file state).exchanges := by
  have logged := applyFile_exchanges database.transcribing_logs dialect verbose project file
    (Eq.refl (state, []).2)
  obtain ⟨exchanges, sent, _, _, quiet⟩ := logged
  have unattempted :
      attempt? database.transcribing dialect verbose project file (state, []) = none := by
    have idle : (view ∘ Prod.fst) (state, ([] : List Exchange)) = ⟨before, none⟩ := idle
    cases applyFile_course rules.transcribing verbose project file idle with
    | skipped unattempted | undone unattempted => exact unattempted
    | attempted _ _ incomplete =>
      rw [Contents.isComplete_checkpoint_iff.mpr marked] at incomplete
      contradiction
  have block : (fileBlock database dialect verbose project file state).exchanges = exchanges := sent
  rw [block]
  exact quiet unattempted

/-- After any calls the row of a complete file is as it was, and the next call, whichever it is,
sends nothing for the file that alters anything. -/
theorem history_complete (rules : database.Follows dialect discards view) (calls : List Call)
    (idle : view state = ⟨before, none⟩)
    (row : before.row project filename = some (index, statusOk)) :
    (∃ after, view (history database dialect calls state).2 = ⟨after, none⟩ ∧
      after.row project filename = some (index, statusOk)) ∧
    ∀ next : Call, next.project = project →
      ∀ block ∈ next.blocks database dialect (history database dialect calls state).2,
        block.filename = filename → Quiet block.exchanges := by
  obtain ⟨after, final, kept⟩ := history_preserves
    (fun contents => contents.row project filename = some (index, statusOk)) rules calls
    (fun _ _ _ _ _ called held => called.complete_row held) idle row
  refine ⟨⟨after, final, kept⟩, ?_⟩
  rintro next rfl block member rfl
  obtain ⟨_, _, file, _, reached, contents, view, held, rfl⟩ := next.blocks_reached rules
    (fun contents => contents.row next.project block.filename = some (index, statusOk))
    (fun _ held => held) (fun applied held => applied.complete_row held) final kept block member
  exact fileBlock_quiet rules next.verbose view ⟨index, held⟩

def FileOutcome.again (outcome : FileOutcome) : FileOutcome :=
  { outcome with applied := 0, skipped := true }

def RunReport.again (report : RunReport) : RunReport :=
  { report with files := report.files.map FileOutcome.again }

theorem RunReport.again_applied (report : RunReport) : report.again.applied = 0 := by
  have total (files : List FileOutcome) :
      (files.map FileOutcome.again).foldl (fun total file => total + file.applied) 0 = 0 := by
    induction files with
    | nil => rfl
    | cons file rest induction => exact induction
  exact total report.files

theorem RunReport.again_skipped (report : RunReport) :
    report.again.skipped = report.files.length := by
  have all : ∀ file ∈ report.files.map FileOutcome.again, file.skipped = true := by
    simp [FileOutcome.again]
  rw [skipped, again, List.filter_eq_self.mpr all, List.length_map]

theorem Applied.again {outcome again : FileOutcome}
    (applied : Applied dialect mayLose project file before (.ok again) after)
    (recorded : Recorded project before file.name outcome) : again = outcome.again := by
  have complete := Contents.isComplete_checkpoint_iff.mpr ⟨_, recorded.row⟩
  cases applied with
  | skipped =>
    rw [Contents.checkpoint_of_row recorded.row, FileOutcome.again, recorded.filename,
      recorded.status]
  | finished incomplete => simp [complete] at incomplete

/-- Files that are complete, each as its outcome says, are skipped. -/
theorem AppliedAll.again {plan : List Store.PlannedFile} {outcomes : List FileOutcome}
    {result : Except MigrationError (List FileOutcome)}
    (all : AppliedAll dialect discards project plan before result after)
    (recorded : List.Forall₂ (Recorded project before) (plan.map Store.PlannedFile.name)
      outcomes) :
    after = before ∧
      (result.isOk = true → result = .ok (outcomes.map FileOutcome.again)) := by
  induction all generalizing outcomes with
  | nil =>
    cases recorded
    exact ⟨rfl, fun _ => rfl⟩
  | failed first =>
    cases recorded with
    | cons head _ => exact ⟨first.of_markedComplete ⟨_, head.row⟩, nofun⟩
  | @cons file rest before between after outcome result first later induction =>
    cases recorded with
    | cons head tail =>
      obtain rfl := first.of_markedComplete ⟨_, head.row⟩
      obtain ⟨same, results⟩ := induction tail
      rw [isOk_map]
      refine ⟨same, fun success => ?_⟩
      rw [results success, first.again head]
      rfl

theorem Called.again {call : Call} {report : RunReport} {files : Store.FileSet}
    {result : Except MigrationError RunReport}
    (called : Called dialect discards call before result after)
    (found : call.projects.find call.project = .ok files) (same : report.project = call.project)
    (recorded : List.Forall₂ (Recorded call.project before) files.migrations report.files)
    (success : result.isOk = true) :
    result = .ok report.again ∧
      ∀ project filename, after.row project filename = before.row project filename := by
  cases called with
  | unknown => cases success
  | ran others finds runs =>
    obtain rfl : files = others := Except.ok.inj (found.symm.trans finds)
    cases runs with
    | unprepared => cases success
    | prepared applied =>
      have prepared : List.Forall₂
          (Recorded call.project (before.perform none (bootstrapStatements dialect)))
          ((call.plan files).map Store.PlannedFile.name) report.files := by
        rw [Call.plan, Store.FileSet.plan_names]
        exact recorded.imp fun _ _ record => ⟨record.filename, record.status, record.row⟩
      obtain ⟨rfl, results⟩ := applied.again prepared
      rw [isOk_map] at success
      refine ⟨?_, fun _ _ => rfl⟩
      rw [results success, RunReport.again, same]
      rfl

/-- A call for which there is nothing left to do. -/
structure Repeats (view : σ → Session keys) (database : Database σ) (dialect : Dialect)
    (call : Call)
    (state : σ) (report : RunReport) : Prop where
  result : (call.run database dialect state).result = .ok report.again
  applied : report.again.applied = 0
  skipped : report.again.skipped = report.files.length
  quiet : ∀ block ∈ call.blocks database dialect state, Quiet block.exchanges
  rows : ∀ project filename, (view (call.run database dialect state).state).durable.row project
    filename = (view state).durable.row project filename

theorem call_repeats (rules : database.Follows dialect discards view) {first again : Call}
    {report : RunReport} (idle : view state = ⟨before, none⟩)
    (projects : again.projects = first.projects) (project : again.project = first.project)
    (succeeded : (first.run database dialect state).result = .ok report)
    (faultless : smooth dialect
      (again.transcript database dialect (first.run database dialect state).state) = true) :
    Repeats view database dialect again (first.run database dialect state).state report := by
  obtain ⟨between, called, reached⟩ := first.run_called rules idle
  rw [succeeded] at called
  obtain ⟨files, found, same, recorded⟩ := called.recorded
  rw [← projects, ← project] at found
  rw [← project] at same recorded
  obtain ⟨after, repeated, final⟩ := again.run_called rules reached
  have success := (call_orderly database dialect again _).complete_of_smooth found faultless
  obtain ⟨result, rows⟩ := repeated.again found same recorded success
  refine ⟨result, report.again_applied, report.again_skipped, fun block member => ?_, ?_⟩
  · obtain ⟨others, finds, file, inside, reached, contents, view, held, rfl⟩ :=
      again.blocks_reached rules
        (fun contents => ∀ name ∈ files.migrations, MarkedComplete again.project name contents)
        (fun _ held => held)
        (fun applied held name member => (held name member).of_applied applied) reached
        (names_marked recorded) block member
    obtain rfl : files = others := Except.ok.inj (found.symm.trans finds)
    exact fileBlock_quiet rules again.verbose view
      (held file.name (Store.FileSet.mem_plan inside).1)
  · rw [reached, final]
    exact rows

/-- A complete file is final, and a run that succeeded leaves nothing to do for the next one. -/
theorem complete_files_are_final (rules : database.Follows dialect discards view)
    (idle : view state = ⟨before, none⟩) :
    (∀ {project filename : String} {index : Int} (calls : List Call),
      before.row project filename = some (index, statusOk) →
        (∃ after, view (history database dialect calls state).2 = ⟨after, none⟩ ∧
          after.row project filename = some (index, statusOk)) ∧
        ∀ next : Call, next.project = project →
          ∀ block ∈ next.blocks database dialect (history database dialect calls state).2,
            block.filename = filename → Quiet block.exchanges) ∧
    ∀ {first again : Call} {report : RunReport}, again.projects = first.projects →
      again.project = first.project →
      (first.run database dialect state).result = .ok report →
      smooth dialect
        (again.transcript database dialect (first.run database dialect state).state) = true →
      Repeats view database dialect again (first.run database dialect state).state report :=
  ⟨fun calls row => history_complete rules calls idle row,
    fun projects project succeeded faultless =>
      call_repeats rules idle projects project succeeded faultless⟩

def faultless : Database (Session .exact × Nat) :=
  faultyDatabase .sqlite false fun _ => none

theorem threeStatements_final :
    Repeats Prod.fst faultless .sqlite threeStatements
      (threeStatements.run faultless .sqlite (Session.unused, 0)).state
      ⟨"p", [⟨"a.up.sql", 3, false, 2, statusOk⟩]⟩ ∧
    ∀ next : Call, next.project = "p" →
      ∀ block ∈ next.blocks faultless .sqlite (history faultless .sqlite [threeStatements]
          (threeStatements.run faultless .sqlite (Session.unused, 0)).state).2,
        block.filename = "a.up.sql" → Quiet block.exchanges := by
  have rules : faultless.Follows .sqlite false Prod.fst := faultyDatabase_follows .sqlite false _
  have evaluated : (fun run : Run (Session .exact × Nat) RunReport =>
      (run.result, run.state.1.transaction.isNone, run.state.1.durable.row "p" "a.up.sql",
        smooth .sqlite (threeStatements.transcript faultless .sqlite run.state)))
      (threeStatements.run faultless .sqlite (Session.unused, 0)) =
        (.ok ⟨"p", [⟨"a.up.sql", 3, false, 2, statusOk⟩]⟩, true, some (2, statusOk), true) := by
    decide +kernel
  obtain ⟨succeeded, finished, row, again⟩ := by simpa only [Prod.mk.injEq] using evaluated
  have idle := Session.eq_of_idle (Option.isNone_iff_eq_none.mp finished)
  exact ⟨(complete_files_are_final rules rfl).2 rfl rfl succeeded again,
    ((complete_files_are_final rules idle).1 [threeStatements] row).2⟩

end Runner

end SqlMigrations
