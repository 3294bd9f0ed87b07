import SqlMigrations.Proofs.Runner.FirstFailure
import SqlMigrations.Proofs.Runner.Sent

namespace SqlMigrations.Runner

variable {σ : Type} {dialect : Dialect} {keys : Collation} {discards : Bool} {database : Database σ}
  {view : σ → Session keys} {state : σ} {project : String} {file : Store.PlannedFile}
  {before between after : Contents keys} {outcome : FileOutcome} {mayLose : Nat → Prop}

/-- The number of statements of a file whose positions are beyond the index in its row. -/
def outstanding (row : Option (Int × String)) (count : Nat) : Nat :=
  match row with
  | some (index, _) =>
    ((List.range count).filter fun position => decide (index < Int.ofNat position)).length
  | none => count

theorem filter_beyond_length (index : Int) (count : Nat) :
    ((List.range count).filter fun position => decide (index < Int.ofNat position)).length =
      count - (index + 1).toNat := by
  induction count with
  | zero => simp
  | succ count induction =>
    rw [List.range_succ, List.filter_append, List.length_append, induction]
    by_cases beyond : index < Int.ofNat count
    · have last : [count].filter (fun position => decide (index < Int.ofNat position)) =
          [count] := by
        simpa using beyond
      rw [last, List.length_singleton]
      simp only [Int.ofNat_eq_natCast] at beyond
      omega
    · have last : [count].filter (fun position => decide (index < Int.ofNat position)) = [] := by
        simpa using beyond
      rw [last, List.length_nil]
      simp only [Int.ofNat_eq_natCast] at beyond
      omega

theorem pending_length (bounded : (before.checkpoint project file.name).index < indexBound) :
    (pending before project file).length =
      outstanding (before.row project file.name) file.statements.length := by
  rw [pending, List.length_drop, Checkpoint.covered]
  cases found : before.row project file.name with
  | none =>
    rw [Contents.checkpoint_of_no_row found]
    simp [outstanding, Checkpoint.fresh]
  | some row =>
    rw [Contents.checkpoint_of_row found] at bounded ⊢
    simp only at bounded ⊢
    have within : (row.1 + 1).toNat ≤ indexBound := by omega
    rw [outstanding, filter_beyond_length, Nat.min_eq_left within]

/-- What an outcome says of the rows of its file before and after a run. -/
structure Accurate (project : String) (before after : Contents keys) (file : Store.PlannedFile)
    (outcome : FileOutcome) : Prop where
  filename : outcome.filename = file.name
  row : after.row project file.name = some (outcome.index, outcome.status)
  skipped : outcome.skipped = true ↔ MarkedComplete project file.name before
  untouched : outcome.skipped = true → outcome.applied = 0
  applied : outcome.skipped = false →
    outcome.applied = outstanding (before.row project file.name) file.statements.length

theorem Accurate.of_same (accurate : Accurate project between after file outcome)
    (row : between.row project file.name = before.row project file.name) :
    Accurate project before after file outcome := by
  obtain ⟨filename, final, skipped, untouched, applied⟩ := accurate
  rw [MarkedComplete, row] at skipped
  rw [row] at applied
  exact ⟨filename, final, skipped, untouched, applied⟩

theorem Applied.accurate
    (applied : Applied dialect mayLose project file before (.ok outcome) after)
    (bounded : (before.checkpoint project file.name).index < indexBound) :
    Accurate project before after file outcome := by
  have recorded := applied.recorded
  have row : after.row project file.name = some (outcome.index, outcome.status) := by
    rw [recorded.row, recorded.status]
  cases applied with
  | skipped complete =>
    have marked := Contents.isComplete_checkpoint_iff.mp complete
    exact ⟨rfl, row, iff_of_true rfl marked, fun _ => rfl, nofun⟩
  | finished incomplete =>
    have unmarked : ¬ MarkedComplete project file.name before := by
      intro marked
      rw [Contents.isComplete_checkpoint_iff.mpr marked] at incomplete
      contradiction
    exact ⟨rfl, row, iff_of_false nofun unmarked, nofun, fun _ => pending_length bounded⟩

/-- No file of a run is touched before its turn, and none after it. -/
theorem AppliedAll.accurate {plan : List Store.PlannedFile}
    {result : Except MigrationError (List FileOutcome)}
    (all : AppliedAll dialect discards project plan before result after)
    (apart : (plan.map Store.PlannedFile.name).Pairwise fun name other => ¬ keys.Same name other)
    (bounded : ∀ file ∈ plan, (before.checkpoint project file.name).index < indexBound) :
    ∀ {outcomes : List FileOutcome}, result = .ok outcomes →
      List.Forall₂ (Accurate project before after) plan outcomes := by
  induction all with
  | nil =>
    intro outcomes reported
    rw [← Except.ok.inj reported]
    exact .nil
  | failed => exact nofun
  | @cons file rest before between after outcome result first later induction =>
    intro outcomes reported
    rw [List.map_cons, List.pairwise_cons] at apart
    obtain ⟨beyond, apart⟩ := apart
    have untouched : ∀ other ∈ rest,
        between.row project other.name = before.row project other.name :=
      fun other member => first.other_row fun same =>
        beyond other.name (List.mem_map_of_mem member) same.symm
    obtain ⟨here, bounded⟩ := List.forall_mem_cons.mp bounded
    cases result with
    | error problem => cases reported
    | ok others =>
      obtain rfl : outcome :: others = outcomes := Except.ok.inj reported
      obtain ⟨filename, row, skipped, none, applied⟩ := first.accurate here
      have final : after.row project file.name = some (outcome.index, outcome.status) :=
        (later.other_row beyond).trans row
      have same : ∀ other ∈ rest,
          between.checkpoint project other.name = before.checkpoint project other.name :=
        fun other member => congrArg (checkpointOfRow project other.name) (untouched other member)
      have rests := induction apart
        (fun other member => (same other member) ▸ bounded other member) rfl
      have kept := (List.forall₂_and_left rest others).mpr ⟨untouched, rests⟩
      exact .cons ⟨filename, final, skipped, none, applied⟩
        (kept.imp fun _ _ both => both.2.of_same both.1)

theorem Accurate.filenames {plan : List Store.PlannedFile} {outcomes : List FileOutcome}
    (all : List.Forall₂ (Accurate project before after) plan outcomes) :
    outcomes.map FileOutcome.filename = plan.map Store.PlannedFile.name := by
  induction all with
  | nil => rfl
  | cons first _ induction => rw [List.map_cons, List.map_cons, first.filename, induction]

theorem Called.accurate {call : Call} {report : RunReport} {files : Store.FileSet}
    (called : Called dialect discards call before (.ok report) after)
    (found : call.projects.find call.project = .ok files) (apart : call.NamesApart keys)
    (bounded : ∀ filename, (before.checkpoint call.project filename).index < indexBound) :
    report.project = call.project ∧
      List.Forall₂ (Accurate call.project before after) (call.plan files) report.files := by
  cases called with
  | ran others finds runs =>
    obtain rfl : files = others := Except.ok.inj (found.symm.trans finds)
    generalize reported : (Except.ok report : Except MigrationError RunReport) = answer at runs
    cases runs with
    | unprepared => cases reported
    | @prepared result _ applied =>
      cases result with
      | error problem => cases reported
      | ok outcomes =>
        obtain rfl : report = ⟨call.project, outcomes⟩ := Except.ok.inj reported
        have names : (call.plan files).map Store.PlannedFile.name = files.migrations :=
          Store.FileSet.plan_names files call.supply call.next
        have accurate := applied.accurate (names ▸ apart files found)
          (fun file _ => bounded file.name) rfl
        exact ⟨rfl, accurate.imp fun _ _ record => record.of_same rfl⟩

theorem statementsOf_blocks (blocks : List Block) :
    statementsOf (blocks.flatMap Block.exchanges) = blocks.flatMap Block.statements := by
  rw [statementsOf, List.filterMap_flatMap]
  rfl

/-- What a report says of a run. The statement for the checkpoint table is sent first, and it is not
counted. -/
structure Agrees (dialect : Dialect) (call : Call) (before after : Contents keys)
    (transcript : List Exchange) (report : RunReport) (files : Store.FileSet) : Prop where
  project : report.project = call.project
  listed : report.files.map FileOutcome.filename = files.migrations
  rows : List.Forall₂ (Accurate call.project before after) (call.plan files) report.files
  counted : ∃ sent, statementsOf transcript = bootstrapStatements dialect ++ sent ∧
    report.applied = sent.length
  answered : ∀ sql answer, ⟨.statement sql, answer⟩ ∈ transcript → ∃ count, answer = .ok count

/-- A run that returns a report did what the report says. Stored indexes are 64-bit numbers, and the
database tells the files of the project apart, as all names are where texts are compared exactly. -/
theorem report_agrees (rules : database.Follows dialect discards view)
    (idle : view state = ⟨before, none⟩) (call : Call) (apart : call.NamesApart keys)
    (bounded : ∀ filename, (before.checkpoint call.project filename).index < indexBound)
    {report : RunReport} (succeeded : (call.run database dialect state).result = .ok report) :
    ∃ files after, call.projects.find call.project = .ok files ∧
      view (call.run database dialect state).state = ⟨after, none⟩ ∧
      Agrees dialect call before after (call.transcript database dialect state) report files := by
  obtain ⟨files, reported⟩ := Call.run_reported succeeded
  obtain ⟨after, called, final⟩ := call.run_called rules idle
  rw [succeeded] at called
  obtain ⟨project, rows⟩ := called.accurate reported.found apart bounded
  have listed : report.files.map FileOutcome.filename = files.migrations :=
    (Accurate.filenames rows).trans (Store.FileSet.plan_names files call.supply call.next)
  have counted : ∃ sent, statementsOf (call.transcript database dialect state) =
      bootstrapStatements dialect ++ sent ∧ report.applied = sent.length := by
    obtain ⟨sql, count, only, transcript⟩ := reported.transcript
    refine ⟨(call.blocks database dialect state).flatMap Block.statements, ?_, ?_⟩
    · rw [transcript, only, ← statementsOf_blocks]
      rfl
    · exact reported.sent.applied report.project
  exact ⟨files, after, reported.found, final, project, listed, rows, counted,
    fun _ _ member => answered_of_smooth reported.smooth member⟩

/-- Of the three files the first is complete and the second was stopped at its last statement. -/
def partlyApplied : Session .exact :=
  ⟨(Session.unused.durable.save .postgres ⟨"p", "a.up.sql", 0, statusOk⟩).save .postgres
    ⟨"p", "b.up.sql", 0, "no such table"⟩, none⟩

def faultlessPostgres : Database (Session .exact × Nat) :=
  faultyDatabase .postgres false fun _ => none

theorem threeFiles_report_agrees :
    ∃ files after, threeFiles.projects.find "p" = .ok files ∧
      (threeFiles.run faultlessPostgres .postgres (partlyApplied, 0)).state.1 = ⟨after, none⟩ ∧
      Agrees .postgres threeFiles partlyApplied.durable after
        (threeFiles.transcript faultlessPostgres .postgres (partlyApplied, 0))
        ⟨"p", [⟨"a.up.sql", 0, true, 0, statusOk⟩, ⟨"b.up.sql", 1, false, 1, statusOk⟩,
          ⟨"c.up.sql", 1, false, 0, statusOk⟩]⟩ files := by
  have rules : faultlessPostgres.Follows .postgres false Prod.fst :=
    faultyDatabase_follows .postgres false _
  have succeeded : (threeFiles.run faultlessPostgres .postgres (partlyApplied, 0)).result =
      .ok ⟨"p", [⟨"a.up.sql", 0, true, 0, statusOk⟩, ⟨"b.up.sql", 1, false, 1, statusOk⟩,
        ⟨"c.up.sql", 1, false, 0, statusOk⟩]⟩ := by
    decide +kernel
  have bounded : ∀ filename,
      (partlyApplied.durable.checkpoint threeFiles.project filename).index < indexBound := by
    intro filename
    by_cases second : filename = "b.up.sql"
    · rw [second]
      decide
    · by_cases first : filename = "a.up.sql"
      · rw [first]
        decide
      · have apart {other : String} (different : filename ≠ other) :
            ¬ Collation.exact.SameKey ("p", filename) ("p", other) :=
          fun same => different same.2
        have absent : partlyApplied.durable.row "p" filename = none :=
          (Contents.row_save_other (apart second)).trans (Contents.row_save_other (apart first))
        rw [show threeFiles.project = "p" from rfl, Contents.checkpoint_of_no_row absent]
        exact (by decide : (-1 : Int) < indexBound)
  exact report_agrees rules rfl threeFiles threeFiles.namesApart_exact bounded succeeded

end SqlMigrations.Runner
