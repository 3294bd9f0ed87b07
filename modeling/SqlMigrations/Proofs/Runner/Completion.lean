import SqlMigrations.Proofs.Database.Faulty
import SqlMigrations.Proofs.Runner.Resumption

/-!
Files that are marked as complete. The status of a row is either the mark of completeness or the
text of an error, and nothing keeps the two apart: a statement that fails with the text `ok`
completes its file. No other course of events marks a file that has statements to do.
-/

namespace SqlMigrations.Runner

open Session

variable {σ α β : Type} {dialect : Dialect} {keys : Collation} {discards : Bool}
  {database : Database σ}
  {view : σ → Session keys} {state : σ} {project filename : String} {file : Store.PlannedFile}
  {before after : Contents keys} {pieces : List (List Char)} {calls : List Call}
  {mayLose : Nat → Prop}

def MarkedComplete (project filename : String) (contents : Contents keys) : Prop :=
  ∃ index, contents.row project filename = some (index, statusOk)

/-- A file is marked although not all of its statements were applied. -/
def Mislabelled (project filename : String) (pieces : List (List Char)) (contents : Contents keys) :
    Prop :=
  MarkedComplete project filename contents ∧
    ¬ List.Forall₂ Statement.Expands pieces (contents.applied project filename)

/-- A statement of a file failed, and the text of the error is the mark of completeness. -/
def FailedAsOk (filename : String) : Except MigrationError α → Prop
  | .error (.statement name _ message) => name = filename ∧ message = statusOk
  | _ => False

def Skips (filename : String) (result : Except MigrationError RunReport) : Prop :=
  ∃ report, result = .ok report ∧
    ∃ outcome ∈ report.files, outcome.filename = filename ∧ outcome.skipped = true

theorem failedAsOk_map (result : Except MigrationError α) (build : α → β) :
    FailedAsOk filename (result.map build) ↔ FailedAsOk filename result := by
  cases result with
  | error problem => cases problem <;> rfl
  | ok value => rfl

theorem not_failedAsOk_of_failure {problem : MigrationError} (failure : problem.IsCommandFailure) :
    ¬ FailedAsOk filename (.error problem : Except MigrationError α) := by
  cases problem with
  | connection | driver => exact id
  | _ => cases failure

theorem mislabelled_iff_of_agreeAt (agree : Contents.AgreeAt project filename after before) :
    Mislabelled project filename pieces after ↔ Mislabelled project filename pieces before := by
  rw [Mislabelled, Mislabelled, MarkedComplete, MarkedComplete, agree.row, agree.applied]

/-- A marked file is left alone. -/
theorem Applied.of_markedComplete {result : Except MigrationError FileOutcome}
    (applied : Applied dialect mayLose project file before result after)
    (marked : MarkedComplete project file.name before) : after = before := by
  have complete := Contents.isComplete_checkpoint_iff.mpr marked
  cases applied with
  | skipped | undone => rfl
  | finished incomplete => simp [complete] at incomplete
  | stopped incomplete => simp [complete] at incomplete
  | lost incomplete => simp [complete] at incomplete

theorem Applied.complete_row {other : String} {index : Int}
    {result : Except MigrationError FileOutcome}
    (applied : Applied dialect mayLose other file before result after)
    (row : before.row project filename = some (index, statusOk)) :
    after.row project filename = some (index, statusOk) := by
  by_cases same : keys.SameKey (project, filename) (other, file.name)
  · rwa [applied.of_markedComplete ⟨index, Contents.row_congr same ▸ row⟩]
  · rwa [(applied.other same).row]

theorem Called.complete_row {call : Call} {index : Int} {result : Except MigrationError RunReport}
    (called : Called dialect discards call before result after)
    (row : before.row project filename = some (index, statusOk)) :
    after.row project filename = some (index, statusOk) :=
  called.preserves (fun contents => contents.row project filename = some (index, statusOk))
    (fun _ _ held => held) (fun _ _ _ _ _ _ _ applied held => applied.complete_row held) row

theorem MarkedComplete.of_applied {other : String} {result : Except MigrationError FileOutcome}
    (marked : MarkedComplete project filename before)
    (applied : Applied dialect mayLose other file before result after) :
    MarkedComplete project filename after :=
  marked.imp fun _ row => applied.complete_row row

theorem MarkedComplete.of_called {call : Call} {result : Except MigrationError RunReport}
    (marked : MarkedComplete project filename before)
    (called : Called dialect discards call before result after) :
    MarkedComplete project filename after :=
  marked.imp fun _ row => called.complete_row row

theorem Applied.mislabelled_iff {result : Except MigrationError FileOutcome}
    (applied : Applied dialect (Discardable false) project file before result after)
    (lags : Lags project file.name pieces 0 before)
    (expands : List.Forall₂ Statement.Expands pieces file.statements)
    (room : pieces.length ≤ indexBound) :
    Mislabelled project file.name pieces after ↔
      Mislabelled project file.name pieces before ∨ FailedAsOk file.name result := by
  have unmarked (incomplete : (before.checkpoint project file.name).isComplete = false) :
      ¬ Mislabelled project file.name pieces before := by
    intro labelled
    rw [Contents.isComplete_checkpoint_iff.mpr labelled.1] at incomplete
    contradiction
  obtain ⟨count, within, covers, length, held⟩ := lags
  have covered := covers.covered (Nat.le_trans within room)
  have total := expands.length_eq
  cases applied with
  | skipped => exact (or_iff_left id).symm
  | undone problem failure => exact (or_iff_left (not_failedAsOk_of_failure failure)).symm
  | finished incomplete =>
    refine iff_of_false (fun labelled => labelled.2 ?_) (not_or_intro (unmarked incomplete) id)
    have all : List.Forall₂ Statement.Expands (pieces.take (count + (pieces.length - count)))
        (before.applied project file.name ++
          (file.statements.drop count).take (pieces.length - count)) :=
      expands_more expands (held rfl)
    have rest : (file.statements.drop count).take (pieces.length - count) =
        file.statements.drop count := by
      rw [total, ← List.length_drop, List.take_length]
    rw [Nat.add_sub_cancel' within, List.take_length, rest] at all
    rwa [Contents.applied_advance_same, pending, covered]
  | stopped incomplete more some message index reached =>
    rw [or_iff_right (unmarked incomplete)]
    constructor
    · rintro ⟨⟨position, row⟩, _⟩
      rw [Contents.row_advance_same] at row
      exact ⟨rfl, (Prod.mk.inj (Option.some.inj row)).2⟩
    · rintro ⟨_, rfl⟩
      refine ⟨⟨index, Contents.row_advance_same _ _ _⟩, fun all => ?_⟩
      have equal := all.length_eq
      rw [Contents.applied_advance_same, List.length_append, List.length_take] at equal
      rw [pending, covered, List.length_drop] at some equal
      omega
  | lost _ _ impossible => cases impossible

theorem Applied.not_failedAsOk {result : Except MigrationError FileOutcome}
    (applied : Applied dialect (Discardable false) project file before result after)
    (different : file.name ≠ filename) : ¬ FailedAsOk filename result := by
  cases applied with
  | skipped | finished => exact id
  | undone problem failure => exact not_failedAsOk_of_failure failure
  | stopped => exact fun failed => different failed.1
  | lost _ _ impossible => cases impossible

/-- One file of a run, be it the given one or another. -/
theorem Applied.labels {other : String} {result : Except MigrationError FileOutcome}
    (applied : Applied dialect (Discardable false) other file before result after)
    (lags : Lags project filename pieces 0 before)
    (keeps : keys.SameKey (project, filename) (other, file.name) → other = project ∧
      file.name = filename ∧ List.Forall₂ Statement.Expands pieces file.statements)
    (room : pieces.length ≤ indexBound) :
    Lags project filename pieces 0 after ∧
      (Mislabelled project filename pieces after ↔
        Mislabelled project filename pieces before ∨
          other = project ∧ FailedAsOk filename result) := by
  by_cases same : keys.SameKey (project, filename) (other, file.name)
  · obtain ⟨rfl, rfl, expands⟩ := keeps same
    rw [and_iff_right rfl]
    refine ⟨?_, applied.mislabelled_iff lags expands room⟩
    obtain ⟨lost, rfl | impossible, kept⟩ := lags.of_applied applied expands room
    · exact kept
    · cases impossible
  · have agree := applied.other same
    have unaffected : ¬ (other = project ∧ FailedAsOk filename result) := by
      rintro ⟨rfl, failed⟩
      refine applied.not_failedAsOk (fun named => same ?_) failed
      exact .of_eq (Prod.ext rfl named.symm)
    rw [or_iff_left unaffected]
    exact ⟨lags.of_agreeAt agree, mislabelled_iff_of_agreeAt agree⟩

theorem AppliedAll.labels {other : String} {plan : List Store.PlannedFile}
    {result : Except MigrationError (List FileOutcome)}
    (all : AppliedAll dialect false other plan before result after)
    (lags : Lags project filename pieces 0 before)
    (keeps : ∀ file ∈ plan, keys.SameKey (project, filename) (other, file.name) →
      other = project ∧ file.name = filename ∧
        List.Forall₂ Statement.Expands pieces file.statements)
    (room : pieces.length ≤ indexBound) :
    Mislabelled project filename pieces after ↔
      Mislabelled project filename pieces before ∨
        other = project ∧ FailedAsOk filename result := by
  induction all with
  | nil => exact (or_iff_left And.right).symm
  | @failed file rest before after problem first =>
    have labels := (first.labels lags (keeps file List.mem_cons_self) room).2
    cases problem <;> exact labels
  | @cons file rest before between after outcome result first _ induction =>
    obtain ⟨kept, labels⟩ := first.labels lags (keeps file List.mem_cons_self) room
    have same : Mislabelled project filename pieces between ↔
        Mislabelled project filename pieces before := labels.trans (or_iff_left And.right)
    rw [failedAsOk_map, ← same]
    exact induction kept fun other member => keeps other (List.mem_cons_of_mem file member)

theorem Called.labels {call : Call} {result : Except MigrationError RunReport}
    (called : Called dialect false call before result after)
    (lags : Lags project filename pieces 0 before)
    (unchanged : call.KeepsPieces keys project filename pieces)
    (room : pieces.length ≤ indexBound) :
    Mislabelled project filename pieces after ↔
      Mislabelled project filename pieces before ∨
        call.project = project ∧ FailedAsOk filename result := by
  cases called with
  | unknown => exact (or_iff_left And.right).symm
  | ran files found runs =>
    cases runs with
    | unprepared done within problem failure =>
      rw [or_iff_left fun failed => not_failedAsOk_of_failure failure failed.2]
      exact mislabelled_iff_of_agreeAt (before.perform_none_agreeAt done)
    | prepared applied =>
      have agree : Contents.AgreeAt project filename
          (before.perform none (bootstrapStatements dialect)) before :=
        before.perform_none_agreeAt _
      rw [failedAsOk_map, ← mislabelled_iff_of_agreeAt agree]
      exact applied.labels (lags.of_agreeAt agree)
        (fun file member => unchanged.expands found member) room

theorem Passed.labels {records : List (Call × Except MigrationError RunReport)}
    (passed : Passed dialect false before records after)
    (lags : Lags project filename pieces 0 before)
    (unchanged : ∀ record ∈ records, record.1.KeepsPieces keys project filename pieces)
    (room : pieces.length ≤ indexBound) :
    Mislabelled project filename pieces after ↔
      Mislabelled project filename pieces before ∨
        ∃ record ∈ records, record.1.project = project ∧ FailedAsOk filename record.2 := by
  induction passed with
  | nil => simp
  | @cons call result rest before between after first _ induction =>
    have keeps : call.KeepsPieces keys project filename pieces := unchanged _ List.mem_cons_self
    have later := induction (lags.of_called first keeps room)
      fun record member => unchanged record (List.mem_cons_of_mem _ member)
    rw [later, first.labels lags keeps room, or_assoc, List.exists_mem_cons_iff]

/-- An outcome says what the row of a complete file says. -/
structure Recorded (project : String) (contents : Contents keys) (name : String)
    (outcome : FileOutcome) : Prop where
  filename : outcome.filename = name
  status : outcome.status = statusOk
  row : contents.row project name = some (outcome.index, statusOk)

theorem names_marked {contents : Contents keys} {names : List String}
    {outcomes : List FileOutcome}
    (recorded : List.Forall₂ (Recorded project contents) names outcomes) :
    ∀ name ∈ names, MarkedComplete project name contents := by
  induction recorded with
  | nil => exact List.forall_mem_nil _
  | cons first _ induction => exact List.forall_mem_cons.mpr ⟨⟨_, first.row⟩, induction⟩

theorem outcomes_marked {contents : Contents keys} {names : List String}
    {outcomes : List FileOutcome}
    (recorded : List.Forall₂ (Recorded project contents) names outcomes) :
    ∀ outcome ∈ outcomes, MarkedComplete project outcome.filename contents := by
  induction recorded with
  | nil => exact List.forall_mem_nil _
  | cons first _ induction =>
    exact List.forall_mem_cons.mpr ⟨⟨_, first.filename ▸ first.row⟩, induction⟩

theorem Applied.recorded {outcome : FileOutcome}
    (applied : Applied dialect mayLose project file before (.ok outcome) after) :
    Recorded project after file.name outcome := by
  cases applied with
  | skipped complete =>
    obtain ⟨index, row⟩ := Contents.isComplete_checkpoint_iff.mp complete
    rw [Contents.checkpoint_of_row row]
    exact ⟨rfl, rfl, row⟩
  | finished => exact ⟨rfl, rfl, Contents.row_advance_same _ _ _⟩

theorem AppliedAll.recorded {plan : List Store.PlannedFile}
    {result : Except MigrationError (List FileOutcome)}
    (all : AppliedAll dialect discards project plan before result after) :
    ∀ {outcomes : List FileOutcome}, result = .ok outcomes →
      List.Forall₂ (Recorded project after) (plan.map Store.PlannedFile.name) outcomes := by
  induction all with
  | nil =>
    intro outcomes reported
    rw [← Except.ok.inj reported]
    exact .nil
  | failed first =>
    intro outcomes reported
    cases reported
  | @cons file rest before between after outcome result first later induction =>
    intro outcomes reported
    cases result with
    | error problem => cases reported
    | ok others =>
      obtain rfl : outcome :: others = outcomes := Except.ok.inj reported
      obtain ⟨filename, status, row⟩ := first.recorded
      have kept := later.preserves
        (fun contents => contents.row project file.name = some (outcome.index, statusOk))
        (fun _ _ _ _ _ applied held => applied.complete_row held) row
      exact .cons ⟨filename, status, kept⟩ (induction rfl)

theorem AppliedAll.marked {plan : List Store.PlannedFile}
    {result : Except MigrationError (List FileOutcome)}
    (all : AppliedAll dialect discards project plan before result after)
    (success : result.isOk = true) :
    ∀ name ∈ plan.map Store.PlannedFile.name, MarkedComplete project name after := by
  cases result with
  | error problem => cases success
  | ok outcomes => exact names_marked (all.recorded rfl)

theorem Called.recorded {call : Call} {report : RunReport}
    (called : Called dialect discards call before (.ok report) after) :
    ∃ files, call.projects.find call.project = .ok files ∧ report.project = call.project ∧
      List.Forall₂ (Recorded call.project after) files.migrations report.files := by
  cases called with
  | ran files found runs =>
    generalize reported : (Except.ok report : Except MigrationError RunReport) = answer at runs
    cases runs with
    | unprepared => cases reported
    | @prepared result _ applied =>
      cases result with
      | error problem => cases reported
      | ok outcomes =>
        obtain rfl : report = ⟨call.project, outcomes⟩ := Except.ok.inj reported
        have recorded := applied.recorded rfl
        rw [Call.plan, Store.FileSet.plan_names] at recorded
        exact ⟨files, found, rfl, recorded⟩

theorem Called.marked_of_skips {call : Call} {result : Except MigrationError RunReport}
    (called : Called dialect discards call before result after) (skips : Skips filename result) :
    MarkedComplete call.project filename after := by
  obtain ⟨report, rfl, outcome, member, rfl, _⟩ := skips
  obtain ⟨_, _, _, recorded⟩ := called.recorded
  exact outcomes_marked recorded outcome member

/-- A file that was skipped once stays marked, so no later call applies it. -/
theorem Passed.marked_of_skips {records : List (Call × Except MigrationError RunReport)}
    {record : Call × Except MigrationError RunReport}
    (passed : Passed dialect discards before records after) (member : record ∈ records)
    (skips : Skips filename record.2) : MarkedComplete record.1.project filename after := by
  induction passed with
  | nil => cases member
  | cons first later induction =>
    rcases List.mem_cons.mp member with rfl | further
    · exact later.preserves (MarkedComplete _ filename)
        (fun _ _ _ _ called held => held.of_called called) (first.marked_of_skips skips)
    · exact induction further

/-- Whatever fails, the row of a file has the status of a complete one only if all its statements
were applied, unless a statement failed with that very text; no run skips a file whose row says
otherwise. -/
theorem mislabelled_iff_failedAsOk (rules : database.Transactional dialect view)
    (idle : view state = ⟨before, none⟩) (unstarted : before.row project filename = none)
    (untouched : before.applied project filename = [])
    (unchanged : ∀ call ∈ calls, call.KeepsPieces keys project filename pieces)
    (room : pieces.length ≤ indexBound) :
    ∃ after, view (history database dialect calls state).2 = ⟨after, none⟩ ∧
      (Mislabelled project filename pieces after ↔
        ∃ record ∈ (history database dialect calls state).1,
          record.1.project = project ∧ FailedAsOk filename record.2) ∧
      ∀ record ∈ (history database dialect calls state).1, record.1.project = project →
        Skips filename record.2 → MarkedComplete project filename after := by
  obtain ⟨after, passed, final⟩ := history_passed rules calls idle
  have keeps : ∀ record ∈ (history database dialect calls state).1,
      record.1.KeepsPieces keys project filename pieces := by
    intro record member
    have recorded : record.1 ∈ (history database dialect calls state).1.map Prod.fst :=
      List.mem_map_of_mem member
    rw [history_calls] at recorded
    exact unchanged record.1 recorded
  have unmarked : ¬ Mislabelled project filename pieces before := by
    rintro ⟨⟨index, row⟩, _⟩
    simp [unstarted] at row
  refine ⟨after, final, ?_, ?_⟩
  · rw [passed.labels (lags_of_unstarted unstarted untouched) keeps room, or_iff_right unmarked]
  · rintro record member rfl skips
    exact passed.marked_of_skips member skips

/-- Refuses `B` of the three statements with the text `ok`. -/
def refusedAsOk : Database (Session .exact × Nat) :=
  faultyDatabase .sqlite false fun
    | 5 => some ⟨.refused (.sqlite "1811") "ok", false⟩
    | _ => none

/-- The second run skips the file although `B` and `C` were never applied. -/
theorem statusOk_before_completion :
    refusedAsOk.Transactional .sqlite Prod.fst ∧
    ∃ after, (history refusedAsOk .sqlite [threeStatements, threeStatements]
        (Session.unused, 0)).2.1 = ⟨after, none⟩ ∧
      after.row "p" "a.up.sql" = some (0, statusOk) ∧ after.applied "p" "a.up.sql" = ["A"] ∧
      Mislabelled "p" "a.up.sql" [['A'], ['B'], ['C']] after ∧
      (history refusedAsOk .sqlite [threeStatements, threeStatements]
        (Session.unused, 0)).1.map Prod.snd =
          [.error (.statement "a.up.sql" 1 "ok"),
            .ok ⟨"p", [⟨"a.up.sql", 0, true, 0, statusOk⟩]⟩] := by
  -- One evaluation for all four facts, as the runs are what takes time.
  have evaluated : (fun runs : List (Call × Except MigrationError RunReport) ×
      Session .exact × Nat =>
      (runs.2.1.transaction.isNone, runs.2.1.durable.row "p" "a.up.sql",
        runs.2.1.durable.applied "p" "a.up.sql", runs.1.map Prod.snd))
      (history refusedAsOk .sqlite [threeStatements, threeStatements] (Session.unused, 0)) =
        (true, some (0, statusOk), ["A"], [.error (.statement "a.up.sql" 1 "ok"),
          .ok ⟨"p", [⟨"a.up.sql", 0, true, 0, statusOk⟩]⟩]) := by decide +kernel
  obtain ⟨finished, row, held, results⟩ := by simpa only [Prod.mk.injEq] using evaluated
  refine ⟨faultyDatabase_follows .sqlite false _, _,
    eq_of_idle (Option.isNone_iff_eq_none.mp finished), row, held,
    ⟨⟨0, row⟩, fun all => ?_⟩, results⟩
  have length := all.length_eq
  rw [held] at length
  exact absurd length (by decide)

theorem threeStatements_mislabelled_iff :
    ∃ after, (history refusedAsOk .sqlite [threeStatements, threeStatements]
        (Session.unused, 0)).2.1 = ⟨after, none⟩ ∧
      (Mislabelled "p" "a.up.sql" [['A'], ['B'], ['C']] after ↔
        ∃ record ∈ (history refusedAsOk .sqlite [threeStatements, threeStatements]
            (Session.unused, 0)).1,
          record.1.project = "p" ∧ FailedAsOk "a.up.sql" record.2) ∧
      ∀ record ∈ (history refusedAsOk .sqlite [threeStatements, threeStatements]
          (Session.unused, 0)).1,
        record.1.project = "p" → Skips "a.up.sql" record.2 →
          MarkedComplete "p" "a.up.sql" after := by
  have rules : refusedAsOk.Transactional .sqlite Prod.fst := faultyDatabase_follows .sqlite false _
  have unchanged : ∀ call ∈ [threeStatements, threeStatements],
      call.KeepsPieces .exact "p" "a.up.sql" [['A'], ['B'], ['C']] := by
    simp only [List.forall_mem_cons]
    exact ⟨threeStatements_keepsPieces, threeStatements_keepsPieces, nofun⟩
  exact mislabelled_iff_failedAsOk rules Session.unused_idle rfl rfl unchanged (by decide)

end SqlMigrations.Runner
