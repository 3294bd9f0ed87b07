import SqlMigrations.Proofs.Database.Faulty
import SqlMigrations.Proofs.Runner.Resumption

/-!
Work that is lost. An engine that answers a failing statement by ending the transaction leaves the
runner with a checkpoint of statements that are gone; saved outside of any transaction, it counts
them for good. No other course of events makes a checkpoint count what is not there.
-/

namespace SqlMigrations.Runner

open Session

variable {σ : Type} {dialect : Dialect} {keys : Collation} {discards : Bool} {database : Database σ}
  {view : σ → Session keys} {state : σ} {project filename : String} {file : Store.PlannedFile}
  {before : Contents keys} {pieces : List (List Char)} {calls : List Call} {lag : Nat}

/-- The row of a file counts only statements with durable effects: the statements up to its index
find their effects, in order and each its own. -/
def CountsDurable (project filename : String) (pieces : List (List Char))
    (contents : Contents keys) :
    Prop :=
  ∀ index status, contents.row project filename = some (index, status) →
    List.SublistForall₂ Statement.Expands (pieces.take (index + 1).toNat)
      (contents.applied project filename)

theorem SublistForall₂.length_le {α β : Type} {related : α → β → Prop} {first : List α}
    {second : List β} (sub : List.SublistForall₂ related first second) :
    first.length ≤ second.length := by
  obtain ⟨between, all, within⟩ := List.sublistForall₂_iff.mp sub
  rw [all.length_eq]
  exact within.length_le

theorem Lags.countsDurable_iff {contents : Contents keys}
    (lags : Lags project filename pieces lag contents) :
    CountsDurable project filename pieces contents ↔ lag = 0 := by
  obtain ⟨count, within, covers, length, held⟩ := lags
  rw [Covers] at covers
  constructor
  · intro counts
    cases found : contents.row project filename with
    | none =>
      rw [Contents.checkpoint_of_no_row found] at covers
      have nothing : (-1 : Int) = (count : Int) - 1 := covers
      omega
    | some row =>
      rw [Contents.checkpoint_of_row found] at covers
      have index : row.1 = (count : Int) - 1 := covers
      have enough := SublistForall₂.length_le (counts row.1 row.2 found)
      rw [index, List.length_take] at enough
      omega
  · intro none index status found
    rw [Contents.checkpoint_of_row found] at covers
    have reached : (index + 1).toNat = count := by
      have position : index = (count : Int) - 1 := covers
      omega
    rw [reached]
    exact List.sublistForall₂_iff.mpr ⟨_, held none, List.Sublist.refl _⟩

/-- Applying a file loses statements: they were executed, a later one ended the transaction, and the
checkpoint that counts them was saved. -/
def LosesWork (view : σ → Session keys) (database : Database σ) (dialect : Dialect) (verbose : Bool)
    (project : String) (file : Store.PlannedFile) (state : σ) : Prop :=
  ∃ count, 0 < count ∧ Loses view database dialect verbose project file state count

/-- Files of a plan up to the first error, some of which is the given one and loses statements. -/
def PlanLosesWork (view : σ → Session keys) (database : Database σ) (dialect : Dialect)
    (verbose : Bool)
    (project filename : String) : List Store.PlannedFile → σ → Prop
  | [], _ => False
  | file :: rest, state =>
    let first := applyFile database dialect verbose project file state
    (file.name = filename ∧ LosesWork view database dialect verbose project file state) ∨
      (first.result.isOk = true ∧
        PlanLosesWork view database dialect verbose project filename rest first.state)

def Call.LosesWork (view : σ → Session keys) (database : Database σ) (dialect : Dialect)
    (project filename : String) (call : Call) (state : σ) : Prop :=
  call.project = project ∧ ∃ files, call.projects.find project = .ok files ∧
    let prepared := bootstrap database dialect call.verbose state
    prepared.result = .ok () ∧
      PlanLosesWork view database dialect call.verbose project filename (call.plan files)
        prepared.state

def HistoryLosesWork (view : σ → Session keys) (database : Database σ) (dialect : Dialect)
    (project filename : String) : List Call → σ → Prop
  | [], _ => False
  | call :: rest, state =>
    call.LosesWork view database dialect project filename state ∨
      HistoryLosesWork view database dialect project filename rest
        (call.run database dialect state).state

/-- A run ends with its transaction over and the lag of the file grown, by more than nothing exactly
if `loses`. -/
def GrowsLag (view : σ → Session keys) (project filename : String) (pieces : List (List Char))
    (lag : Nat)
    (final : σ) (loses : Prop) : Prop :=
  ∃ after more, view final = ⟨after, none⟩ ∧ Lags project filename pieces (lag + more) after ∧
    (0 < more ↔ loses)

theorem GrowsLag.then {final last : σ} {first second both : Prop}
    (grows : GrowsLag view project filename pieces lag final first)
    (later : ∀ {after : Contents keys} {lag : Nat}, view final = ⟨after, none⟩ →
      Lags project filename pieces lag after →
        GrowsLag view project filename pieces lag last second)
    (either : both ↔ first ∨ second) : GrowsLag view project filename pieces lag last both := by
  obtain ⟨between, more, final, lags, lost⟩ := grows
  obtain ⟨after, further, final, lags, lostLater⟩ := later final lags
  refine ⟨after, more + further, final, by rwa [← Nat.add_assoc], ?_⟩
  rw [either, ← lost, ← lostLater]
  omega

/-- An attempt that loses statements leaves nothing but its checkpoint. -/
theorem applyFile_of_loses (rules : database.Follows dialect discards view) {verbose : Bool}
    {count : Nat} (idle : view state = ⟨before, none⟩)
    (loses : Loses view database dialect verbose project file state count) :
    ∃ status, count ≤ (pending before project file).length ∧
      view (applyFile database dialect verbose project file state).state =
        ⟨before.advance dialect project file.name []
          ((before.checkpoint project file.name).reached
            (before.checkpoint project file.name).covered count) status, none⟩ := by
  obtain ⟨attempt, found, rfl, bare, saving⟩ := loses
  cases applyFile_course rules verbose project file idle with
  | skipped unattempted => simp [unattempted] at found
  | undone unattempted => simp [unattempted] at found
  | attempted made same incomplete reached concluded =>
    obtain rfl : made = attempt := Option.some.inj (same.symm.trans found)
    cases reached with
    | completed applied failure written holds =>
      obtain ⟨_, savepoints, opened⟩ := holds
      simp [bare] at opened
    | stopped message within failure written aftermath =>
      refine ⟨message, Nat.le_of_lt within, ?_⟩
      have remains : view made.state = ⟨before, none⟩ :=
        (rolledBack_of_idle bare).symm.trans aftermath.rolledBack
      cases saved : saveCheckpoint database made.checkpoint made.state with
      | mk answer after =>
        obtain rfl : answer = .ok () := by rwa [saved] at saving
        have contents : view (conclude database made).state =
            ⟨before.save dialect made.checkpoint, none⟩ := by
          rcases conclude_bare_saved rules remains saved with ⟨_, final⟩ | ⟨_, _, _, final⟩ <;>
            exact final
        rw [concluded.2, contents, written, Contents.advance_nil]
        simp only [Contents.checkpoint_project, Contents.checkpoint_filename]

section
variable (rules : database.Follows dialect discards view) (room : pieces.length ≤ indexBound)
include rules room

theorem applyFile_growsLag (verbose : Bool) (idle : view state = ⟨before, none⟩)
    (lags : Lags project file.name pieces lag before)
    (expands : List.Forall₂ Statement.Expands pieces file.statements) :
    GrowsLag view project file.name pieces lag
      (applyFile database dialect verbose project file state).state
      (LosesWork view database dialect verbose project file state) := by
  -- The attempt says how much is lost; if it loses nothing, the contents say that the lag stays.
  by_cases loses : LosesWork view database dialect verbose project file state
  · obtain ⟨more, some, lost⟩ := loses
    obtain ⟨status, within, final⟩ := applyFile_of_loses rules idle lost
    refine ⟨_, more, final, ?_, iff_of_true some ⟨more, some, lost⟩⟩
    obtain ⟨count, counted, covers, length, held⟩ := lags
    have covered := covers.covered (Nat.le_trans counted room)
    have total := expands.length_eq
    rw [pending, covered, List.length_drop] at within
    rw [covered, covers.reached]
    refine ⟨count + more, by omega, covers_advance _ _ _, ?_, by omega⟩
    rw [Contents.applied_advance_same, List.append_nil]
    omega
  · obtain ⟨after, applied, final⟩ := applyFile_leaves rules verbose project file idle
    have harmless : Applied dialect (fun count => count = 0) project file before _ after :=
      applied.mono fun count lost => by
        by_contra some
        exact loses ⟨count, Nat.pos_of_ne_zero some, lost.2⟩
    obtain ⟨lost, nothing, kept⟩ := lags.of_applied harmless expands room
    obtain rfl : lost = 0 := nothing.elim id id
    exact ⟨after, 0, final, kept, iff_of_false (Nat.lt_irrefl 0) loses⟩

theorem applyFiles_growsLag (verbose : Bool) (plan : List Store.PlannedFile)
    (keeps : ∀ file ∈ plan, keys.SameKey (project, filename) (project, file.name) →
      file.name = filename ∧ List.Forall₂ Statement.Expands pieces file.statements) :
    ∀ {state : σ} {before : Contents keys} {lag : Nat}, view state = ⟨before, none⟩ →
      Lags project filename pieces lag before →
      GrowsLag view project filename pieces lag
        (applyFiles database dialect verbose project plan state).state
        (PlanLosesWork view database dialect verbose project filename plan state) := by
  induction plan with
  | nil => exact fun idle lags => ⟨_, 0, idle, lags, iff_of_false (Nat.lt_irrefl 0) id⟩
  | cons file rest induction =>
    intro state before lag idle lags
    have first : GrowsLag view project filename pieces lag
        (applyFile database dialect verbose project file state).state
        (file.name = filename ∧ LosesWork view database dialect verbose project file state) := by
      by_cases same : keys.SameKey (project, filename) (project, file.name)
      · obtain ⟨rfl, expands⟩ := keeps file List.mem_cons_self same
        simpa only [true_and] using applyFile_growsLag rules room verbose idle lags expands
      · obtain ⟨after, applied, final⟩ := applyFile_leaves rules verbose project file idle
        refine ⟨after, 0, final, lags.of_agreeAt (applied.other same),
          iff_of_false (Nat.lt_irrefl 0) fun loses => same ?_⟩
        exact .of_eq (Prod.ext rfl loses.1.symm)
    have rests : ∀ other ∈ rest, keys.SameKey (project, filename) (project, other.name) →
        other.name = filename ∧ List.Forall₂ Statement.Expands pieces other.statements :=
      fun other member => keeps other (List.mem_cons_of_mem file member)
    simp only [applyFiles, PlanLosesWork]
    cases result : (applyFile database dialect verbose project file state).result with
    | error problem =>
      refine first.then (fun final kept => ⟨_, 0, final, kept, ?_⟩) Iff.rfl
      exact iff_of_false (Nat.lt_irrefl 0) fun loses => Bool.noConfusion loses.1
    | ok outcome =>
      refine first.then (fun final kept => induction rests final kept) ?_
      simp only [Except.isOk, Except.toBool, true_and]

theorem Call.run_growsLag (call : Call) (unchanged : call.KeepsPieces keys project filename pieces)
    (idle : view state = ⟨before, none⟩) (lags : Lags project filename pieces lag before) :
    GrowsLag view project filename pieces lag (call.run database dialect state).state
      (call.LosesWork view database dialect project filename state) := by
  by_cases same : call.project = project
  · obtain rfl : project = call.project := same.symm
    cases found : call.projects.find call.project with
    | error problem =>
      simp only [Call.run, Runner.run, found]
      refine ⟨before, 0, idle, lags, iff_of_false (Nat.lt_irrefl 0) ?_⟩
      rintro ⟨_, files, impossible, _⟩
      simp [found] at impossible
    | ok files =>
      have keeps : ∀ file ∈ call.plan files,
          keys.SameKey (call.project, filename) (call.project, file.name) →
            file.name = filename ∧ List.Forall₂ Statement.Expands pieces file.statements :=
        fun file member same => (unchanged.expands found member same).2
      obtain ⟨done, final⟩ := bootstrap_contents rules call.verbose idle
      have prepared : Lags call.project filename pieces lag (before.perform none done) :=
        lags.of_agreeAt (before.perform_none_agreeAt done)
      simp only [Call.run, Runner.run, runPlan, found]
      cases result : (bootstrap database dialect call.verbose state).result with
      | error problem =>
        refine ⟨_, 0, final, prepared, iff_of_false (Nat.lt_irrefl 0) ?_⟩
        rintro ⟨_, _, _, impossible, _⟩
        simp [result] at impossible
      | ok _ =>
        obtain ⟨after, more, last, kept, lost⟩ :=
          applyFiles_growsLag rules room call.verbose (call.plan files) keeps final prepared
        refine ⟨after, more, last, kept, lost.trans ⟨fun loses => ?_, ?_⟩⟩
        · exact ⟨rfl, files, found, result, loses⟩
        · rintro ⟨_, others, again, _, loses⟩
          obtain rfl : files = others := Except.ok.inj (found.symm.trans again)
          exact loses
  · obtain ⟨after, called, final⟩ := call.run_called rules idle
    refine ⟨after, 0, final, ?_, iff_of_false (Nat.lt_irrefl 0) fun loses => same loses.1⟩
    refine lags.of_agreeAt (called.other_file fun files found name eligible sameKey => ?_)
    exact same (unchanged files found name eligible sameKey).1

theorem history_growsLag (calls : List Call)
    (unchanged : ∀ call ∈ calls, call.KeepsPieces keys project filename pieces) :
    ∀ {state : σ} {before : Contents keys} {lag : Nat}, view state = ⟨before, none⟩ →
      Lags project filename pieces lag before →
      GrowsLag view project filename pieces lag (history database dialect calls state).2
        (HistoryLosesWork view database dialect project filename calls state) := by
  induction calls with
  | nil => exact fun idle lags => ⟨_, 0, idle, lags, iff_of_false (Nat.lt_irrefl 0) id⟩
  | cons call rest induction =>
    intro state before lag idle lags
    have rests : ∀ other ∈ rest, other.KeepsPieces keys project filename pieces :=
      fun other member => unchanged other (List.mem_cons_of_mem call member)
    have first := call.run_growsLag rules room (unchanged call List.mem_cons_self) idle lags
    exact first.then (fun final kept => induction rests final kept) Iff.rfl

end

/-- Whatever fails, and whichever transactions the engine discards: after a file was applied on any
database that runs have led to, its row counts only statements with durable effects, unless the file
lost statements on the way. -/
theorem countsDurable_iff_nothing_lost (rules : database.Follows dialect true view)
    (idle : view state = ⟨before, none⟩) (unstarted : before.row project file.name = none)
    (untouched : before.applied project file.name = [])
    (unchanged : ∀ call ∈ calls, call.KeepsPieces keys project file.name pieces) (verbose : Bool)
    (expands : List.Forall₂ Statement.Expands pieces file.statements)
    (room : pieces.length ≤ indexBound) :
    ∃ after, view (applyFile database dialect verbose project file
        (history database dialect calls state).2).state = ⟨after, none⟩ ∧
      (CountsDurable project file.name pieces after ↔
        ¬ (HistoryLosesWork view database dialect project file.name calls state ∨
          LosesWork view database dialect verbose project file
            (history database dialect calls state).2)) := by
  have start : Lags project file.name pieces 0 before := lags_of_unstarted unstarted untouched
  have earlier := history_growsLag rules room calls unchanged idle start
  obtain ⟨after, more, final, lags, lost⟩ := earlier.then
    (fun final kept => applyFile_growsLag rules room verbose final kept expands) Iff.rfl
  refine ⟨after, final, ?_⟩
  rw [lags.countsDurable_iff, ← lost]
  omega

/-- Answers `C` of the file below by discarding the transaction, so that there is nothing to
commit. -/
def lastDiscards : Database (Session .exact × Nat) :=
  faultyDatabase .sqlite true fun
    | 5 => some ⟨.refused (.sqlite "1555") "UNIQUE constraint failed: pulse.id", true⟩
    | 7 => some ⟨.refused (.sqlite "1") "cannot commit - no transaction is active", false⟩
    | _ => none

def plannedThree : Store.PlannedFile :=
  ⟨"a.up.sql", (Statement.split noSupply 0 "A;\nB;\nC;\n").1⟩

theorem plannedThree_expands :
    List.Forall₂ Statement.Expands [['A'], ['B'], ['C']] plannedThree.statements := by
  rw [← pieces_of_three]
  exact Statement.split_expands noSupply 0 _

/-- `A` and `B` are gone, and the row counts them. -/
theorem index_counts_lost_statements :
    lastDiscards.Follows .sqlite true Prod.fst ∧
    ∃ after, (applyFile lastDiscards .sqlite false "p" plannedThree
        (Session.unused, 0)).state.1 = ⟨after, none⟩ ∧
      after.row "p" "a.up.sql" = some (1, "UNIQUE constraint failed: pulse.id") ∧
      after.applied "p" "a.up.sql" = [] ∧
      ¬ CountsDurable "p" "a.up.sql" [['A'], ['B'], ['C']] after := by
  have finished : (applyFile lastDiscards .sqlite false "p" plannedThree
      (Session.unused, 0)).state.1.transaction.isNone = true := by decide +kernel
  have row : (applyFile lastDiscards .sqlite false "p" plannedThree
      (Session.unused, 0)).state.1.durable.row "p" "a.up.sql" =
        some (1, "UNIQUE constraint failed: pulse.id") := by decide +kernel
  have gone : (applyFile lastDiscards .sqlite false "p" plannedThree
      (Session.unused, 0)).state.1.durable.applied "p" "a.up.sql" = [] := by decide +kernel
  refine ⟨faultyDatabase_follows .sqlite true _, _,
    eq_of_idle (Option.isNone_iff_eq_none.mp finished), row, gone, fun counts => ?_⟩
  have all := counts 1 _ row
  rw [gone] at all
  cases all

theorem threeStatements_then_countsDurable :
    ∃ after, (applyFile lastDiscards .sqlite false "p" plannedThree
        (history lastDiscards .sqlite [threeStatements] (Session.unused, 0)).2).state.1 =
          ⟨after, none⟩ ∧
      (CountsDurable "p" "a.up.sql" [['A'], ['B'], ['C']] after ↔
        ¬ (HistoryLosesWork Prod.fst lastDiscards .sqlite "p" "a.up.sql" [threeStatements]
            (Session.unused, 0) ∨
          LosesWork Prod.fst lastDiscards .sqlite false "p" plannedThree
            (history lastDiscards .sqlite [threeStatements] (Session.unused, 0)).2)) := by
  have rules : lastDiscards.Follows .sqlite true Prod.fst := faultyDatabase_follows .sqlite true _
  have unchanged : ∀ call ∈ [threeStatements],
      call.KeepsPieces .exact "p" plannedThree.name [['A'], ['B'], ['C']] := by
    simp only [List.forall_mem_singleton]
    exact threeStatements_keepsPieces
  exact countsDurable_iff_nothing_lost rules Session.unused_idle rfl rfl unchanged false plannedThree_expands
    (by decide)

end SqlMigrations.Runner
