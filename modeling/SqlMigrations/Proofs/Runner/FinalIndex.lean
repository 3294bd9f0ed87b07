import SqlMigrations.Proofs.Runner.Completion

/-!
The index in the row of a finished file. Only executed statements move it, so it is the last index
of the file unless an earlier run, of a longer version of the file, left a greater one behind.
-/

namespace SqlMigrations

theorem Checkpoint.reached_all (checkpoint : Checkpoint) {total : Nat}
    (lower : -1 ≤ checkpoint.index)
    (room : total ≤ indexBound) :
    checkpoint.reached checkpoint.covered (total - checkpoint.covered) =
      max checkpoint.index ((total : Int) - 1) := by
  have covered : checkpoint.covered = min (checkpoint.index + 1).toNat indexBound := rfl
  rw [Checkpoint.reached]
  split <;> omega

namespace Runner

variable {σ : Type} {dialect : Dialect} {keys : Collation} {discards : Bool} {database : Database σ}
  {view : σ → Session keys} {state reached : σ} {before after : Contents keys} {project : String}
  {file : Store.PlannedFile} {outcome : FileOutcome} {mayLose : Nat → Prop}

/-- No index in the table is less than that of a file that never ran. -/
def Indexed (contents : Contents keys) : Prop :=
  ∀ project filename, -1 ≤ (contents.checkpoint project filename).index

theorem Indexed.advance {filename : String} {index : Int} (indexed : Indexed before)
    (statements : List String) (least : -1 ≤ index) (status : String) :
    Indexed (before.advance dialect project filename statements index status) := by
  intro owner name
  by_cases same : keys.SameKey (owner, name) (project, filename)
  · rwa [Contents.checkpoint_of_row
      ((Contents.row_congr same).trans (Contents.row_advance_same statements index status))]
  · have kept : (before.advance dialect project filename statements index status).checkpoint
        owner name = before.checkpoint owner name :=
      (Contents.advance_agreeAt same ..).checkpoint
    rw [kept]
    exact indexed owner name

theorem Indexed.of_applied {result : Except MigrationError FileOutcome} (indexed : Indexed before)
    (applied : Applied dialect mayLose project file before result after) : Indexed after := by
  have least (count : Nat) :
      -1 ≤ (before.checkpoint project file.name).reached
        (before.checkpoint project file.name).covered count := by
    have stored := indexed project file.name
    rw [Checkpoint.reached]
    split <;> omega
  cases applied with
  | skipped | undone => exact indexed
  | finished _ index reached => exact indexed.advance _ (reached ▸ least _) _
  | stopped _ count _ _ index reached => exact indexed.advance _ (reached ▸ least _) _
  | lost _ count _ _ _ index reached => exact indexed.advance _ (reached ▸ least _) _

theorem history_indexed (rules : database.Follows dialect discards view) (calls : List Call)
    (idle : view state = ⟨before, none⟩) (indexed : Indexed before) :
    ∃ after, view (history database dialect calls state).2 = ⟨after, none⟩ ∧ Indexed after :=
  history_preserves Indexed rules calls
    (fun _ _ _ _ _ called start => called.preserves Indexed (fun _ _ held => held)
      (fun _ _ _ _ _ _ _ applied held => held.of_applied applied) start) idle indexed

/-- A call comes to a file: the table is there, and the files before it were applied. -/
structure Call.ComesTo (call : Call) (database : Database σ) (dialect : Dialect) (state : σ)
    (files : Store.FileSet) (file : Store.PlannedFile) (reached : σ) : Prop where
  found : call.projects.find call.project = .ok files
  prepared : (bootstrap database dialect call.verbose state).result = .ok ()
  order : ∃ earlier later, call.plan files = earlier ++ file :: later ∧
    (applyFiles database dialect call.verbose call.project earlier
      (bootstrap database dialect call.verbose state).state).result.isOk = true ∧
    reached = (applyFiles database dialect call.verbose call.project earlier
      (bootstrap database dialect call.verbose state).state).state

theorem Call.comesTo_first {call : Call} {files : Store.FileSet} {later : List Store.PlannedFile}
    (found : call.projects.find call.project = .ok files)
    (prepared : (bootstrap database dialect call.verbose state).result = .ok ())
    (first : call.plan files = file :: later) :
    call.ComesTo database dialect state files file
      (bootstrap database dialect call.verbose state).state :=
  ⟨found, prepared, [], later, first, rfl, rfl⟩

theorem Call.ComesTo.indexed {call : Call} {files : Store.FileSet}
    (comes : call.ComesTo database dialect state files file reached)
    (rules : database.Follows dialect discards view) (idle : view state = ⟨before, none⟩)
    (indexed : Indexed before) :
    ∃ contents, view reached = ⟨contents, none⟩ ∧ Indexed contents := by
  obtain ⟨earlier, _, _, _, rfl⟩ := comes.order
  obtain ⟨done, prepared⟩ := bootstrap_contents rules call.verbose idle
  obtain ⟨contents, all, final⟩ :=
    applyFiles_appliedAll rules call.verbose call.project earlier prepared
  have start : Indexed (before.perform none done) := indexed
  exact ⟨contents, final, all.preserves Indexed
    (fun _ _ _ _ _ applied held => held.of_applied applied) start⟩

theorem length_split (supply : Statement.Supply) (next : Nat) (contents : String) :
    (Statement.split supply next contents).1.length =
      (Statement.pieces contents.toList).length :=
  (Statement.split_expands supply next contents).length_eq.symm

theorem Call.ComesTo.contents {call : Call} {files : Store.FileSet}
    (comes : call.ComesTo database dialect state files file reached) :
    ∃ contents, files.get? file.name = some contents ∧ ∀ supply next,
      (Statement.split supply next contents).1.length = file.statements.length := by
  obtain ⟨earlier, later, order, _⟩ := comes.order
  have member : file ∈ call.plan files := by
    rw [order]
    exact List.mem_append_right _ List.mem_cons_self
  obtain ⟨_, contents, found, expands⟩ := Store.FileSet.mem_plan member
  exact ⟨contents, found, fun supply next =>
    (length_split supply next contents).trans expands.length_eq⟩

theorem Applied.final_index
    (applied : Applied dialect mayLose project file before (.ok outcome) after)
    (fresh : outcome.skipped = false) (lower : -1 ≤ (before.checkpoint project file.name).index)
    (room : file.statements.length ≤ indexBound) :
    outcome.index = max (before.checkpoint project file.name).index
      ((file.statements.length : Int) - 1) := by
  cases applied with
  | skipped => cases fresh
  | finished _ index reached =>
    rw [pending, List.length_drop] at reached
    exact reached.trans (Checkpoint.reached_all _ lower room)

/-- The row of a file that a run finishes holds the greater one of the index that it held before
and the last index of the file as it is now. A file of 64-bit size has room for no more statements
than are asked for here. -/
theorem finished_row_index (rules : database.Follows dialect discards view)
    (idle : view state = ⟨before, none⟩) (indexed : Indexed before) (calls : List Call)
    {next : Call} {files : Store.FileSet}
    (comes : next.ComesTo database dialect (history database dialect calls state).2 files file
      reached)
    (finished : (applyFile database dialect next.verbose next.project file reached).result =
      .ok outcome)
    (fresh : outcome.skipped = false) (room : file.statements.length ≤ indexBound) :
    ∃ stored after contents, view reached = ⟨stored, none⟩ ∧
      view (applyFile database dialect next.verbose next.project file reached).state =
        ⟨after, none⟩ ∧
      files.get? file.name = some contents ∧
      (∀ supply number,
        (Statement.split supply number contents).1.length = file.statements.length) ∧
      after.row next.project file.name = some (outcome.index, statusOk) ∧
      outcome.index = max (stored.checkpoint next.project file.name).index
        ((file.statements.length : Int) - 1) ∧
      (outcome.index = (file.statements.length : Int) - 1 ↔
        (stored.checkpoint next.project file.name).index < file.statements.length) := by
  obtain ⟨between, passed, lower⟩ := history_indexed rules calls idle indexed
  obtain ⟨stored, here, indexed⟩ := comes.indexed rules passed lower
  obtain ⟨after, leaves, final⟩ := applyFile_leaves rules next.verbose next.project file here
  rw [finished] at leaves
  obtain ⟨contents, found, counts⟩ := comes.contents
  have index := leaves.final_index fresh (indexed next.project file.name) room
  refine ⟨stored, after, contents, here, final, found, counts, leaves.recorded.row, index, ?_⟩
  rw [index]
  omega

/-- The file of the three statements with its first one only. -/
def firstStatement : Call :=
  ⟨NameMap.empty.insert "p" (NameMap.empty.insert "a.up.sql" "A;\n"), "p", false, noSupply, 0⟩

/-- Refuses `C` of the three statements. -/
def refusingC : Database (Session .exact × Nat) :=
  faultyDatabase .sqlite false fun
    | 6 => some ⟨.refused (.sqlite "1") "no such table", false⟩
    | _ => none

/-- After `A` and `B` were applied the file is cut down to `A`: it is finished with the index of the
statement that it does not have any more. -/
theorem shortened_file_keeps_index :
    refusingC.Transactional .sqlite Prod.fst ∧
    ∃ after, (history refusingC .sqlite [threeStatements, firstStatement]
        (Session.unused, 0)).2.1 = ⟨after, none⟩ ∧
      (history refusingC .sqlite [threeStatements, firstStatement]
        (Session.unused, 0)).1.map Prod.snd =
          [.error (.statement "a.up.sql" 2 "no such table"),
            .ok ⟨"p", [⟨"a.up.sql", 0, false, 1, statusOk⟩]⟩] ∧
      after.row "p" "a.up.sql" = some (1, statusOk) ∧
      ∀ supply next, ((Statement.split supply next "A;\n").1.length : Int) - 1 ≠ 1 := by
  have evaluated : (fun runs : List (Call × Except MigrationError RunReport) ×
      Session .exact × Nat =>
      (runs.2.1.transaction.isNone, runs.2.1.durable.row "p" "a.up.sql", runs.1.map Prod.snd))
      (history refusingC .sqlite [threeStatements, firstStatement] (Session.unused, 0)) =
        (true, some (1, statusOk), [.error (.statement "a.up.sql" 2 "no such table"),
          .ok ⟨"p", [⟨"a.up.sql", 0, false, 1, statusOk⟩]⟩]) := by decide +kernel
  obtain ⟨done, row, results⟩ := by simpa only [Prod.mk.injEq] using evaluated
  refine ⟨faultyDatabase_follows .sqlite false _, _,
    Session.eq_of_idle (Option.isNone_iff_eq_none.mp done), results, row, ?_⟩
  intro supply next
  rw [length_split]
  decide +kernel

/-- The state in which the shortened file comes to its turn. -/
def afterTwoApplied : Session .exact × Nat :=
  (bootstrap refusingC .sqlite false
    (history refusingC .sqlite [threeStatements] (Session.unused, 0)).2).state

def shortenedFile : Store.PlannedFile :=
  ⟨"a.up.sql", ["A"]⟩

theorem firstStatement_row_index :
    ∃ stored after contents, afterTwoApplied.1 = ⟨stored, none⟩ ∧
      (applyFile refusingC .sqlite firstStatement.verbose firstStatement.project shortenedFile
        afterTwoApplied).state.1 = ⟨after, none⟩ ∧
      NameMap.get? (NameMap.empty.insert "a.up.sql" "A;\n") shortenedFile.name = some contents ∧
      (∀ supply number, (Statement.split supply number contents).1.length =
        shortenedFile.statements.length) ∧
      after.row firstStatement.project shortenedFile.name = some (1, statusOk) ∧
      1 = max (stored.checkpoint firstStatement.project shortenedFile.name).index
        ((shortenedFile.statements.length : Int) - 1) ∧
      (1 = (shortenedFile.statements.length : Int) - 1 ↔
        (stored.checkpoint firstStatement.project shortenedFile.name).index <
          shortenedFile.statements.length) := by
  have rules : refusingC.Follows .sqlite false Prod.fst := faultyDatabase_follows .sqlite false _
  have indexed : Indexed (Session.unused : Session .exact).durable := fun _ _ => Int.le_refl (-1)
  have evaluated : (bootstrap refusingC .sqlite firstStatement.verbose
        (history refusingC .sqlite [threeStatements] (Session.unused, 0)).2).result = .ok () ∧
      firstStatement.plan (NameMap.empty.insert "a.up.sql" "A;\n") = [shortenedFile] ∧
      (applyFile refusingC .sqlite firstStatement.verbose firstStatement.project shortenedFile
        afterTwoApplied).result = .ok ⟨"a.up.sql", 0, false, 1, statusOk⟩ := by
    decide +kernel
  obtain ⟨prepared, planned, finished⟩ := evaluated
  have comes : firstStatement.ComesTo refusingC .sqlite
      (history refusingC .sqlite [threeStatements] (Session.unused, 0)).2
      (NameMap.empty.insert "a.up.sql" "A;\n") shortenedFile afterTwoApplied :=
    Call.comesTo_first rfl prepared planned
  exact finished_row_index rules Session.unused_idle indexed [threeStatements] comes finished rfl (by decide)

end Runner

end SqlMigrations
