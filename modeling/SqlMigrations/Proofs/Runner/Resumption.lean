import SqlMigrations.Proofs.Database.Faulty
import SqlMigrations.Proofs.Runner.History

/-!
Resumption. As long as the statements of a file stay the same, every run goes on where the stored
checkpoint says that the earlier ones stopped: whatever fails, the statements that are there for
good are the first ones of the file, each once and in order, and the checkpoint counts exactly them.
-/

namespace SqlMigrations.Runner

variable {σ : Type} {dialect : Dialect} {keys : Collation} {discards : Bool} {database : Database σ}
  {view : σ → Session keys} {state : σ} {project filename : String} {file : Store.PlannedFile}
  {before after : Contents keys} {pieces : List (List Char)} {calls : List Call} {lag : Nat}
  {mayLose : Nat → Prop}

/-- Whether a call comes across the key of a file at this file alone, and with the given pieces. -/
def Call.KeepsPieces (keys : Collation) (call : Call) (project filename : String)
    (pieces : List (List Char)) : Prop :=
  ∀ files, call.projects.find call.project = .ok files → ∀ name ∈ files.migrations,
    keys.SameKey (project, filename) (call.project, name) → call.project = project ∧
      name = filename ∧ ∀ contents, files.get? name = some contents →
        Statement.pieces contents.toList = pieces

theorem Call.KeepsPieces.expands {call : Call} {files : Store.FileSet}
    (unchanged : call.KeepsPieces keys project filename pieces)
    (found : call.projects.find call.project = .ok files) (member : file ∈ call.plan files)
    (same : keys.SameKey (project, filename) (call.project, file.name)) :
    call.project = project ∧ file.name = filename ∧
      List.Forall₂ Statement.Expands pieces file.statements := by
  obtain ⟨eligible, text, content, expands⟩ := Store.FileSet.mem_plan member
  obtain ⟨own, named, kept⟩ := unchanged files found file.name eligible same
  exact ⟨own, named, kept text content ▸ expands⟩

def threeStatements : Call :=
  ⟨NameMap.empty.insert "p" (NameMap.empty.insert "a.up.sql" "A;\nB;\nC;\n"), "p", false,
    noSupply, 0⟩

theorem pieces_of_three : Statement.pieces "A;\nB;\nC;\n".toList = [['A'], ['B'], ['C']] := by
  decide

theorem threeStatements_keepsPieces :
    threeStatements.KeepsPieces keys "p" "a.up.sql" [['A'], ['B'], ['C']] := by
  intro files found name eligible _
  obtain rfl : NameMap.empty.insert "a.up.sql" "A;\nB;\nC;\n" = files := Except.ok.inj found
  obtain rfl : name = "a.up.sql" := List.mem_singleton.mp eligible
  refine ⟨rfl, rfl, fun contents content => ?_⟩
  obtain rfl : "A;\nB;\nC;\n" = contents := Option.some.inj content
  exact pieces_of_three

/-- Whether the checkpoint of a file covers its first `count` statements. -/
def Covers (contents : Contents keys) (project filename : String) (count : Nat) : Prop :=
  (contents.checkpoint project filename).index = (count : Int) - 1

theorem Covers.covered {count : Nat} (covers : Covers before project filename count)
    (room : count ≤ indexBound) : (before.checkpoint project filename).covered = count := by
  rw [Covers] at covers
  simp only [Checkpoint.covered, covers]
  omega

theorem Covers.reached {count : Nat} (covers : Covers before project filename count) (more : Nat) :
    (before.checkpoint project filename).reached count more = ((count + more : Nat) : Int) - 1 := by
  rw [Covers] at covers
  simp only [Checkpoint.reached, covers]
  split <;> omega

theorem covers_advance (statements : List String) (count : Nat) (status : String) :
    Covers (before.advance dialect project filename statements ((count : Int) - 1) status) project
      filename
      count := by
  rw [Covers, Contents.checkpoint_of_row (Contents.row_advance_same _ _ _)]

/-- Applying a file moves its checkpoint from the covered statements on, and does nothing else than
to add the statements in between, unless they were lost. -/
theorem Applied.advances {count : Nat} {result : Except MigrationError FileOutcome}
    (applied : Applied dialect mayLose project file before result after)
    (covers : Covers before project file.name count) (room : count ≤ indexBound) :
    after = before ∨ ∃ more ≤ (file.statements.drop count).length, ∃ done status,
      after = before.advance dialect project file.name done
          (((count + more : Nat) : Int) - 1) status ∧
        (done = (file.statements.drop count).take more ∨ mayLose more ∧ done = []) := by
  have covered := covers.covered room
  cases applied with
  | skipped | undone => exact .inl rfl
  | finished incomplete index reached =>
    rw [covered, covers.reached] at reached
    rw [pending, covered] at reached ⊢
    exact .inr ⟨_, Nat.le_refl _, _, statusOk, by rw [reached], .inl (List.take_length).symm⟩
  | stopped incomplete more within message index reached =>
    rw [covered, covers.reached] at reached
    rw [pending, covered] at within ⊢
    exact .inr ⟨more, Nat.le_of_lt within, _, message, by rw [reached], .inl rfl⟩
  | lost incomplete more allowed within message index reached =>
    rw [covered, covers.reached] at reached
    rw [pending, covered] at within
    exact .inr ⟨more, Nat.le_of_lt within, [], message, by rw [reached], .inr ⟨allowed, rfl⟩⟩

/-- The checkpoint of a file counts `lag` more statements than are there for good. Without a lag,
these are the first ones of the file. -/
def Lags (project filename : String) (pieces : List (List Char)) (lag : Nat)
    (contents : Contents keys) :
    Prop :=
  ∃ count ≤ pieces.length, Covers contents project filename count ∧
    (contents.applied project filename).length + lag = count ∧
    (lag = 0 →
      List.Forall₂ Statement.Expands (pieces.take count) (contents.applied project filename))

theorem lags_of_unstarted (unstarted : before.row project filename = none)
    (untouched : before.applied project filename = []) : Lags project filename pieces 0 before := by
  refine ⟨0, Nat.zero_le _, ?_, by rw [untouched]; rfl, fun _ => ?_⟩
  · rw [Covers, Contents.checkpoint_of_no_row unstarted]
    rfl
  · rw [untouched]
    exact .nil

theorem expands_more {count more : Nat} {statements done : List String}
    (expands : List.Forall₂ Statement.Expands pieces statements)
    (held : List.Forall₂ Statement.Expands (pieces.take count) done) :
    List.Forall₂ Statement.Expands (pieces.take (count + more))
      (done ++ (statements.drop count).take more) := by
  rw [List.take_add]
  exact List.rel_append held (List.forall₂_take more (List.forall₂_drop count expands))

theorem Lags.of_agreeAt {other : Contents keys} (lags : Lags project filename pieces lag before)
    (agree : Contents.AgreeAt project filename other before) :
    Lags project filename pieces lag other := by
  obtain ⟨count, within, covers, length, held⟩ := lags
  exact ⟨count, within, by rwa [Covers, agree.checkpoint], by rwa [agree.applied],
    by rwa [agree.applied]⟩

/-- The lag grows by what is lost, and by nothing else. -/
theorem Lags.of_applied {result : Except MigrationError FileOutcome}
    (lags : Lags project file.name pieces lag before)
    (applied : Applied dialect mayLose project file before result after)
    (expands : List.Forall₂ Statement.Expands pieces file.statements)
    (room : pieces.length ≤ indexBound) :
    ∃ lost, (lost = 0 ∨ mayLose lost) ∧ Lags project file.name pieces (lag + lost) after := by
  obtain ⟨count, within, covers, length, held⟩ := lags
  rcases applied.advances covers (Nat.le_trans within room) with
    rfl | ⟨more, some, done, status, rfl, kept⟩
  · exact ⟨0, .inl rfl, count, within, covers, length, held⟩
  · have total := expands.length_eq
    rw [List.length_drop] at some
    rcases kept with rfl | ⟨allowed, rfl⟩
    · refine ⟨0, .inl rfl, count + more, by omega, covers_advance _ _ _, ?_, fun none => ?_⟩
      · rw [Contents.applied_advance_same, List.length_append, List.length_take, List.length_drop]
        omega
      · rw [Contents.applied_advance_same]
        exact expands_more expands (held none)
    · refine ⟨more, .inr allowed, count + more, by omega, covers_advance _ _ _, ?_, fun none => ?_⟩
      · rw [Contents.applied_advance_same, List.append_nil]
        omega
      · obtain ⟨rfl, rfl⟩ : lag = 0 ∧ more = 0 := by omega
        rw [Contents.applied_advance_same, List.append_nil]
        exact held rfl

theorem Lags.of_called {call : Call} {result : Except MigrationError RunReport}
    (lags : Lags project filename pieces 0 before)
    (called : Called dialect false call before result after)
    (unchanged : call.KeepsPieces keys project filename pieces)
    (room : pieces.length ≤ indexBound) :
    Lags project filename pieces 0 after := by
  refine called.preserves (Lags project filename pieces 0) ?_ ?_ lags
  · intro contents done _ held
    exact held.of_agreeAt (contents.perform_none_agreeAt done)
  · intro files found file member contents next result applied held
    by_cases same : keys.SameKey (project, filename) (call.project, file.name)
    · obtain ⟨rfl, rfl, expands⟩ := unchanged.expands found member same
      obtain ⟨lost, rfl | impossible, kept⟩ := held.of_applied applied expands room
      · exact kept
      · cases impossible
    · exact held.of_agreeAt (applied.other same)

end SqlMigrations.Runner
