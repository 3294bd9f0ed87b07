import SqlMigrations.Proofs.Database.Faulty
import SqlMigrations.Proofs.Runner.Resumption

namespace SqlMigrations.Runner

variable {σ : Type} {dialect : Dialect} {keys : Collation} {discards : Bool} {database : Database σ}
  {view : σ → Session keys} {state : σ} {project filename : String} {before after : Contents keys}
  {pieces : List (List Char)} {calls : List Call}

/-- Where an effect comes from that was not there before: from the statements that create the
checkpoint table, or from a file that a call applies. -/
def Accounted (dialect : Dialect) (calls : List Call) (before : Contents keys)
    (effect : Effect) : Prop :=
  effect ∈ before.effects ∨
    (effect.file = none ∧ effect.sql ∈ bootstrapStatements dialect) ∨
    ∃ call ∈ calls, ∃ files, call.projects.find call.project = .ok files ∧
      ∃ name ∈ files.migrations, effect.file = some (call.project, name)

theorem Called.accounts {start : Contents keys} {call : Call}
    {result : Except MigrationError RunReport}
    (called : Called dialect discards call before result after) (known : call ∈ calls)
    (accounted : ∀ effect ∈ before.effects, Accounted dialect calls start effect) :
    ∀ effect ∈ after.effects, Accounted dialect calls start effect := by
  refine called.preserves
    (fun contents => ∀ effect ∈ contents.effects, Accounted dialect calls start effect)
    ?_ ?_ accounted
  · intro contents done within held effect member
    rcases List.mem_append.mp member with old | new
    · exact held effect old
    · obtain ⟨sql, sent, rfl⟩ := List.mem_map.mp new
      exact .inr (.inl ⟨rfl, within.subset sent⟩)
  · intro files found file member contents next result applied held effect present
    rcases applied.effects effect present with old | owned
    · exact held effect old
    · obtain ⟨eligible, _⟩ := Store.FileSet.mem_plan member
      exact .inr (.inr ⟨call, known, files, found, file.name, eligible, owned⟩)

/-- However often the runner is called and whatever fails, the first `count` statements of a file
have become durable, in order and each once, for the `count` that its row says. No list in memory is
longer than `room` allows. -/
theorem history_applies_exactly_once (rules : database.Transactional dialect view)
    (idle : view state = ⟨before, none⟩) (unstarted : before.row project filename = none)
    (untouched : before.applied project filename = [])
    (unchanged : ∀ call ∈ calls, call.KeepsPieces keys project filename pieces)
    (room : pieces.length ≤ indexBound) :
    ∃ after count, view (history database dialect calls state).2 = ⟨after, none⟩ ∧
      count ≤ pieces.length ∧
      List.Forall₂ Statement.Expands (pieces.take count) (after.applied project filename) ∧
      (after.row project filename = none → count = 0) ∧
      (∀ index status, after.row project filename = some (index, status) →
        index = (count : Int) - 1) ∧
      ∀ effect ∈ after.effects, Accounted dialect calls before effect := by
  obtain ⟨after, final, ⟨count, within, covers, _, held⟩, accounted⟩ := history_preserves
    (fun contents => Lags project filename pieces 0 contents ∧
      ∀ effect ∈ contents.effects, Accounted dialect calls before effect)
    rules calls
    (fun call member _ _ _ called kept =>
      ⟨kept.1.of_called called (unchanged call member) room, called.accounts member kept.2⟩)
    idle ⟨lags_of_unstarted unstarted untouched, fun effect member => .inl member⟩
  refine ⟨after, count, final, within, held rfl, ?_, ?_, accounted⟩
  · intro absent
    rw [Covers, Contents.checkpoint_of_no_row absent] at covers
    have nothing : (-1 : Int) = (count : Int) - 1 := covers
    omega
  · intro index status found
    rwa [Covers, Contents.checkpoint_of_row found] at covers

/-- Refuses its sixth command: `B`, when the three statements are run for the first time. -/
def sixthRefused : Database (Session .exact × Nat) :=
  faultyDatabase .sqlite false fun
    | 5 => some ⟨.refused (.sqlite "1") "no such table", false⟩
    | _ => none

/-- The first run leaves `A` and a row that counts it, the second one all three. -/
theorem threeStatements_applied_in_two_runs :
    (∃ after, (history sixthRefused .sqlite [threeStatements] (Session.unused, 0)).2.1 =
        ⟨after, none⟩ ∧
      after.row "p" "a.up.sql" = some (0, "no such table") ∧
      after.applied "p" "a.up.sql" = ["A"]) ∧
    ∃ after, (history sixthRefused .sqlite [threeStatements, threeStatements]
        (Session.unused, 0)).2.1 = ⟨after, none⟩ ∧
      after.row "p" "a.up.sql" = some (2, statusOk) ∧
      after.applied "p" "a.up.sql" = ["A", "B", "C"] := by
  have rules : sixthRefused.Transactional .sqlite Prod.fst := faultyDatabase_follows .sqlite false _
  have unchanged : ∀ call ∈ [threeStatements],
      call.KeepsPieces .exact "p" "a.up.sql" [['A'], ['B'], ['C']] :=
    List.forall_mem_singleton.mpr threeStatements_keepsPieces
  have evaluated :
      (history sixthRefused .sqlite [threeStatements] (Session.unused, 0)).2.1.durable.row
        "p" "a.up.sql" = some (0, "no such table") ∧
      (history sixthRefused .sqlite [threeStatements, threeStatements]
        (Session.unused, 0)).2.1.durable.row "p" "a.up.sql" = some (2, statusOk) := by
    decide +kernel
  obtain ⟨firstRow, lastRow⟩ := evaluated
  constructor
  · obtain ⟨after, count, final, _, expands, _, counts, _⟩ :=
      history_applies_exactly_once rules Session.unused_idle rfl rfl unchanged (by decide)
    rw [final] at firstRow
    have counted := counts _ _ firstRow
    obtain rfl : count = 1 := by omega
    exact ⟨after, final, firstRow, Statement.eq_of_expands expands (by decide)⟩
  · obtain ⟨after, count, final, _, expands, _, counts, _⟩ :=
      history_applies_exactly_once rules Session.unused_idle rfl rfl
        (List.forall_mem_cons.mpr ⟨threeStatements_keepsPieces, unchanged⟩) (by decide)
    rw [final] at lastRow
    have counted := counts _ _ lastRow
    obtain rfl : count = 3 := by omega
    exact ⟨after, final, lastRow, Statement.eq_of_expands expands (by decide)⟩

end SqlMigrations.Runner
