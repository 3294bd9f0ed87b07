import Mathlib.Data.List.Forall2
import Mathlib.Logic.Equiv.Defs
import SqlMigrations.Proofs.Schema.IndexOrder

namespace SqlMigrations.Schema

variable {indexes others : List Index} {column marked other : Column} {name : String}

/-- Whether a name, in any case, ends like a reference or is that of a column of a secondary
index. -/
def IsKeyName (indexes : List Index) (name : String) : Prop :=
  "_id".toList <:+ Text.lower name.toList ∨ ∃ index ∈ indexes, index.primary = false ∧
    ∃ covered ∈ index.columns, Text.lower covered.toList = Text.lower name.toList

instance (indexes : List Index) (name : String) : Decidable (IsKeyName indexes name) :=
  inferInstanceAs (Decidable (_ ∨ _))

/-- What becomes of a column in view of the indexes: at most its key changes, and only where it is
no primary one. -/
structure Column.MarkedFor (indexes : List Index) (column marked : Column) : Prop where
  keyOnly : marked = { column with key := marked.key }
  primary : column.key = .primary → marked.key = .primary
  named : column.key ≠ .primary → IsKeyName indexes column.name → marked.key = .multiple
  unnamed : column.key ≠ .primary → ¬ IsKeyName indexes column.name → marked.key = column.key

theorem namesReference_lowered :
    namesReference (Text.lowered name) = true ↔ "_id".toList <:+ Text.lower name.toList := by
  rw [namesReference, Text.lowered, String.toList_ofList, Option.isSome_iff_exists]
  simp only [Text.stripEnd?_eq_some_iff]
  exact exists_congr fun _ => eq_comm

theorem mem_indexedNames : Text.lowered name ∈ indexedNames indexes ↔
    ∃ index ∈ indexes, index.primary = false ∧
      ∃ covered ∈ index.columns, Text.lower covered.toList = Text.lower name.toList := by
  simp only [indexedNames, List.mem_flatMap, List.mem_filter, List.mem_map, Bool.not_eq_true',
    Text.lowered, String.ofList_inj, and_assoc]

theorem isKeyName_iff : IsKeyName indexes name ↔
    ((indexedNames indexes).contains (Text.lowered name) ||
      namesReference (Text.lowered name)) = true := by
  rw [Bool.or_eq_true, List.contains_iff_mem, namesReference_lowered, mem_indexedNames, IsKeyName,
    or_comm]

theorem IsKeyName.mono (within : indexes ⊆ others) (keyed : IsKeyName indexes name) :
    IsKeyName others name := by
  rcases keyed with reference | ⟨index, member, covers⟩
  · exact .inl reference
  · exact .inr ⟨index, within member, covers⟩

theorem Column.withKeyFrom_marked (indexes : List Index) (column : Column) :
    column.MarkedFor indexes (column.withKeyFrom (indexedNames indexes)) := by
  unfold withKeyFrom
  split_ifs with primary keyed
  · exact ⟨rfl, fun _ => primary, fun other => absurd primary other, fun _ _ => rfl⟩
  · exact ⟨rfl, fun same => absurd same primary, fun _ _ => rfl,
      fun _ unnamed => absurd (isKeyName_iff.mpr keyed) unnamed⟩
  · exact ⟨rfl, fun same => absurd same primary,
      fun _ named => absurd (isKeyName_iff.mp named) keyed, fun _ _ => rfl⟩

/-- The indexes have no influence beyond the names that they make keys of. -/
theorem Column.MarkedFor.unique (first : column.MarkedFor indexes marked)
    (second : column.MarkedFor others other)
    (same : IsKeyName indexes column.name ↔ IsKeyName others column.name) : marked = other := by
  have keys : marked.key = other.key := by
    by_cases primary : column.key = .primary
    · rw [first.primary primary, second.primary primary]
    · by_cases named : IsKeyName indexes column.name
      · rw [first.named primary named, second.named primary (same.mp named)]
      · rw [first.unnamed primary named, second.unnamed primary (named ∘ same.mpr)]
  rw [first.keyOnly, second.keyOnly, keys]

theorem Column.MarkedFor.again (once : column.MarkedFor indexes marked) :
    marked.MarkedFor indexes marked := by
  have name : marked.name = column.name := by rw [once.keyOnly]
  refine ⟨rfl, id, fun notPrimary named => ?_, fun _ _ => rfl⟩
  exact once.named (notPrimary ∘ once.primary) (name ▸ named)

/-- More indexes never take the mark away. -/
theorem Column.MarkedFor.mono (fewer : column.MarkedFor indexes marked)
    (more : column.MarkedFor others other) (within : indexes ⊆ others)
    (multiple : marked.key = .multiple) : other.key = .multiple := by
  have notPrimary : column.key ≠ .primary := fun primary => by
    simp [fewer.primary primary] at multiple
  by_cases named : IsKeyName others column.name
  · exact more.named notPrimary named
  · rw [more.unnamed notPrimary named,
      ← fewer.unnamed notPrimary fun keyed => named (keyed.mono within), multiple]

theorem enrichKeys_marked (indexes : List Index) (columns : List Column) :
    List.Forall₂ (Column.MarkedFor indexes) columns (enrichKeys indexes columns) := by
  rw [enrichKeys, List.forall₂_map_right_iff, List.forall₂_same]
  exact fun column _ => column.withKeyFrom_marked indexes

theorem enrichKeys_length (indexes : List Index) (columns : List Column) :
    (enrichKeys indexes columns).length = columns.length :=
  List.length_map _

theorem enrichKeys_congr (same : ∀ name, IsKeyName indexes name ↔ IsKeyName others name)
    (columns : List Column) : enrichKeys indexes columns = enrichKeys others columns :=
  List.map_congr_left fun column _ =>
    (column.withKeyFrom_marked indexes).unique (column.withKeyFrom_marked others)
      (same column.name)

theorem enrichKeys_of_mem_iff (same : ∀ index, index ∈ indexes ↔ index ∈ others)
    (columns : List Column) : enrichKeys indexes columns = enrichKeys others columns :=
  enrichKeys_congr (fun _ => ⟨.mono fun index => (same index).mp, .mono fun index =>
    (same index).mpr⟩) columns

theorem enrichKeys_enrichKeys (indexes : List Index) (columns : List Column) :
    enrichKeys indexes (enrichKeys indexes columns) = enrichKeys indexes columns := by
  simp only [enrichKeys, List.map_map]
  refine List.map_congr_left fun column _ => ?_
  have once := column.withKeyFrom_marked indexes
  exact (Column.withKeyFrom_marked indexes _).unique once.again Iff.rfl

theorem enrichKeys_mono (within : indexes ⊆ others) (columns : List Column) :
    List.Forall₂ (fun fewer more => fewer.key = .multiple → more.key = .multiple)
      (enrichKeys indexes columns) (enrichKeys others columns) := by
  rw [enrichKeys, enrichKeys, List.forall₂_map_left_iff, List.forall₂_map_right_iff,
    List.forall₂_same]
  exact fun column _ =>
    (column.withKeyFrom_marked indexes).mono (column.withKeyFrom_marked others) within

/-- The laws of marking the columns of a table: what becomes of each column, that marking once more
changes nothing, that the set of the indexes decides, that the columns only trade places when they
are permuted, and that more indexes never take a mark away. -/
structure KeyLaws (indexes : List Index) (columns : List Column) : Prop where
  marked : List.Forall₂ (Column.MarkedFor indexes) columns (enrichKeys indexes columns)
  again : enrichKeys indexes (enrichKeys indexes columns) = enrichKeys indexes columns
  sameSet : ∀ others, (∀ index, index ∈ indexes ↔ index ∈ others) →
    enrichKeys others columns = enrichKeys indexes columns
  sorted : enrichKeys (sortIndexes indexes) columns = enrichKeys indexes columns
  permuted : ∀ order : Equiv.Perm (Fin columns.length),
    enrichKeys indexes (List.ofFn fun place => columns.get (order place)) = List.ofFn fun place =>
      (enrichKeys indexes columns).get ((order place).cast (enrichKeys_length indexes columns).symm)
  kept : ∀ more, indexes ⊆ more →
    List.Forall₂ (fun fewer more => fewer.key = .multiple → more.key = .multiple)
      (enrichKeys indexes columns) (enrichKeys more columns)

theorem keys_follow_index_set (indexes : List Index) (columns : List Column) :
    KeyLaws indexes columns where
  marked := enrichKeys_marked indexes columns
  again := enrichKeys_enrichKeys indexes columns
  sameSet others same := (enrichKeys_of_mem_iff same columns).symm
  sorted := enrichKeys_of_mem_iff (fun _ => (sortIndexes_perm indexes).mem_iff) columns
  permuted order := by
    rw [enrichKeys, List.map_ofFn]
    refine congrArg List.ofFn (funext fun place => ?_)
    simp only [enrichKeys, Function.comp_apply, List.get_eq_getElem, List.getElem_map]
    rfl
  kept more within := enrichKeys_mono within columns

/-- The columns of a table with a primary key, and its indexes. -/
def ownedColumns : List Column :=
  [{ Column.ofType "id" "bigint" with key := .primary }, .ofType "Owner_ID" "bigint",
    .ofType "email" "varchar", { Column.ofType "note" "text" with key := .unique }]

def ownedIndexes : List Index :=
  [(Index.plain "PRIMARY" ["id", "note"]).asPrimary, (Index.plain "idx_email" ["EMAIL"]).asUnique]

/-- The marks stay when the indexes come the other way round and twice, and when one is added. -/
theorem ownedColumns_marked :
    (enrichKeys ownedIndexes ownedColumns).map Column.key =
        [.primary, .multiple, .multiple, .unique] ∧
      enrichKeys (ownedIndexes.reverse ++ ownedIndexes) ownedColumns =
        enrichKeys ownedIndexes ownedColumns ∧
      List.Forall₂ (fun fewer more => fewer.key = .multiple → more.key = .multiple)
        (enrichKeys ownedIndexes ownedColumns)
        (enrichKeys (Index.plain "idx_note" ["Note"] :: ownedIndexes) ownedColumns) :=
  have laws := keys_follow_index_set ownedIndexes ownedColumns
  ⟨by decide, laws.sameSet _ (by simp), laws.kept _ (List.subset_cons_self _ _)⟩

end SqlMigrations.Schema
