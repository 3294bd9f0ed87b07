import SqlMigrations.Proofs.Text.ByteOrder
import SqlMigrations.Schema.Keys

namespace SqlMigrations.Schema

open Text (Utf8.encode Utf8.encode_le_iff)

/-- Whether an index is of a kind and has the given columns, as far as the order looks at them. -/
def Index.hasKey (primary : Bool) (joined : String) (index : Index) : Bool :=
  index.primary == primary && index.joined == joined

/-- Whether the second list holds the indexes of the first one, put in order. -/
structure InOrder (indexes ordered : List Index) : Prop where
  same : ordered.Perm indexes
  primaryFirst : ordered.Pairwise fun left right => right.primary = true → left.primary = true
  ascending : ordered.Pairwise fun left right => left.primary = right.primary →
    Utf8.encode left.joined.toList ≤ Utf8.encode right.joined.toList
  stable : ∀ primary joined,
    ordered.filter (Index.hasKey primary joined) = indexes.filter (Index.hasKey primary joined)

theorem Index.before_iff {left right : Index} : left.before right = true ↔
    (right.primary = true → left.primary = true) ∧
      (left.primary = right.primary → left.joined ≤ right.joined) := by
  unfold Index.before
  cases left.primary <;> cases right.primary <;> simp

theorem Index.before_trans (left middle right : Index) (first : left.before middle = true)
    (second : middle.before right = true) : left.before right = true := by
  rw [before_iff] at *
  obtain ⟨kinds, columns⟩ := first
  obtain ⟨laterKinds, laterColumns⟩ := second
  refine ⟨kinds ∘ laterKinds, fun alike => ?_⟩
  -- an index between two of one kind is of that kind
  have between : left.primary = middle.primary := by
    revert kinds laterKinds
    rw [alike]
    cases middle.primary <;> cases right.primary <;> simp
  exact String.le_trans (columns between) (laterColumns (between.symm.trans alike))

theorem Index.before_total (left right : Index) :
    (left.before right || right.before left) = true := by
  rw [Bool.or_eq_true, before_iff, before_iff]
  rcases String.le_total left.joined right.joined with le | le <;>
    cases left.primary <;> cases right.primary <;> simp [le]

theorem Index.before_of_hasKey {primary : Bool} {joined : String} {left right : Index}
    (first : left.hasKey primary joined = true) (second : right.hasKey primary joined = true) :
    left.before right = true := by
  simp only [hasKey, Bool.and_eq_true, beq_iff_eq] at first second
  simp [before_iff, first, second]

theorem sortIndexes_perm (indexes : List Index) : (sortIndexes indexes).Perm indexes :=
  List.mergeSort_perm indexes Index.before

theorem sortIndexes_pairwise (indexes : List Index) :
    (sortIndexes indexes).Pairwise fun left right => left.before right = true :=
  List.pairwise_mergeSort Index.before_trans Index.before_total indexes

/-- The indexes of one key stay as they are, since any order would do for them. -/
theorem sortIndexes_filter (indexes : List Index) (primary : Bool) (joined : String) :
    (sortIndexes indexes).filter (Index.hasKey primary joined) =
      indexes.filter (Index.hasKey primary joined) := by
  have unordered : (indexes.filter (Index.hasKey primary joined)).Pairwise
      fun left right => left.before right = true :=
    List.pairwise_of_forall_mem_list fun left first right second =>
      Index.before_of_hasKey (List.of_mem_filter first) (List.of_mem_filter second)
  have inside : (indexes.filter (Index.hasKey primary joined)).Sublist (sortIndexes indexes) :=
    List.sublist_mergeSort Index.before_trans Index.before_total unordered List.filter_sublist
  have kept := inside.filter (Index.hasKey primary joined)
  rw [List.filter_filter] at kept
  simp only [Bool.and_self] at kept
  exact (kept.eq_of_length ((sortIndexes_perm indexes).filter _).length_eq.symm).symm

theorem sortIndexes_inOrder (indexes : List Index) : InOrder indexes (sortIndexes indexes) where
  same := sortIndexes_perm indexes
  primaryFirst := (sortIndexes_pairwise indexes).imp fun before => (Index.before_iff.mp before).1
  ascending := (sortIndexes_pairwise indexes).imp fun before alike =>
    Utf8.encode_le_iff.mpr ((Index.before_iff.mp before).2 alike)
  stable := sortIndexes_filter indexes

end SqlMigrations.Schema
