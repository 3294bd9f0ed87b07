import SqlMigrations.Proofs.Text.ByteOrder
import SqlMigrations.Schema.Keys

namespace SqlMigrations.Schema

open Text (Utf8.encode Utf8.encode_le_iff)

/-- What holds of a column whose canonical type was determined last. -/
structure Column.Settled (column : Column) : Prop where
  ascending : column.values.Pairwise fun left right =>
    Utf8.encode left.toList ≤ Utf8.encode right.toList
  valueless : column.canonicalType ≠ .enum → column.values = []
  classified : column.canonicalType = classify column.type column.dataType column.values
  unchanged : column.normalized = column

theorem sortValues_pairwise (values : List String) : (sortValues values).Pairwise (· ≤ ·) := by
  have sorted : (sortValues values).Pairwise fun left right => decide (left ≤ right) = true :=
    List.pairwise_mergeSort (fun a b c => by simpa using String.le_trans)
      (fun a b => by simpa using String.le_total a b) values
  simpa only [decide_eq_true_eq] using sorted

theorem sortValues_nil : sortValues [] = [] :=
  List.mergeSort_nil

theorem sortValues_sortValues (values : List String) :
    sortValues (sortValues values) = sortValues values :=
  List.mergeSort_of_pairwise (by simpa using sortValues_pairwise values)

theorem sortValues_isEmpty (values : List String) :
    (sortValues values).isEmpty = values.isEmpty := by
  rw [Bool.eq_iff_iff, List.isEmpty_iff_length_eq_zero, List.isEmpty_iff_length_eq_zero, sortValues,
    List.length_mergeSort]

theorem isEnumeration_sortValues (raw hint : List Char) (values : List String) :
    isEnumeration raw hint (sortValues values) = isEnumeration raw hint values := by
  rw [isEnumeration, sortValues_isEmpty, isEnumeration]

theorem classify_sortValues (raw hint : String) (values : List String) :
    classify raw hint (sortValues values) = classify raw hint values := by
  simp only [classify, isEnumeration_sortValues]

theorem values_eq_nil_of_classify {raw hint : String} {values : List String}
    (other : classify raw hint values ≠ .enum) : values = [] := by
  by_contra nonempty
  simp [classify, isEnumeration, nonempty] at other

theorem Column.normalized_name (column : Column) : column.normalized.name = column.name :=
  rfl

theorem Column.normalized_canonicalType (column : Column) :
    column.normalized.canonicalType = classify column.type column.dataType column.values :=
  rfl

/-- Sorting does nothing to a column that is no enumeration, as it has no values. -/
theorem Column.normalized_values (column : Column) :
    column.normalized.values = sortValues column.values := by
  by_cases enumeration : classify column.type column.dataType column.values = .enum
  · simp only [Column.normalized, if_pos enumeration]
  · simp only [Column.normalized, if_neg enumeration]
    rw [values_eq_nil_of_classify enumeration, sortValues_nil]

theorem Column.normalized_normalized (column : Column) :
    column.normalized.normalized = column.normalized := by
  have values : column.normalized.normalized.values = column.normalized.values := by
    rw [normalized_values, normalized_values, sortValues_sortValues]
  have type : column.normalized.normalized.canonicalType = column.normalized.canonicalType := by
    rw [normalized_canonicalType, normalized_values, normalized_canonicalType]
    exact classify_sortValues column.type column.dataType column.values
  calc column.normalized.normalized
      = { column.normalized with
          canonicalType := column.normalized.normalized.canonicalType
          values := column.normalized.normalized.values } := rfl
    _ = column.normalized := by rw [type, values]

theorem Column.normalized_settled (column : Column) : column.normalized.Settled where
  ascending := by
    rw [normalized_values]
    exact (sortValues_pairwise column.values).imp Utf8.encode_le_iff.mpr
  valueless other := by
    rw [normalized_values, values_eq_nil_of_classify other, sortValues_nil]
  classified := by
    rw [normalized_values, normalized_canonicalType]
    exact (classify_sortValues column.type column.dataType column.values).symm
  unchanged := column.normalized_normalized

/-- Whether a column is an enumeration of the given labels, none lost or repeated and in the order
of their bytes. -/
structure Column.Enumerates (labels : List String) (column : Column) : Prop where
  canonical : column.canonicalType = .enum
  ascending : column.values.Pairwise fun left right =>
    Utf8.encode left.toList ≤ Utf8.encode right.toList
  complete : column.values.Perm labels

theorem Column.normalized_enumerates {column : Column} (valued : column.values ≠ []) :
    column.normalized.Enumerates column.values where
  canonical := by
    by_contra other
    exact valued (values_eq_nil_of_classify other)
  ascending := column.normalized_settled.ascending
  complete := by
    rw [normalized_values]
    exact List.mergeSort_perm _ _

theorem Column.withKeyFrom_cases (names : List String) (column : Column) :
    column.withKeyFrom names = column ∨
      column.withKeyFrom names = { column with key := .multiple } := by
  unfold withKeyFrom
  split_ifs
  · exact .inl rfl
  · exact .inr rfl
  · exact .inl rfl

theorem Column.Enumerates.withKeyFrom {labels : List String} {column : Column}
    (enumerates : column.Enumerates labels) (names : List String) :
    (column.withKeyFrom names).Enumerates labels := by
  rcases column.withKeyFrom_cases names with same | marked
  · rwa [same]
  · rw [marked]
    exact ⟨enumerates.canonical, enumerates.ascending, enumerates.complete⟩

theorem Column.Settled.withKeyFrom {column : Column} (settled : column.Settled)
    (names : List String) : (column.withKeyFrom names).Settled := by
  have marked : ({ column with key := .multiple } : Column).Settled :=
    ⟨settled.ascending, settled.valueless, settled.classified,
      congrArg (fun same : Column => { same with key := ColumnKey.multiple }) settled.unchanged⟩
  unfold Column.withKeyFrom
  split_ifs <;> assumption

theorem Column.withKeyFrom_name (names : List String) (column : Column) :
    (column.withKeyFrom names).name = column.name := by
  unfold Column.withKeyFrom
  split_ifs <;> rfl

theorem enrichKeys_names (indexes : List Index) (columns : List Column) :
    (enrichKeys indexes columns).map Column.name = columns.map Column.name := by
  rw [enrichKeys, List.map_map]
  exact List.map_congr_left fun column _ => column.withKeyFrom_name _

theorem enrichKeys_settled {indexes : List Index} {columns : List Column}
    (settled : ∀ column ∈ columns, column.Settled) :
    ∀ column ∈ enrichKeys indexes columns, column.Settled := by
  intro column member
  obtain ⟨plain, inside, rfl⟩ := List.mem_map.mp member
  exact (settled plain inside).withKeyFrom _

end SqlMigrations.Schema
