import SqlMigrations.Proofs.Catalog.Columns
import SqlMigrations.Proofs.Schema.Widths

/-!
Sizes and classes. A size in parentheses never changes the class of a type, and the display width of
an integer type is all that its base lacks. So the describer that classifies the base of an integer
type and the one that classifies the type as it is put it in one class.
-/

namespace SqlMigrations.Catalog

open Schema
open Text (lower occursIn)

variable {raw hint : String} {values : List String} {name digits back : List Char}

theorem classify_of_size {plain sized : String} {front size : List Char}
    (parenthesised : IsSize size)
    (apart : StartsApart back) (withSize : sized.toList = front ++ size ++ back)
    (without : plain.toList = front ++ back) (hint : String) (values : List String) :
    classify sized hint values = classify plain hint values := by
  refine classify_congr (fun test piecewise => ?_) hint values
  have lowered := piecewise.lower
  rw [withSize, without, lowered.apart apart, lowered.size parenthesised, ← lowered.apart apart]

theorem classify_splitSize (integer : IsIntegerName name) (number : IsNumber digits)
    (spaced : IsSpaced back) (apart : StartsApart back)
    (whole : raw.toList = name ++ '(' :: (digits ++ ')' :: back)) (hint : String)
    (values : List String) : classify (splitSize raw).1 hint values = classify raw hint values := by
  obtain ⟨body, spaces, same, spacedBody, onlySpaces, trims⟩ := spaced.exists_body
  have trimmed := trims name (isBare_of_word integer.word) integer.nonempty
  have ascii : ∀ c ∈ name ++ body, c.toNat < 128 := by
    simpa [or_imp, forall_and] using
      ⟨fun c member => lt_of_isWordChar (integer.word c member), spacedBody.lt⟩
  have withSize : raw.toList = name ++ '(' :: (digits ++ [')']) ++ back := by
    rw [whole]
    simp
  have unsized := classify_of_size (.width number) apart withSize String.toList_ofList hint values
  rw [unsized, splitSize_of_width integer number spaced whole, trimmed]
  refine classify_congr (fun test piecewise => ?_) hint values
  rw [String.toList_ofList, String.toList_ofList, Text.lower_lower_of_ascii ascii, same,
    ← List.append_assoc, piecewise.lower.spaces onlySpaces]

theorem classify_of_enum (mentioned : occursIn "enum".toList (lower raw.toList) = true)
    (hint : String) (values : List String) : classify raw hint values = .enum := by
  rw [classify, isEnumeration, mentioned]
  rfl

/-- A hint that mentions no more than the type does adds nothing to it. -/
theorem classify_of_hint (known : ∀ token ∈ ["enum", "blob"],
      occursIn token.toList (lower hint.toList) = true →
        occursIn token.toList (lower raw.toList) = true) :
    classify raw hint [] = classify raw "" [] := by
  have enumeration : isEnumeration (lower raw.toList) (lower hint.toList) [] =
      isEnumeration (lower raw.toList) (lower "".toList) [] := by
    have silent : occursIn "enum".toList (lower "".toList) = false := by decide +kernel
    have ofHint := known "enum" (by decide)
    rw [isEnumeration, isEnumeration, silent]
    cases mentioned : occursIn "enum".toList (lower hint.toList) with
    | false => rfl
    | true =>
      rw [ofHint mentioned]
      rfl
  have plain : classifyPlain (lower raw.toList) (lower hint.toList) =
      classifyPlain (lower raw.toList) (lower "".toList) := by
    have silent : occursIn "blob".toList (lower "".toList) = false := by decide +kernel
    rw [classifyPlain, classifyPlain, silent]
    cases found : partClasses.find? fun entry => mentionsAny entry.1 (lower raw.toList) with
    | some entry => rfl
    | none =>
      have unmentioned := List.find?_eq_none.mp found
        (["blob", "binary", "bytea"], CanonicalType.blob) (by decide)
      have ofHint : ¬ occursIn "blob".toList (lower hint.toList) = true := fun mentioned =>
        unmentioned (List.any_eq_true.mpr ⟨"blob", by decide, known "blob" (by decide) mentioned⟩)
      rw [if_neg ofHint]
      rfl
  rw [classify, enumeration, plain, classify]

theorem dataTypeOf_known (ascii : ∀ c ∈ raw.toList, c.toNat < 128) : ∀ token ∈ ["enum", "blob"],
    occursIn token.toList (lower (Sqlite.dataTypeOf raw).toList) = true →
      occursIn token.toList (lower raw.toList) = true := by
  have silent : ∀ token ∈ ["enum", "blob"],
      ¬ occursIn token.toList (lower "bigint".toList) = true ∧
        ¬ occursIn token.toList (lower "double".toList) = true := by decide +kernel
  intro token member
  unfold Sqlite.dataTypeOf
  split
  · exact fun mentioned => absurd mentioned (silent token member).1
  · exact fun mentioned => absurd mentioned (silent token member).2
  · rw [Text.lowered, String.toList_ofList, Text.lower_lower_of_ascii ascii]
    exact id

/-- The describers put an integer type with a display width in one class, if the data type that only
one of them gets mentions no more than the type. -/
theorem describers_agree {facts : MySql.ColumnFacts} {row : Sqlite.TableInfo}
    (integer : IsIntegerName name) (number : IsNumber digits) (spaced : IsSpaced back)
    (apart : StartsApart back) (whole : row.type.toList = name ++ '(' :: (digits ++ ')' :: back))
    (same : facts.type = row.type) (known : ∀ token ∈ ["enum", "blob"],
      occursIn token.toList (lower facts.dataType.toList) = true →
        occursIn token.toList (lower row.type.toList) = true) :
    (MySql.columnOf facts).normalized.canonicalType =
      (Sqlite.columnOf row).normalized.canonicalType := by
  have ascii : ∀ c ∈ row.type.toList, c.toNat < 128 := by
    have marks : '('.toNat < 128 ∧ ')'.toNat < 128 := by decide
    simpa [whole, or_imp, forall_and, marks] using
      ⟨fun c member => lt_of_isWordChar (integer.word c member),
        fun c member => lt_of_isWordChar (isWordChar_of_isDigit (number.digits c member)),
        spaced.lt⟩
  have ofRow : (Sqlite.columnOf row).normalized.canonicalType =
      classify row.type (Sqlite.dataTypeOf row.type) [] := rfl
  rw [ofRow, Column.normalized_canonicalType]
  by_cases mentioned : MySql.mentionsEnum facts.type = true
  · have named : occursIn "enum".toList (lower "enum".toList) = true := by decide +kernel
    rw [MySql.columnOf_of_enum mentioned, classify_of_enum named]
    rw [MySql.mentionsEnum, same] at mentioned
    exact (classify_of_enum mentioned _ _).symm
  · rw [MySql.columnOf_of_other mentioned, same,
      classify_splitSize integer number spaced apart whole, classify_of_hint known,
      classify_of_hint (dataTypeOf_known ascii)]

/-- A size in parentheses at the end of a type, or followed by a space, does not change the class of
a column or its values. The base of an integer type with a display width is the type without it, in
small letters and trimmed, and its size is zero. So the class of the base is that of the type, in
general and for the describers that classify one or the other. -/
theorem sizes_never_classify :
    (∀ (column : Column) (front size back : String), IsSize size.toList →
      StartsApart back.toList → { column with type := front ++ size ++ back }.normalized =
        { { column with type := front ++ back }.normalized with type := front ++ size ++ back }) ∧
    ∀ name digits back : String, IsIntegerName name.toList → IsNumber digits.toList →
      IsSpaced back.toList →
        splitSize (name ++ "(" ++ digits ++ ")" ++ back) =
            (Text.lowered (Text.trimmed (name ++ back)), 0) ∧
          (StartsApart back.toList →
            (∀ hint values, classify
                (splitSize (name ++ "(" ++ digits ++ ")" ++ back)).1 hint values =
              classify (name ++ "(" ++ digits ++ ")" ++ back) hint values) ∧
            ∀ (facts : MySql.ColumnFacts) (row : Sqlite.TableInfo),
              facts.type = name ++ "(" ++ digits ++ ")" ++ back → facts.type = row.type →
              (∀ token ∈ ["enum", "blob"],
                occursIn token.toList (lower facts.dataType.toList) = true →
                  occursIn token.toList (lower row.type.toList) = true) →
              (MySql.columnOf facts).normalized.canonicalType =
                (Sqlite.columnOf row).normalized.canonicalType) := by
  constructor
  · intro column front size back parenthesised apart
    have withSize : (front ++ size ++ back).toList =
        front.toList ++ size.toList ++ back.toList := by
      simp
    have same := classify_of_size parenthesised apart withSize String.toList_append column.dataType
      column.values
    simp only [Column.normalized, same]
  · intro name digits back integer number spaced
    have whole : (name ++ "(" ++ digits ++ ")" ++ back).toList =
        name.toList ++ '(' :: (digits.toList ++ ')' :: back.toList) := by
      simp
    refine ⟨?_, fun apart => ⟨fun hint values => ?_, fun facts row typed same known => ?_⟩⟩
    · rw [splitSize_of_width integer number spaced whole]
      simp [Text.lowered, Text.trimmed]
    · exact classify_splitSize integer number spaced apart whole hint values
    · rw [typed] at same
      exact describers_agree integer number spaced apart (same ▸ whole) (typed.trans same) known

/-- A class that a size leaves as it is, and an integer type in capitals that both describers
read. -/
theorem bigint_width_classified :
    ({ Column.ofType "rate" "" with type := "numeric" ++ "(10,2)" ++ " unsigned" } :
        Column).normalized.canonicalType =
      ({ Column.ofType "rate" "" with type := "numeric" ++ " unsigned" } :
        Column).normalized.canonicalType ∧
    splitSize ("BigInt" ++ "(" ++ "20" ++ ")" ++ " Unsigned ") =
      (Text.lowered (Text.trimmed ("BigInt" ++ " Unsigned ")), 0) ∧
    (MySql.columnOf ⟨"n", "BigInt(20) Unsigned ", "", "", "bigint"⟩).normalized.canonicalType =
      (Sqlite.columnOf ⟨"n", "BigInt(20) Unsigned ", 0⟩).normalized.canonicalType := by
  obtain ⟨classes, bases⟩ := sizes_never_classify
  have sized : IsSize ('(' :: (['1', '0'] ++ ',' :: (['2'] ++ [')']))) :=
    .precision ⟨by decide, List.all_eq_true.mp (by decide)⟩
      ⟨by decide, List.all_eq_true.mp (by decide)⟩
  have spaced : IsSpaced " Unsigned ".toList := by
    simp [IsSpaced]
  obtain ⟨base, agree⟩ := bases "BigInt" "20" " Unsigned "
    ⟨List.all_eq_true.mp (by decide), by decide⟩ ⟨by decide, List.all_eq_true.mp (by decide)⟩ spaced
  refine ⟨?_, base, ?_⟩
  · rw [classes _ "numeric" "(10,2)" " unsigned" sized (by simp [StartsApart])]
  · exact (agree (by simp [StartsApart])).2 ⟨"n", "BigInt(20) Unsigned ", "", "", "bigint"⟩
      ⟨"n", "BigInt(20) Unsigned ", 0⟩ (by decide) rfl (by decide +kernel)

end SqlMigrations.Catalog
