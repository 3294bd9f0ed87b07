import SqlMigrations.Proofs.Schema.Marks
import SqlMigrations.Proofs.Text.Search

/-!
The tests that decide the class of a type look at the pieces between separators, and no number
passes them. So a size in parentheses and blanks at the end of a type text are not seen by any of
them, before or after lowering.
-/

namespace SqlMigrations.Schema

open Text (lower isDigit occursIn inRanges caseIgnorableRanges casedRanges)

variable {test : List Char → Bool}

/-- The characters that end every word and every token. -/
def separators : List Char :=
  [' ', '(', ')', ',']

theorem forall_separators {motive : Char → Prop} :
    (∀ c ∈ separators, motive c) ↔ motive ' ' ∧ motive '(' ∧ motive ')' ∧ motive ',' := by
  simp [separators]

/-- A test of texts that only the pieces between separators can pass, and no number. -/
structure Piecewise (test : List Char → Bool) : Prop where
  empty : test [] = false
  separated : ∀ c ∈ separators, ∀ front back,
    test (front ++ c :: back) = (test front || test back)
  number : ∀ digits, (∀ c ∈ digits, isDigit c = true) → test digits = false

def classTokens : List String :=
  "enum" :: partClasses.flatMap Prod.fst

theorem piecewise_occursIn {token : List Char} (nonempty : token ≠ [])
    (apart : ∀ c ∈ token, c ∉ separators ∧ isDigit c = false) : Piecewise (occursIn token) where
  empty := by
    rw [← Bool.not_eq_true, Text.occursIn_iff_infix, List.infix_nil]
    exact nonempty
  separated c member front back := by
    have absent : c ∉ token := fun inside => (apart c inside).1 member
    rw [Bool.eq_iff_iff, Bool.or_eq_true, Text.occursIn_iff_infix, Text.occursIn_iff_infix,
      Text.occursIn_iff_infix, Text.infix_around absent]
  number digits all := by
    rw [← Bool.not_eq_true, Text.occursIn_iff_infix]
    intro inside
    obtain ⟨c, rest, rfl⟩ := List.exists_cons_of_ne_nil nonempty
    have digit := all c (inside.subset List.mem_cons_self)
    rw [(apart c List.mem_cons_self).2] at digit
    contradiction

theorem piecewise_of_mem_classTokens {token : String} (member : token ∈ classTokens) :
    Piecewise (occursIn token.toList) := by
  have table : ∀ token ∈ classTokens, token.toList ≠ [] ∧
      token.toList.all (fun c => !separators.contains c && !isDigit c) = true := by decide +kernel
  obtain ⟨nonempty, apart⟩ := table token member
  refine piecewise_occursIn nonempty fun c inside => ?_
  simpa using List.all_eq_true.mp apart c inside

theorem words_eq_splitOnP (text : List Char) :
    words text = text.splitOnP fun c => !Text.isAsciiAlphanumeric c := by
  induction text with
  | nil => rfl
  | cons c text induction =>
    rw [List.splitOnP_cons_eq_if_modifyHead, words, induction]
    cases Text.isAsciiAlphanumeric c with
    | false => rfl
    | true =>
      cases runs : text.splitOnP fun c => !Text.isAsciiAlphanumeric c with
      | nil => exact absurd runs (List.splitOnP_ne_nil _ _)
      | cons run runs => rfl

theorem piecewise_hasIntegerWord : Piecewise hasIntegerWord where
  empty := by decide +kernel
  separated c member front back := by
    have apart : ∀ c ∈ separators, (!Text.isAsciiAlphanumeric c) = true :=
      forall_separators.mpr (by decide)
    have cut := List.splitOnP_append_cons (p := fun c => !Text.isAsciiAlphanumeric c) front back
      (apart c member)
    simp only [hasIntegerWord, words_eq_splitOnP, cut, List.any_append]
  number digits all := by
    have letters : ∀ word ∈ integerWords, word.toList.any (fun c => !isDigit c) = true := by
      decide +kernel
    have single : words digits = [digits] := by
      rw [words_eq_splitOnP]
      refine List.splitOnP_eq_singleton fun c member => ?_
      have digit := all c member
      rw [isDigit] at digit
      simp [Text.isAsciiAlphanumeric, digit]
    rw [hasIntegerWord, single, List.any_cons, List.any_nil, Bool.or_false, ← Bool.not_eq_true,
      List.contains_iff_mem]
    intro member
    obtain ⟨c, inside, other⟩ := List.any_eq_true.mp (letters _ member)
    rw [String.toList_ofList] at inside
    simp [all c inside] at other

theorem Piecewise.lower (piecewise : Piecewise test) : Piecewise fun text => test (lower text) where
  empty := piecewise.empty
  separated c member front back := by
    have caseless : ∀ c ∈ separators, inRanges caseIgnorableRanges c.toNat = false ∧
        inRanges casedRanges c.toNat = false ∧ Text.lowerChar c = [c] :=
      forall_separators.mpr (by decide +kernel)
    obtain ⟨counted, uncased, same⟩ := caseless c member
    rw [Text.lower_append ⟨counted, uncased⟩, same, List.append_assoc, List.singleton_append,
      piecewise.separated c member]
  number digits all := by
    have low : ∀ c ∈ digits, c.toNat < 65 := by
      intro c member
      have digit := Text.isDigit_iff.mp (all c member)
      omega
    have same : Text.lower digits = digits := by
      rw [Text.lower_of_ascii fun c member => (low c member).trans (by decide)]
      exact (List.map_congr_left fun c member => Text.asciiLower_of_lt (low c member)).trans
        (List.map_id digits)
    rw [same, piecewise.number digits all]

/-- Types that no piecewise test tells apart are in one class. -/
theorem classify_congr {raw other : String}
    (alike : ∀ test, Piecewise test → test (lower raw.toList) = test (lower other.toList))
    (hint : String) (values : List String) :
    classify raw hint values = classify other hint values := by
  have tokens : ∀ token ∈ classTokens, occursIn token.toList (lower raw.toList) =
      occursIn token.toList (lower other.toList) :=
    fun token member => alike _ (piecewise_of_mem_classTokens member)
  have mentions : ∀ entry ∈ partClasses, mentionsAny entry.1 (lower raw.toList) =
      mentionsAny entry.1 (lower other.toList) := by
    intro entry member
    rw [Bool.eq_iff_iff, mentionsAny, mentionsAny, List.any_eq_true, List.any_eq_true]
    refine exists_congr fun part => and_congr_right fun inside => ?_
    rw [tokens part (List.mem_cons_of_mem _ (List.mem_flatMap.mpr ⟨entry, member, inside⟩))]
  have parts : partClasses.find? (fun entry => mentionsAny entry.1 (lower raw.toList)) =
      partClasses.find? fun entry => mentionsAny entry.1 (lower other.toList) := by
    rw [← List.head?_filter, ← List.head?_filter, List.filter_congr mentions]
  have enumeration : isEnumeration (lower raw.toList) (lower hint.toList) values =
      isEnumeration (lower other.toList) (lower hint.toList) values := by
    rw [isEnumeration, tokens "enum" List.mem_cons_self, isEnumeration]
  have plain : classifyPlain (lower raw.toList) (lower hint.toList) =
      classifyPlain (lower other.toList) (lower hint.toList) := by
    rw [classifyPlain, parts, alike _ piecewise_hasIntegerWord, classifyPlain]
  rw [classify, enumeration, plain, classify]

/-- One or more digits. -/
structure IsNumber (digits : List Char) : Prop where
  nonempty : digits ≠ []
  digits : ∀ c ∈ digits, isDigit c = true

/-- A size in parentheses: a number, or two with a comma. -/
inductive IsSize : List Char → Prop where
  | width {digits : List Char} (number : IsNumber digits) : IsSize ('(' :: (digits ++ [')']))
  | precision {digits scale : List Char} (first : IsNumber digits) (second : IsNumber scale) :
    IsSize ('(' :: (digits ++ ',' :: (scale ++ [')'])))

def StartsApart (text : List Char) : Prop :=
  ∀ c ∈ text.head?, c = ' '

theorem Piecewise.apart (piecewise : Piecewise test) {back : List Char} (apart : StartsApart back)
    (front : List Char) : test (front ++ back) = (test front || test back) := by
  cases back with
  | nil => rw [List.append_nil, piecewise.empty, Bool.or_false]
  | cons c back =>
    obtain rfl := apart c rfl
    have rest := piecewise.separated ' ' (by decide) [] back
    rw [piecewise.empty, Bool.false_or, List.nil_append] at rest
    rw [piecewise.separated ' ' (by decide), rest]

theorem Piecewise.size (piecewise : Piecewise test) {size : List Char} (sized : IsSize size)
    (front : List Char) : test (front ++ size) = test front := by
  have cut (c : Char) (member : c ∈ separators) := piecewise.separated c member
  cases sized with
  | width number =>
    rw [cut '(' (by decide), cut ')' (by decide), piecewise.number _ number.digits,
      piecewise.empty, Bool.or_false, Bool.or_false]
  | precision first second =>
    rw [cut '(' (by decide), cut ',' (by decide), cut ')' (by decide),
      piecewise.number _ first.digits, piecewise.number _ second.digits, piecewise.empty,
      Bool.or_false, Bool.or_false, Bool.or_false]

theorem Piecewise.spaces (piecewise : Piecewise test) {spaces : List Char}
    (all : ∀ c ∈ spaces, c = ' ') (front : List Char) : test (front ++ spaces) = test front := by
  induction spaces generalizing front with
  | nil => rw [List.append_nil]
  | cons c spaces induction =>
    obtain ⟨rfl, others⟩ := List.forall_mem_cons.mp all
    have none := induction others []
    rw [List.nil_append, piecewise.empty] at none
    rw [piecewise.separated ' ' (by decide), none, Bool.or_false]

end SqlMigrations.Schema
