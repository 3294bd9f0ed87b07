import SqlMigrations.Proofs.Schema.Marks
import SqlMigrations.Proofs.Text.CaseMapping
import SqlMigrations.Proofs.Text.Search

namespace SqlMigrations.Schema

open Text (isAsciiBlank joinAll stripWord? stripWord?_eq_some_iff not_mem_of_lowered)

/-- A label in single quotes, with blanks of a class around it. -/
structure QuotedLabel (blank : Char → Bool) where
  before : List Char
  label : List Char
  after : List Char
  before_blank : ∀ c ∈ before, blank c = true
  after_blank : ∀ c ∈ after, blank c = true
  unquoted : '\'' ∉ label

section
variable {blank : Char → Bool}

def QuotedLabel.text (item : QuotedLabel blank) : List Char :=
  item.before ++ '\'' :: (item.label ++ '\'' :: item.after)

theorem QuotedLabel.text_append (item : QuotedLabel blank) (rest : List Char) :
    item.text ++ rest = item.before ++ '\'' :: (item.label ++ '\'' :: (item.after ++ rest)) := by
  simp [text]

theorem QuotedLabel.not_mem_text {c : Char} {item : QuotedLabel blank} (noQuote : c ≠ '\'')
    (ink : blank c = false) (absent : c ∉ item.label) : c ∉ item.text := by
  intro member
  simp only [text, List.mem_append, List.mem_cons] at member
  obtain inside | rfl | inside | rfl | inside := member
  · simpa [ink] using item.before_blank c inside
  · exact noQuote rfl
  · exact absent inside
  · exact noQuote rfl
  · simpa [ink] using item.after_blank c inside

/-- The list of labels, with a comma between neighbours. -/
def listText (items : List (QuotedLabel blank)) : List Char :=
  joinAll ',' (items.map QuotedLabel.text)

def listLabels (items : List (QuotedLabel blank)) : List String :=
  items.map fun item => String.ofList item.label

def laterText (items : List (QuotedLabel blank)) : List Char :=
  items.flatMap fun item => ',' :: item.text

theorem listText_cons (item : QuotedLabel blank) (items : List (QuotedLabel blank)) :
    listText (item :: items) = item.text ++ laterText items := by
  induction items generalizing item with
  | nil => simp [listText, laterText, joinAll]
  | cons next items induction =>
    have step : listText (item :: next :: items) = item.text ++ ',' :: listText (next :: items) :=
      rfl
    rw [step, induction]
    simp [laterText]

theorem laterText_cons (item : QuotedLabel blank) (items : List (QuotedLabel blank)) :
    laterText (item :: items) = ',' :: (item.text ++ laterText items) :=
  List.flatMap_cons

theorem not_mem_listText {c : Char} {items : List (QuotedLabel blank)} (noComma : c ≠ ',')
    (absent : ∀ item ∈ items, c ∉ item.text) : c ∉ listText items := by
  cases items with
  | nil => exact List.not_mem_nil
  | cons item items =>
    obtain ⟨first, later⟩ := List.forall_mem_cons.mp absent
    rw [listText_cons, laterText]
    simpa [first, noComma] using later

theorem length_le_laterText (items : List (QuotedLabel blank)) :
    items.length ≤ (laterText items).length := by
  induction items with
  | nil => exact Nat.le_refl 0
  | cons item items induction =>
    rw [laterText_cons, List.length_cons, List.length_cons, List.length_append]
    omega

end

/-- The type text of an enumeration: the word in any case, the list in parentheses, and a text
without quotes. -/
structure EnumText where
  word : List Char
  gap : List Char
  items : List (QuotedLabel isAsciiBlank)
  rest : List Char
  named : word.map Text.asciiLower = "enum".toList
  gap_blank : ∀ c ∈ gap, isAsciiBlank c = true
  nonempty : items ≠ []
  unquoted : '\'' ∉ rest

def EnumText.type (text : EnumText) : String :=
  String.ofList (text.word ++ (text.gap ++ '(' :: (listText text.items ++ ')' :: text.rest)))

variable {items : List (QuotedLabel isAsciiBlank)} {gap front text : List Char}

theorem readQuoted?_text (item : QuotedLabel isAsciiBlank) (rest : List Char) :
    readQuoted? (item.text ++ rest) = some (item.after ++ rest) := by
  have cut : Text.splitFirst? '\'' (item.label ++ '\'' :: (item.after ++ rest)) =
      some (item.label, item.after ++ rest) :=
    Text.splitFirst?_eq_some_iff.mpr ⟨rfl, item.unquoted⟩
  rw [readQuoted?, item.text_append, readMark?_behind (by decide) item.before_blank,
    Option.bind_some, cut, Option.map_some]

theorem closesLabels_laterText {fuel : Nat} (blank : ∀ c ∈ gap, isAsciiBlank c = true)
    (enough : items.length < fuel) (rest : List Char) :
    closesLabels fuel (gap ++ (laterText items ++ ')' :: rest)) = true := by
  induction items generalizing gap fuel with
  | nil =>
    obtain ⟨more, rfl⟩ := Nat.exists_eq_succ_of_ne_zero (Nat.ne_zero_of_lt enough)
    have noComma : readMark? ',' (')' :: rest) = none := readMark?_cons (by decide) rest
    have closed : readMark? ')' (')' :: rest) = some rest := readMark?_cons (by decide) rest
    rw [closesLabels, readMark?_append blank, readMark?_append blank]
    simp only [laterText, List.flatMap_nil, List.nil_append, noComma, closed, Option.isSome_some]
  | cons item items induction =>
    obtain ⟨more, rfl⟩ := Nat.exists_eq_succ_of_ne_zero (Nat.ne_zero_of_lt enough)
    have comma (next : List Char) : readMark? ',' (',' :: next) = some next :=
      readMark?_cons (by decide) next
    rw [closesLabels, readMark?_append blank, laterText_cons, List.cons_append, comma,
      List.append_assoc]
    simp only [readQuoted?_text]
    exact induction item.after_blank (by simpa using enough)

theorem startsLabels_listText (nonempty : items ≠ []) (blank : ∀ c ∈ gap, isAsciiBlank c = true)
    (rest : List Char) : startsLabels (gap ++ '(' :: (listText items ++ ')' :: rest)) = true := by
  obtain ⟨item, items, rfl⟩ := List.exists_cons_of_ne_nil nonempty
  have opened (list : List Char) : readMark? '(' (gap ++ '(' :: list) = some list :=
    readMark?_behind (by decide) blank list
  rw [startsLabels, opened, Option.bind_some, listText_cons, List.append_assoc, readQuoted?_text]
  refine closesLabels_laterText item.after_blank ?_ rest
  have fits := length_le_laterText items
  simp only [List.length_append, List.length_cons]
  omega

theorem hasEnumType_append {word : List Char} (named : word.map Text.asciiLower = "enum".toList)
    (starts : startsLabels text = true) : hasEnumType (word ++ text) = true := by
  cases word with
  | nil => contradiction
  | cons c word =>
    have stripped : stripWord? "enum".toList (c :: (word ++ text)) = some text :=
      stripWord?_eq_some_iff.mpr ⟨c :: word, rfl, named⟩
    rw [List.cons_append, hasEnumType, stripped]
    simp only [starts, Bool.true_or]

theorem quotedRuns_append (unquoted : '\'' ∉ front) (text : List Char) :
    quotedRuns none (front ++ text) = quotedRuns none text := by
  induction front with
  | nil => rfl
  | cons c front induction =>
    obtain ⟨other, unquoted⟩ := List.ne_and_not_mem_of_not_mem_cons unquoted
    rw [List.cons_append, quotedRuns, if_neg other.symm]
    exact induction unquoted

theorem quotedRuns_label {label : List Char} (unquoted : '\'' ∉ label) (chars text : List Char) :
    quotedRuns (some chars) (label ++ '\'' :: text) =
      (chars.reverse ++ label) :: quotedRuns none text := by
  induction label generalizing chars with
  | nil => simp [quotedRuns]
  | cons c label induction =>
    obtain ⟨other, unquoted⟩ := List.ne_and_not_mem_of_not_mem_cons unquoted
    simp only [List.cons_append, quotedRuns]
    rw [if_neg other.symm, induction unquoted, List.reverse_cons, List.append_assoc,
      List.singleton_append]

theorem not_mem_of_blank (blank : ∀ c ∈ gap, isAsciiBlank c = true) : '\'' ∉ gap :=
  fun member => absurd (blank _ member) (by decide)

theorem quotedRuns_text (item : QuotedLabel isAsciiBlank) (rest : List Char) :
    quotedRuns none (item.text ++ rest) = item.label :: quotedRuns none rest := by
  rw [item.text_append, quotedRuns_append (not_mem_of_blank item.before_blank), quotedRuns,
    if_pos rfl, quotedRuns_label item.unquoted,
    quotedRuns_append (not_mem_of_blank item.after_blank)]
  rfl

theorem quotedRuns_laterText (items : List (QuotedLabel isAsciiBlank)) (rest : List Char) :
    quotedRuns none (laterText items ++ rest) =
      items.map QuotedLabel.label ++ quotedRuns none rest := by
  induction items with
  | nil => rfl
  | cons item items induction =>
    rw [laterText_cons, List.cons_append, List.append_assoc, quotedRuns, if_neg (by decide),
      quotedRuns_text, induction]
    rfl

theorem quotedRuns_of_not_mem (unquoted : '\'' ∉ text) : quotedRuns none text = [] := by
  have whole := quotedRuns_append unquoted []
  rwa [List.append_nil] at whole

/-- The labels of an enumeration type are those of its list, in order. -/
theorem EnumText.enumLabels_type (text : EnumText) :
    enumLabels text.type = listLabels text.items := by
  have starts := startsLabels_listText text.nonempty text.gap_blank text.rest
  have runs : quotedRuns none (listText text.items ++ ')' :: text.rest) =
      text.items.map QuotedLabel.label := by
    obtain ⟨item, items, shape⟩ := List.exists_cons_of_ne_nil text.nonempty
    have closing : '\'' ∉ ')' :: text.rest := by simpa using text.unquoted
    rw [shape, listText_cons, List.append_assoc, quotedRuns_text, quotedRuns_laterText,
      quotedRuns_of_not_mem closing, List.append_nil, List.map_cons]
  have word : '\'' ∉ text.word := not_mem_of_lowered text.named (by decide)
  rw [enumLabels, EnumText.type, String.toList_ofList,
    if_pos (hasEnumType_append text.named starts), quotedRuns_append word,
    quotedRuns_append (not_mem_of_blank text.gap_blank),
    quotedRuns, if_neg (by decide), runs, List.map_map]
  rfl

end SqlMigrations.Schema
