import Mathlib.Data.List.TakeWhile
import SqlMigrations.Proofs.Text.Decimal
import SqlMigrations.Schema.EnumType

namespace SqlMigrations.Schema

open Text (isAsciiBlank isDigit)

variable {mark c : Char} {blanks digits text rest : List Char}

theorem skipBlanks_append (blank : ∀ c ∈ blanks, isAsciiBlank c = true) (text : List Char) :
    skipBlanks (blanks ++ text) = skipBlanks text :=
  List.dropWhile_append_of_pos blank

theorem skipBlanks_cons (ink : isAsciiBlank c = false) (text : List Char) :
    skipBlanks (c :: text) = c :: text :=
  List.dropWhile_cons_of_neg (by simp [ink])

theorem readMark?_append (blank : ∀ c ∈ blanks, isAsciiBlank c = true) (text : List Char) :
    readMark? mark (blanks ++ text) = readMark? mark text := by
  rw [readMark?, skipBlanks_append blank, readMark?]

theorem readMark?_cons (ink : isAsciiBlank c = false) (text : List Char) :
    readMark? mark (c :: text) = if c = mark then some text else none := by
  rw [readMark?, skipBlanks_cons ink]

theorem readMark?_behind (ink : isAsciiBlank mark = false)
    (blank : ∀ c ∈ blanks, isAsciiBlank c = true) (rest : List Char) :
    readMark? mark (blanks ++ mark :: rest) = some rest := by
  rw [readMark?_append blank, readMark?_cons ink, if_pos rfl]

theorem readMark?_eq_some (found : readMark? mark text = some rest) :
    ∃ blanks, text = blanks ++ mark :: rest ∧ ∀ c ∈ blanks, isAsciiBlank c = true := by
  refine ⟨text.takeWhile isAsciiBlank, ?_, fun c member => List.mem_takeWhile_imp member⟩
  rw [readMark?] at found
  cases skipped : skipBlanks text with
  | nil => simp [skipped] at found
  | cons c later =>
    rw [skipped] at found
    obtain ⟨rfl, same⟩ := Option.ite_none_right_eq_some.mp found
    obtain rfl := Option.some.inj same
    rw [← skipped, skipBlanks, List.takeWhile_append_dropWhile]

theorem isWordChar_iff : isWordChar c = true ↔ (48 ≤ c.toNat ∧ c.toNat ≤ 57) ∨
    (65 ≤ c.toNat ∧ c.toNat ≤ 90) ∨ (97 ≤ c.toNat ∧ c.toNat ≤ 122) ∨ c.toNat = 95 := by
  simp only [isWordChar, Text.isAsciiAlphanumeric, Bool.or_eq_true, Bool.and_eq_true,
    decide_eq_true_eq, Text.char_le_iff, Char.reduceToNat, beq_iff_eq, ← Char.toNat_inj, or_assoc]

theorem isBlank_of_isWordChar (word : isWordChar c = true) : Text.isBlank c = false := by
  rw [isWordChar_iff] at word
  simp only [Text.isBlank, isAsciiBlank, Bool.or_eq_false_iff, Bool.and_eq_false_iff,
    decide_eq_false_iff_not, beq_eq_false_iff_ne]
  omega

theorem isAsciiBlank_of_isWordChar (word : isWordChar c = true) : isAsciiBlank c = false := by
  have blank := isBlank_of_isWordChar word
  contrapose! blank
  simpa using Text.isBlank_of_isAsciiBlank (by simpa using blank)

theorem isWordChar_of_isDigit (digit : isDigit c = true) : isWordChar c = true :=
  isWordChar_iff.mpr (.inl (Text.isDigit_iff.mp digit))

theorem readNumber?_append (nonempty : digits ≠ []) (all : ∀ c ∈ digits, isDigit c = true)
    (ended : isDigit c = false) (rest : List Char) :
    readNumber? (digits ++ c :: rest) = some (digits, c :: rest) := by
  obtain ⟨d, others, rfl⟩ := List.exists_cons_of_ne_nil nonempty
  have ink := isAsciiBlank_of_isWordChar (isWordChar_of_isDigit (all d List.mem_cons_self))
  have skipped : skipBlanks (d :: others ++ c :: rest) = d :: others ++ c :: rest :=
    skipBlanks_cons ink _
  have stops : ¬ isDigit c = true := by simp [ended]
  rw [readNumber?, skipped, List.takeWhile_append_of_pos all, List.dropWhile_append_of_pos all,
    List.takeWhile_cons_of_neg stops, List.dropWhile_cons_of_neg stops, List.append_nil]

theorem readWidth?_append (nonempty : digits ≠ []) (all : ∀ c ∈ digits, isDigit c = true)
    (rest : List Char) : readWidth? ('(' :: (digits ++ ')' :: rest)) = some (digits, rest) := by
  rw [readWidth?, readMark?_cons (by decide), if_pos rfl]
  simp only [Option.bind_eq_bind, Option.bind_some, readNumber?_append nonempty all
    (show isDigit ')' = false by decide), readMark?_cons (show isAsciiBlank ')' = false by decide)]
  rfl

/-- A size starts with a parenthesis behind blanks. -/
theorem readWidth?_isSome (found : (readWidth? text).isSome = true) :
    ∃ opened, readMark? '(' text = some opened := by
  rw [readWidth?] at found
  cases opened : readMark? '(' text with
  | none => simp [opened] at found
  | some rest => exact ⟨rest, rfl⟩

theorem readPrecision?_isSome (found : (readPrecision? text).isSome = true) :
    ∃ opened, readMark? '(' text = some opened := by
  rw [readPrecision?] at found
  cases opened : readMark? '(' text with
  | none => simp [opened] at found
  | some rest => exact ⟨rest, rfl⟩

end SqlMigrations.Schema
