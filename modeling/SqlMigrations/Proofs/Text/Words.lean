import Mathlib.Data.List.DropRight
import SqlMigrations.Text.Blank

namespace SqlMigrations.Text

variable {c : Char} {blanks text : List Char}

/-- The longest runs of a text without blanks. -/
def words (text : List Char) : List (List Char) :=
  (text.splitOnP isBlank).filter fun word => !word.isEmpty

def ink (text : List Char) : List Char :=
  text.filter fun c => !isBlank c

@[simp] theorem words_nil : words [] = [] := by
  simp [words, List.splitOnP_nil]

theorem words_append_blank (front rest : List Char) (blank : isBlank c = true) :
    words (front ++ c :: rest) = words front ++ words rest := by
  simp only [words, List.splitOnP_append_cons front rest blank, List.filter_append]

theorem words_cons_blank (rest : List Char) (blank : isBlank c = true) :
    words (c :: rest) = words rest := by
  simpa using words_append_blank [] rest blank

theorem words_blanks_append (blank : ∀ c ∈ blanks, isBlank c = true) (text : List Char) :
    words (blanks ++ text) = words text := by
  induction blanks with
  | nil => rfl
  | cons c blanks induction =>
    obtain ⟨first, others⟩ := List.forall_mem_cons.mp blank
    rw [List.cons_append, words_cons_blank _ first, induction others]

theorem words_append_blanks (blank : ∀ c ∈ blanks, isBlank c = true) (text : List Char) :
    words (text ++ blanks) = words text := by
  cases blanks with
  | nil => simp
  | cons c blanks =>
    obtain ⟨first, others⟩ := List.forall_mem_cons.mp blank
    have none : words blanks = [] := by simpa using words_blanks_append others []
    rw [words_append_blank text blanks first, none, List.append_nil]

theorem flatten_words (text : List Char) : (words text).flatten = ink text := by
  have parts (text : List Char) : (text.splitOnP isBlank).flatten = ink text := by
    induction text with
    | nil => simp [ink, List.splitOnP_nil]
    | cons c text induction =>
      rw [List.splitOnP_cons_eq_if_modifyHead]
      cases blank : isBlank c with
      | true => simpa [ink, blank] using induction
      | false =>
        cases runs : text.splitOnP isBlank with
        | nil => exact absurd runs (List.splitOnP_ne_nil _ _)
        | cons run runs => simpa [ink, blank, runs] using induction
  rw [← parts, words, List.flatten_filter_not_isEmpty]

theorem words_eq_nil_iff : words text = [] ↔ ∀ c ∈ text, isBlank c = true := by
  constructor
  · intro none c member
    have noInk : ink text = [] := by rw [← flatten_words, none, List.flatten_nil]
    simpa using List.filter_eq_nil_iff.mp noInk c member
  · intro blank
    simpa using words_blanks_append blank []

theorem exists_trim (text : List Char) : ∃ before after,
    text = before ++ trim text ++ after ∧ (∀ c ∈ before, isBlank c = true) ∧
      ∀ c ∈ after, isBlank c = true := by
  refine ⟨text.takeWhile isBlank, (trimStart text).rtakeWhile isBlank, ?_, ?_, ?_⟩
  · have ended : trim text ++ (trimStart text).rtakeWhile isBlank = trimStart text :=
      List.rdropWhile_append_rtakeWhile
    rw [List.append_assoc, ended, trimStart, List.takeWhile_append_dropWhile]
  · exact fun c member => List.mem_takeWhile_imp member
  · exact fun c member => List.mem_rtakeWhile_imp member

theorem words_trim (text : List Char) : words (trim text) = words text := by
  obtain ⟨before, after, whole, first, last⟩ := exists_trim text
  conv => rhs; rw [whole]
  rw [words_append_blanks last, words_blanks_append first]

/-- A text of blanks only is trimmed to the empty one. -/
theorem trim_eq_nil_iff : trim text = [] ↔ words text = [] := by
  constructor
  · intro empty
    rw [← words_trim, empty, words_nil]
  · intro none
    have dropped : trimStart text = [] := List.dropWhile_eq_nil_iff.mpr (words_eq_nil_iff.mp none)
    rw [trim, dropped]
    rfl

end SqlMigrations.Text
