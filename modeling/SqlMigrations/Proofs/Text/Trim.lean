import SqlMigrations.Proofs.Text.Words

namespace SqlMigrations.Text

variable {blanks text : List Char}

/-- Whether a text neither starts nor ends with a blank. -/
structure IsBare (text : List Char) : Prop where
  first : ∀ c ∈ text.head?, isBlank c = false
  last : ∀ c ∈ text.getLast?, isBlank c = false

theorem trimStart_blanks_append (blank : ∀ c ∈ blanks, isBlank c = true)
    (ends : ∀ c ∈ text.head?, isBlank c = false) : trimStart (blanks ++ text) = text := by
  rw [trimStart, List.dropWhile_append_of_pos blank]
  cases text with
  | nil => rfl
  | cons c text => exact List.dropWhile_cons_of_neg (by simp [ends c rfl])

theorem trim_blanks_append (blank : ∀ c ∈ blanks, isBlank c = true) (text : List Char) :
    trim (blanks ++ text) = trim text := by
  rw [trim, trimStart, List.dropWhile_append_of_pos blank, trim, trimStart]

theorem trimEnd_eq_reverse (text : List Char) : trimEnd text = (trimStart text.reverse).reverse :=
  rfl

theorem trimEnd_append_blanks (blank : ∀ c ∈ blanks, isBlank c = true)
    (ends : ∀ c ∈ text.getLast?, isBlank c = false) : trimEnd (text ++ blanks) = text := by
  have blankBack : ∀ c ∈ blanks.reverse, isBlank c = true := by simpa using blank
  rw [trimEnd_eq_reverse, List.reverse_append,
    trimStart_blanks_append blankBack (by simpa using ends), List.reverse_reverse]

theorem trimEnd_cons (c : Char) (text : List Char) :
    trimEnd (c :: text) =
      if trimEnd text = [] ∧ isBlank c = true then [] else c :: trimEnd text := by
  simp only [trimEnd, dropEndWhile, List.reverse_cons, List.dropWhile_append,
    List.reverse_eq_nil_iff, List.isEmpty_iff]
  by_cases ended : text.reverse.dropWhile isBlank = []
  · by_cases blank : isBlank c = true <;> simp [ended, blank]
  · simp [ended]

/-- Trimming the end of a text reaches no further than its last ink. -/
theorem trimEnd_append_cons {c : Char} (ink : isBlank c = false) (front rest : List Char) :
    trimEnd (front ++ c :: rest) = front ++ c :: trimEnd rest := by
  induction front with
  | nil => simp [trimEnd_cons, ink]
  | cons d front induction =>
    rw [List.cons_append, trimEnd_cons, induction, if_neg (by simp), List.cons_append]

/-- The part between blanks is what trimming leaves, if it does not go on with blanks. -/
theorem IsBare.trim_around {before core after : List Char} (bare : IsBare core)
    (first : ∀ c ∈ before, isBlank c = true) (last : ∀ c ∈ after, isBlank c = true) :
    trim (before ++ core ++ after) = core := by
  cases core with
  | nil =>
    rw [trim_eq_nil_iff, words_eq_nil_iff]
    simpa [or_imp, forall_and] using ⟨first, last⟩
  | cons c core =>
    have front : ∀ d ∈ (c :: core ++ after).head?, isBlank d = false := bare.first
    rw [trim, List.append_assoc, trimStart_blanks_append first front,
      trimEnd_append_blanks last bare.last]

theorem IsBare.trim_eq (bare : IsBare text) : trim text = text := by
  simpa using @IsBare.trim_around [] text [] bare (by simp) (by simp)

theorem IsBare.append {front : List Char} (bare : IsBare front) (nonempty : front ≠ [])
    (ends : ∀ c ∈ text.getLast?, isBlank c = false) : IsBare (front ++ text) where
  first c head := by
    rw [List.head?_append_of_ne_nil _ nonempty] at head
    exact bare.first c head
  last c last := by
    rw [List.getLast?_append, Option.mem_def, Option.or_eq_some_iff] at last
    exact last.elim (ends c) fun other => bare.last c other.2

theorem trimStart_head? {c : Char} (head : c ∈ (trimStart text).head?) : isBlank c = false := by
  have stops := List.head?_dropWhile_not isBlank text
  rw [trimStart, Option.mem_def] at head
  rwa [head] at stops

theorem trimEnd_getLast? {c : Char} (last : c ∈ (trimEnd text).getLast?) : isBlank c = false := by
  rw [trimEnd_eq_reverse, List.getLast?_reverse] at last
  exact trimStart_head? last

theorem trimEnd_starts (text : List Char) : trimEnd text <+: text := by
  rw [trimEnd_eq_reverse, ← List.reverse_suffix, List.reverse_reverse]
  exact List.dropWhile_suffix isBlank

/-- Only blanks at its start are trimmed from a text that ends with ink. -/
theorem exists_trim_of_last (ends : ∀ c ∈ text.getLast?, isBlank c = false) :
    ∃ before, text = before ++ trim text ∧ ∀ c ∈ before, isBlank c = true := by
  obtain ⟨before, after, whole, first, last⟩ := exists_trim text
  cases atEnd : after.getLast? with
  | none =>
    obtain rfl := List.getLast?_eq_none_iff.mp atEnd
    exact ⟨before, by simpa using whole, first⟩
  | some c =>
    have blank := last c (List.mem_of_getLast? atEnd)
    have final : c ∈ text.getLast? := by
      rw [whole, List.getLast?_append, atEnd]
      rfl
    rw [ends c final] at blank
    contradiction

theorem trim_isBare (text : List Char) : IsBare (trim text) where
  first c head := by
    obtain ⟨rest, whole⟩ := trimEnd_starts (trimStart text)
    have kept : c ∈ (trimStart text).head? := by
      rw [← whole, List.head?_append, ← trim, Option.mem_def.mp head]
      rfl
    exact trimStart_head? kept
  last _ := trimEnd_getLast?

end SqlMigrations.Text
