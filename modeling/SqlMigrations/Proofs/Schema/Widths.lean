import SqlMigrations.Proofs.Schema.Pieces
import SqlMigrations.Proofs.Text.Trim

namespace SqlMigrations.Schema

open Text (isAsciiBlank isBlank isDigit asciiLower)

variable {c : Char} {digits name rest text : List Char}

theorem readWidth?_cons_of_ne (ink : isAsciiBlank c = false) (other : c ≠ '(') (text : List Char) :
    readWidth? (c :: text) = none := by
  rw [readWidth?, readMark?_cons ink, if_neg other]
  rfl

theorem readWidth?_of_not_mem (absent : '(' ∉ text) : readWidth? text = none := by
  by_contra found
  obtain ⟨opened, marked⟩ := readWidth?_isSome (Option.isSome_iff_ne_none.mpr found)
  obtain ⟨blanks, rfl, -⟩ := readMark?_eq_some marked
  exact absent (by simp)

theorem dropWidthsFrom_cons {word : List Char} (unsized : readWidth? (c :: text) = none) :
    dropWidthsFrom word 0 (c :: text) =
      c :: dropWidthsFrom (if isWordChar c then c :: word else []) 0 text := by
  rw [dropWidthsFrom, unsized, ite_self]

theorem dropWidthsFrom_of_not_mem (absent : '(' ∉ text) (word : List Char) :
    dropWidthsFrom word 0 text = text := by
  induction text generalizing word with
  | nil => rfl
  | cons c text induction =>
    rw [dropWidthsFrom_cons (readWidth?_of_not_mem absent),
      induction (List.not_mem_of_not_mem_cons absent)]

theorem dropWidthsFrom_word (all : ∀ c ∈ name, isWordChar c = true) (word rest : List Char) :
    dropWidthsFrom word 0 (name ++ rest) =
      name ++ dropWidthsFrom (name.reverse ++ word) 0 rest := by
  induction name generalizing word with
  | nil => rfl
  | cons c name induction =>
    obtain ⟨first, others⟩ := List.forall_mem_cons.mp all
    have noMark : c ≠ '(' := by
      rintro rfl
      contradiction
    rw [List.cons_append,
      dropWidthsFrom_cons (readWidth?_cons_of_ne (isAsciiBlank_of_isWordChar first) noMark _),
      if_pos first, induction others, List.reverse_cons, List.append_assoc name.reverse,
      List.singleton_append, List.cons_append]

theorem dropWidthsFrom_skip (front rest : List Char) :
    dropWidthsFrom [] front.length (front ++ rest) = dropWidthsFrom [] 0 rest := by
  induction front with
  | nil => rfl
  | cons c front induction => rw [List.length_cons, List.cons_append, dropWidthsFrom, induction]

theorem endsAsInteger_reverse : endsAsInteger name.reverse = true ↔
    "int".toList <:+ name ∨ "serial".toList <:+ name := by
  rw [endsAsInteger, Bool.or_eq_true, Text.stripStart?_isSome_iff, Text.stripStart?_isSome_iff,
    List.reverse_prefix, List.reverse_prefix]

theorem dropWidths_of_width (word : ∀ c ∈ name, isWordChar c = true)
    (ends : "int".toList <:+ name ∨ "serial".toList <:+ name) (number : IsNumber digits)
    (absent : '(' ∉ rest) : dropWidths (name ++ '(' :: (digits ++ ')' :: rest)) = name ++ rest := by
  have width := readWidth?_append number.nonempty number.digits rest
  have skipped : (digits ++ ')' :: rest).length - rest.length = (digits ++ [')']).length := by
    simp only [List.length_append, List.length_cons, List.length_nil]
    omega
  have regroup : digits ++ ')' :: rest = (digits ++ [')']) ++ rest := by simp
  rw [dropWidths, dropWidthsFrom_word word, List.append_nil, dropWidthsFrom,
    endsAsInteger_reverse.mpr ends, if_pos rfl, width]
  dsimp only
  rw [skipped, regroup, dropWidthsFrom_skip, dropWidthsFrom_of_not_mem absent]

theorem findSized?_eq_none {names : List String}
    {readSize : List Char → Option (List Char × List Char)}
    (unsized : ∀ front, ∀ name ∈ names, ∀ rest, text = front ++ (name.toList ++ rest) →
      readSize rest = none) : findSized? names readSize text = none := by
  have atStart (front here : List Char) (whole : text = front ++ here) :
      sizedAtStart? names readSize here = none := by
    refine List.findSome?_eq_none_iff.mpr fun name member => ?_
    cases found : Text.stripStart? name.toList here with
    | none => rfl
    | some rest =>
      rw [Text.stripStart?_eq_some_iff] at found
      subst found
      rw [Option.bind_some, unsized front name member rest whole, Option.map_none]
  suffices general : ∀ front here, text = front ++ here → findSized? names readSize here = none from
    general [] text rfl
  intro front here
  induction here generalizing front with
  | nil => exact atStart front []
  | cons c here induction =>
    intro whole
    rw [findSized?, atStart front (c :: here) whole]
    exact induction (front ++ [c]) (by simp [whole])

/-- A size after the only parenthesis of a text belongs to what stands right in front of it. -/
theorem findSized?_of_name {names : List String}
    {readSize : List Char → Option (List Char × List Char)}
    (opens : ∀ {text}, (readSize text).isSome = true → ∃ opened, readMark? '(' text = some opened)
    (word : ∀ c ∈ name, isWordChar c = true) (absent : '(' ∉ rest)
    (other : ∀ sized ∈ names, ¬ sized.toList <:+ name) :
    findSized? names readSize (name ++ '(' :: rest) = none := by
  refine findSized?_eq_none fun front sized member after whole => ?_
  by_contra found
  obtain ⟨opened, marked⟩ := opens (Option.isSome_iff_ne_none.mpr found)
  obtain ⟨blanks, rfl, blank⟩ := readMark?_eq_some marked
  have noMark : '(' ∉ name := fun inside => absurd (word '(' inside) (by decide)
  have regroup : front ++ (sized.toList ++ (blanks ++ '(' :: opened)) =
      (front ++ sized.toList ++ blanks) ++ '(' :: opened := by
    simp
  rw [regroup] at whole
  obtain ⟨same, -, -⟩ := (List.append_cons_inj_of_notMem noMark absent).mp whole
  have unblank : blanks = [] := by
    refine List.eq_nil_iff_forall_not_mem.mpr fun c inside => ?_
    have plain := isAsciiBlank_of_isWordChar (word c (same ▸ List.mem_append_right _ inside))
    rw [blank c inside] at plain
    contradiction
  rw [unblank, List.append_nil] at same
  exact other sized member ⟨front, same.symm⟩

theorem not_suffix_of_ends (ends : "int".toList <:+ name ∨ "serial".toList <:+ name)
    {names : List String} (known : names ⊆ ["varchar", "char", "numeric", "decimal"]) :
    ∀ sized ∈ names, ¬ sized.toList <:+ name := by
  have table : ∀ sized ∈ ["varchar", "char", "numeric", "decimal"], ∀ integer ∈ ["int", "serial"],
      ¬ sized.toList <:+ integer.toList ∧ ¬ integer.toList <:+ sized.toList := by decide +kernel
  intro sized member suffixed
  have apart (integer : String) (inside : integer ∈ ["int", "serial"])
      (ended : integer.toList <:+ name) : False :=
    (List.suffix_or_suffix_of_suffix suffixed ended).elim
    (table sized (known member) integer inside).1
      (table sized (known member) integer inside).2
  exact ends.elim (apart "int" (by decide)) (apart "serial" (by decide))

/-- A word that ends, in any case of its letters, like the name of an integer type. -/
structure IsIntegerName (name : List Char) : Prop where
  word : ∀ c ∈ name, isWordChar c = true
  ends : "int".toList <:+ name.map asciiLower ∨ "serial".toList <:+ name.map asciiLower

/-- Spaces and ASCII letters. -/
def IsSpaced (text : List Char) : Prop :=
  ∀ c ∈ text, c = ' ' ∨ c.isAlpha = true

theorem IsIntegerName.nonempty (integer : IsIntegerName name) : name ≠ [] := by
  rintro rfl
  have ends := integer.ends
  simp at ends

theorem isWordChar_asciiLower (word : isWordChar c = true) : isWordChar (asciiLower c) = true := by
  rw [isWordChar_iff, Text.toNat_asciiLower]
  rw [isWordChar_iff] at word
  split_ifs <;> omega

theorem IsIntegerName.lowered (integer : IsIntegerName name) :
    ∀ c ∈ name.map asciiLower, isWordChar c = true := by
  intro c member
  obtain ⟨d, inside, rfl⟩ := List.mem_map.mp member
  exact isWordChar_asciiLower (integer.word d inside)

theorem splitSize_of_lower {raw : String} (word : ∀ c ∈ name, isWordChar c = true)
    (ends : "int".toList <:+ name ∨ "serial".toList <:+ name) (number : IsNumber digits)
    (absent : '(' ∉ rest)
    (whole : Text.lower (Text.trim raw.toList) = name ++ '(' :: (digits ++ ')' :: rest)) :
    splitSize raw = (String.ofList (name ++ rest), 0) := by
  have noMark : '(' ∉ digits ++ ')' :: rest := by
    have ofDigits : '(' ∉ digits := fun inside => absurd (number.digits '(' inside) (by decide)
    simp [ofDigits, absent]
  rw [splitSize, whole,
    findSized?_of_name readWidth?_isSome word noMark (not_suffix_of_ends ends (by simp)),
    findSized?_of_name readPrecision?_isSome word noMark (not_suffix_of_ends ends (by simp)),
    dropWidths_of_width word ends number absent]

theorem IsSpaced.lower_absent {c : Char} (spaced : IsSpaced text) (mark : c ≠ ' ')
    (low : c.toNat < 65) : c ∉ text.map asciiLower := by
  intro member
  obtain ⟨d, inside, same⟩ := List.mem_map.mp member
  obtain rfl := Text.eq_of_asciiLower_eq (by omega) same
  rcases spaced d inside with rfl | letter
  · exact mark rfl
  · rw [Text.isAlpha_iff] at letter
    omega

/-- A text of spaces and letters ends with spaces that trimming takes, whatever stands before it. -/
theorem IsSpaced.exists_body (spaced : IsSpaced text) : ∃ body spaces, text = body ++ spaces ∧
    IsSpaced body ∧ (∀ c ∈ spaces, c = ' ') ∧ ∀ front, Text.IsBare front → front ≠ [] →
      Text.trim (front ++ text) = front ++ body := by
  have split : text = Text.trimEnd text ++ text.rtakeWhile isBlank :=
    List.rdropWhile_append_rtakeWhile.symm
  refine ⟨Text.trimEnd text, text.rtakeWhile isBlank, split, ?_, ?_, fun front bare some => ?_⟩
  · exact fun c member => spaced c ((Text.trimEnd_starts text).subset member)
  · intro c member
    have blank : isBlank c = true := List.mem_rtakeWhile_imp member
    refine (spaced c ((List.rtakeWhile_suffix isBlank text).subset member)).resolve_right
      fun letter => ?_
    rw [isBlank_of_isWordChar (isWordChar_iff.mpr ?_)] at blank
    · contradiction
    · rw [Text.isAlpha_iff] at letter
      omega
  · have core : Text.IsBare (front ++ Text.trimEnd text) :=
      bare.append some fun _ => Text.trimEnd_getLast?
    have around : Text.trim ([] ++ (front ++ Text.trimEnd text) ++ text.rtakeWhile isBlank) =
        front ++ Text.trimEnd text :=
      core.trim_around (List.forall_mem_nil _) fun _ => List.mem_rtakeWhile_imp
    rwa [List.nil_append, List.append_assoc, ← split] at around

theorem lt_of_isWordChar (word : isWordChar c = true) : c.toNat < 128 := by
  rw [isWordChar_iff] at word
  omega

theorem IsSpaced.lt (spaced : IsSpaced text) : ∀ c ∈ text, c.toNat < 128 := by
  intro c member
  rcases spaced c member with rfl | letter
  · decide
  · rw [Text.isAlpha_iff] at letter
    omega

theorem isBare_of_word (word : ∀ c ∈ name, isWordChar c = true) : Text.IsBare name where
  first c head := isBlank_of_isWordChar (word c (List.mem_of_mem_head? head))
  last c last := isBlank_of_isWordChar (word c (List.mem_of_getLast? last))

theorem IsNumber.map_asciiLower (number : IsNumber digits) : digits.map asciiLower = digits :=
  (List.map_congr_left fun c member => Text.asciiLower_of_lt (by
    have digit := Text.isDigit_iff.mp (number.digits c member)
    omega)).trans (List.map_id digits)

/-- An integer type with a display width is its trimmed small text without the width. -/
theorem splitSize_of_width {raw : String} {back : List Char} (integer : IsIntegerName name)
    (number : IsNumber digits) (spaced : IsSpaced back)
    (whole : raw.toList = name ++ '(' :: (digits ++ ')' :: back)) :
    splitSize raw = (String.ofList (Text.lower (Text.trim (name ++ back))), 0) := by
  obtain ⟨body, spaces, -, spacedBody, -, trims⟩ := spaced.exists_body
  have bareName := isBare_of_word integer.word
  have bareWidth : Text.IsBare (name ++ '(' :: (digits ++ [')'])) := by
    refine bareName.append integer.nonempty fun c last => ?_
    obtain rfl : ')' = c := by simpa [List.getLast?_cons] using last
    decide
  have trimmed := trims name bareName integer.nonempty
  have trimmedWidth : Text.trim raw.toList = name ++ '(' :: (digits ++ ')' :: body) := by
    simpa [whole] using trims _ bareWidth (by simp)
  have ascii : ∀ c ∈ name, c.toNat < 128 := fun c member => lt_of_isWordChar (integer.word c member)
  have asciiDigits : ∀ c ∈ digits, c.toNat < 128 := fun c member =>
    lt_of_isWordChar (isWordChar_of_isDigit (number.digits c member))
  have lowered : Text.lower (name ++ body) = name.map asciiLower ++ body.map asciiLower := by
    rw [Text.lower_of_ascii (by simpa [or_imp, forall_and] using ⟨ascii, spacedBody.lt⟩),
      List.map_append]
  have loweredWidth : Text.lower (Text.trim raw.toList) =
      name.map asciiLower ++ '(' :: (digits ++ ')' :: body.map asciiLower) := by
    rw [trimmedWidth, Text.lower_of_ascii]
    · have marks : asciiLower '(' = '(' ∧ asciiLower ')' = ')' := by decide
      simp [number.map_asciiLower, marks]
    · simpa [or_imp, forall_and] using ⟨ascii, asciiDigits, spacedBody.lt⟩
  have absent := spacedBody.lower_absent (c := '(') (by decide) (by decide)
  rw [trimmed, lowered, splitSize_of_lower integer.lowered integer.ends number absent loweredWidth]

end SqlMigrations.Schema
