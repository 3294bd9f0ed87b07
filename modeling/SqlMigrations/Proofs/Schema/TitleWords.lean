import SqlMigrations.Proofs.Text.CaseMapping
import SqlMigrations.Proofs.Text.Search
import SqlMigrations.Schema.Title

namespace SqlMigrations.Schema

open Text (joinAll splitAll stripEnd?)

variable {front parts : List (List Char)} {last : List Char}

theorem titleWord_ne_nil {word : List Char} (nonempty : word ≠ []) : titleWord word ≠ [] := by
  obtain ⟨c, rest, rfl⟩ := List.exists_cons_of_ne_nil nonempty
  have first := Text.upperChar_ne_nil c
  rw [titleWord]
  split_ifs
  · simp [Text.upper, first]
  · simp [capitalize, first]

theorem space_not_mem_titleWord {word : List Char} (unspaced : ' ' ∉ word) :
    ' ' ∉ titleWord word := by
  rw [titleWord]
  split_ifs
  · intro member
    obtain ⟨c, inside, space⟩ := List.mem_flatMap.mp member
    exact unspaced (Text.space_mem_upperChar space ▸ inside)
  · cases word with
    | nil => exact unspaced
    | cons c rest =>
      obtain ⟨other, absent⟩ := List.ne_and_not_mem_of_not_mem_cons unspaced
      rw [capitalize, List.mem_append, not_or]
      exact ⟨fun space => other (Text.space_mem_upperChar space).symm, absent⟩

theorem titleWord_id : titleWord ['i', 'd'] = ['I', 'D'] := by
  decide +kernel

/-- Whether a text can be a part of a name that underscores join. -/
structure IsPart (part : List Char) : Prop where
  nonempty : part ≠ []
  unspaced : ' ' ∉ part
  unjoined : '_' ∉ part

def titleParts (front : List (List Char)) (last : List Char) : List (List Char) :=
  match stripEnd? ['I', 'd'] last with
  | some stem => if front = [] ∧ stem = [] then [last] else front ++ [stem, ['i', 'd']]
  | none => front ++ [last]

theorem titleParts_of_none (absent : stripEnd? ['I', 'd'] last = none) :
    titleParts front last = front ++ [last] := by
  rw [titleParts, absent]

theorem titleParts_alone : titleParts [] ['I', 'd'] = [['I', 'd']] :=
  rfl

theorem titleParts_append {stem : List Char} (more : ¬ (front = [] ∧ stem = [])) :
    titleParts front (stem ++ ['I', 'd']) = front ++ [stem, ['i', 'd']] := by
  rw [titleParts, Text.stripEnd?_eq_some_iff.mpr rfl]
  exact if_neg more

theorem splitIdSuffix_of_none {name : List Char} (absent : stripEnd? ['I', 'd'] name = none) :
    splitIdSuffix name = name := by
  rw [splitIdSuffix, absent]

theorem splitIdSuffix_append {stem : List Char} (nonempty : stem ≠ []) :
    splitIdSuffix (stem ++ ['I', 'd']) = stem ++ ['_', 'i', 'd'] := by
  obtain ⟨c, head, rfl⟩ := List.exists_cons_of_ne_nil nonempty
  rw [splitIdSuffix, Text.stripEnd?_eq_some_iff.mpr rfl]

/-- A last part is without the suffix, or stands alone and is nothing else, or has a stem or parts
before it. -/
theorem idSuffix_cases (front : List (List Char)) (last : List Char) :
    stripEnd? ['I', 'd'] last = none ∨ (front = [] ∧ last = ['I', 'd']) ∨
      ∃ stem, last = stem ++ ['I', 'd'] ∧ ¬ (front = [] ∧ stem = []) := by
  cases found : stripEnd? ['I', 'd'] last with
  | none => exact .inl rfl
  | some stem =>
    rw [Text.stripEnd?_eq_some_iff] at found
    subst found
    by_cases bare : front = [] ∧ stem = []
    · obtain ⟨rfl, rfl⟩ := bare
      exact .inr (.inl ⟨rfl, rfl⟩)
    · exact .inr (.inr ⟨stem, rfl, bare⟩)

theorem splitIdSuffix_joinAll (front : List (List Char)) (last : List Char) :
    splitIdSuffix (joinAll '_' (front ++ [last])) = joinAll '_' (titleParts front last) := by
  rcases idSuffix_cases front last with absent | ⟨rfl, rfl⟩ | ⟨stem, rfl, more⟩
  · rw [titleParts_of_none absent]
    apply splitIdSuffix_of_none
    by_cases alone : front = []
    · simpa [alone, joinAll] using absent
    · rw [Text.joinAll_append '_' alone (List.cons_ne_nil _ _), joinAll,
        Text.stripEnd?_append (by decide), absent, Option.map_none]
  · rfl
  · rw [titleParts_append more]
    by_cases alone : front = []
    · subst alone
      have nonempty : stem ≠ [] := fun bare => more ⟨rfl, bare⟩
      exact (splitIdSuffix_append nonempty).trans (by simp [joinAll])
    · have joined (others : List (List Char)) (some : others ≠ []) :=
        Text.joinAll_append '_' alone some
      have regroup : joinAll '_' (front ++ [stem ++ ['I', 'd']]) =
          (joinAll '_' front ++ '_' :: stem) ++ ['I', 'd'] := by
        simp [joined, joinAll]
      rw [regroup, splitIdSuffix_append (by simp), joined _ (List.cons_ne_nil _ _)]
      simp [joinAll]

theorem titleParts_plain {c : Char} (absent : ∀ part ∈ front ++ [last], c ∉ part) (other : c ≠ 'i')
    (another : c ≠ 'd') : ∀ part ∈ titleParts front last, c ∉ part := by
  rcases idSuffix_cases front last with unsuffixed | ⟨rfl, rfl⟩ | ⟨stem, rfl, more⟩
  · rwa [titleParts_of_none unsuffixed]
  · exact absent
  · rw [titleParts_append more]
    simp only [List.mem_append, List.mem_singleton, or_imp, forall_and, forall_eq,
      not_or] at absent
    simpa [or_imp, forall_and, other, another] using ⟨absent.1, absent.2.1⟩

theorem titleParts_ne_nil (front : List (List Char)) (last : List Char) :
    titleParts front last ≠ [] := by
  rcases idSuffix_cases front last with absent | ⟨rfl, rfl⟩ | ⟨stem, rfl, more⟩
  · simp [titleParts_of_none absent]
  · simp [titleParts_alone]
  · simp [titleParts_append more]

theorem title_words (each : ∀ part ∈ front ++ [last], IsPart part) :
    (title (String.ofList (['_'].intercalate (front ++ [last])))).toList.splitOn ' ' =
      (titleParts front last).map titleWord := by
  have unspaced := titleParts_plain (fun part member => (each part member).unspaced)
    (by decide) (by decide)
  have unjoined := titleParts_plain (fun part member => (each part member).unjoined)
    (by decide) (by decide)
  have some := titleParts_ne_nil front last
  rw [title, String.toList_ofList, String.toList_ofList, titleWords, ← Text.joinAll_eq_intercalate,
    splitIdSuffix_joinAll, Text.splitAll_joinAll unjoined some, ← Text.splitAll_eq_splitOn,
    Text.splitAll_joinAll _ (by simpa using some)]
  intro word member
  obtain ⟨part, inside, rfl⟩ := List.mem_map.mp member
  exact space_not_mem_titleWord (unspaced part inside)

/-- Whether the last part ends with `Id` in camel case, as a word of its own. -/
def EndsWithId (parts : List (List Char)) : Prop :=
  ∃ last ∈ parts.getLast?, 2 < last.length ∧ ['I', 'd'] <:+ last

instance (parts : List (List Char)) : Decidable (EndsWithId parts) :=
  inferInstanceAs (Decidable (∃ last ∈ parts.getLast?, 2 < last.length ∧ ['I', 'd'] <:+ last))

/-- Words for the parts of a name, none of them empty: one for each part, and one more for an `Id`
in camel case. -/
structure ReadsByPart (parts words : List (List Char)) : Prop where
  nonempty : ∀ word ∈ words, word ≠ []
  count : words.length = parts.length + if EndsWithId parts then 1 else 0
  ownWord : EndsWithId parts → words.getLast? = some ['I', 'D']

theorem endsWithId_append : EndsWithId (front ++ [last]) ↔
    2 < last.length ∧ ∃ stem, last = stem ++ ['I', 'd'] := by
  simp [EndsWithId, List.IsSuffix, eq_comm]

theorem readsByPart_of_not_endsWithId (each : ∀ part ∈ parts, IsPart part)
    (plain : ¬ EndsWithId parts) : ReadsByPart parts (parts.map titleWord) where
  nonempty := by
    simpa using fun part member => titleWord_ne_nil (each part member).nonempty
  count := by simp [plain]
  ownWord suffixed := absurd suffixed plain

theorem readsByPart_of_stem {stem : List Char} (each : ∀ part ∈ front, IsPart part)
    (nonempty : stem ≠ []) :
    ReadsByPart (front ++ [stem ++ ['I', 'd']]) ((front ++ [stem, ['i', 'd']]).map titleWord) := by
  have suffixed : EndsWithId (front ++ [stem ++ ['I', 'd']]) := by
    have positive := List.length_pos_iff.mpr nonempty
    refine endsWithId_append.mpr ⟨?_, stem, rfl⟩
    simp only [List.length_append, List.length_cons, List.length_nil]
    omega
  refine ⟨?_, by simp [suffixed], fun _ => by simp [titleWord_id]⟩
  simpa [or_imp, forall_and, titleWord_id] using
    ⟨fun part member => titleWord_ne_nil (each part member).nonempty, titleWord_ne_nil nonempty⟩

theorem not_readsByPart_of_empty (parts : List (List Char)) {words : List (List Char)}
    (empty : [] ∈ words) : ¬ ReadsByPart parts words :=
  fun reads => reads.nonempty [] empty rfl

/-- A title has a word for each part of its name, and a word of its own for an `Id` in camel case,
exactly when `Id` is not the last of several parts. -/
theorem title_reads_by_part_iff (some : parts ≠ []) (each : ∀ part ∈ parts, IsPart part) :
    ReadsByPart parts ((title (String.ofList (['_'].intercalate parts))).toList.splitOn ' ') ↔
      ¬ (parts.getLast? = Option.some ['I', 'd'] ∧ 1 < parts.length) := by
  obtain ⟨front, last, rfl⟩ := (List.eq_nil_or_concat' parts).resolve_left some
  rw [title_words each, List.getLast?_append, List.getLast?_singleton, Option.some_or]
  rcases idSuffix_cases front last with absent | ⟨rfl, rfl⟩ | ⟨stem, rfl, more⟩
  · rw [titleParts_of_none absent]
    refine iff_of_true (readsByPart_of_not_endsWithId each fun suffixed => ?_) fun own => ?_
    · obtain ⟨-, stem, rfl⟩ := endsWithId_append.mp suffixed
      rw [Text.stripEnd?_eq_some_iff.mpr rfl] at absent
      contradiction
    · rw [Option.some.inj own.1] at absent
      contradiction
  · exact iff_of_true (readsByPart_of_not_endsWithId each (by decide)) (by simp)
  · rw [titleParts_append more]
    by_cases bare : stem = []
    · subst bare
      have behind : front ≠ [] := fun alone => more ⟨alone, rfl⟩
      refine iff_of_false (not_readsByPart_of_empty _ ?_) fun other => other ⟨rfl, ?_⟩
      · simp [titleWord, capitalize, Text.upper]
      · simpa [List.length_pos_iff] using behind
    · refine iff_of_true (readsByPart_of_stem (fun part member => ?_) bare) fun own => ?_
      · exact each part (List.mem_append_left _ member)
      · simpa [bare] using own.1

/-- Parts with a last one in camel case. -/
theorem showId_reads_by_part :
    ReadsByPart ["api".toList, "showId".toList]
      ((title (String.ofList (['_'].intercalate ["api".toList, "showId".toList]))).toList.splitOn
        ' ') := by
  refine (title_reads_by_part_iff (by decide) fun part member => ?_).mpr (by decide)
  simp only [List.mem_cons, List.not_mem_nil, or_false] at member
  rcases member with rfl | rfl <;> exact ⟨by decide, by decide, by decide⟩

/-- An `Id` behind an underscore leaves an empty word in the title. -/
theorem ownId_leaves_empty_word :
    (∀ part ∈ ["user".toList, ['I', 'd']], IsPart part) ∧
      ¬ ReadsByPart ["user".toList, ['I', 'd']]
        ((title (String.ofList (['_'].intercalate ["user".toList, ['I', 'd']]))).toList.splitOn
          ' ') := by
  refine ⟨fun part member => ?_, not_readsByPart_of_empty _ ?_⟩
  · simp only [List.mem_cons, List.not_mem_nil, or_false] at member
    rcases member with rfl | rfl <;> exact ⟨by decide, by decide, by decide⟩
  · decide +kernel

end SqlMigrations.Schema
