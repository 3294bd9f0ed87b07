import SqlMigrations.Proofs.Text.Utf8
import SqlMigrations.Text.Case

namespace SqlMigrations.Text

variable {c : Char} {front back text : List Char}

/-- Whether a character neither has case nor is passed over where a sigma looks for cased ones. -/
structure IsCaseless (c : Char) : Prop where
  counted : inRanges caseIgnorableRanges c.toNat = false
  uncased : inRanges casedRanges c.toNat = false

theorem IsCaseless.not_sigma (caseless : IsCaseless c) : ¬ c.toNat = 0x3A3 := by
  intro sigma
  have cased : inRanges casedRanges 0x3A3 = true := by decide +kernel
  have uncased := caseless.uncased
  rw [sigma, cased] at uncased
  contradiction

theorem startsCased_append (caseless : IsCaseless c) (front back : List Char) :
    startsCased (front ++ c :: back) = startsCased front := by
  induction front with
  | nil => simp [startsCased, caseless.counted, caseless.uncased]
  | cons d front induction =>
    cases ignored : inRanges caseIgnorableRanges d.toNat with
    | true => simpa [startsCased, ignored] using induction
    | false => simp [startsCased, ignored]

/-- What stands before a caseless character has no part in lowering what stands after it. -/
theorem lowerAfter_behind (caseless : IsCaseless c) (before passed text : List Char) :
    lowerAfter (before ++ c :: passed) text = lowerAfter before text := by
  induction text generalizing before with
  | nil => rfl
  | cons d text induction =>
    rw [lowerAfter, lowerAfter, startsCased_append caseless, ← List.cons_append, induction]

theorem lowerAfter_append (caseless : IsCaseless c) (before front back : List Char) :
    lowerAfter before (front ++ c :: back) = lowerAfter before front ++
      lowerAfter (front.reverse ++ before) (c :: back) := by
  induction front generalizing before with
  | nil => rfl
  | cons d front induction =>
    rw [List.cons_append, lowerAfter, lowerAfter, startsCased_append caseless, induction,
      List.reverse_cons, List.append_assoc front.reverse, List.singleton_append, List.append_assoc]

theorem lower_append (caseless : IsCaseless c) (front back : List Char) :
    lower (front ++ c :: back) = lower front ++ lowerChar c ++ lower back := by
  have behind := lowerAfter_behind caseless [] front.reverse back
  rw [List.nil_append] at behind
  rw [lower, lowerAfter_append caseless, List.append_nil, lowerAfter, if_neg caseless.not_sigma,
    behind, ← List.append_assoc, lower, lower]

theorem lowerAfter_of_ascii (ascii : ∀ c ∈ front, c.toNat < 128) (before back : List Char) :
    lowerAfter before (front ++ back) =
      front.map asciiLower ++ lowerAfter (front.reverse ++ before) back := by
  induction front generalizing before with
  | nil => rfl
  | cons c front induction =>
    obtain ⟨first, others⟩ := List.forall_mem_cons.mp ascii
    have noSigma : ¬ c.toNat = 0x3A3 := by omega
    rw [List.cons_append, lowerAfter, if_neg noSigma, lowerChar, if_pos first, induction others,
      List.map_cons, List.reverse_cons, List.append_assoc (front.reverse), List.singleton_append,
      List.singleton_append, List.cons_append]

theorem lower_of_ascii (ascii : ∀ c ∈ text, c.toNat < 128) : lower text = text.map asciiLower := by
  have whole := lowerAfter_of_ascii ascii [] []
  rwa [List.append_nil, lowerAfter, List.append_nil] at whole

theorem char_le_iff {c d : Char} : c ≤ d ↔ c.toNat ≤ d.toNat := by
  rw [Char.le_def, UInt32.le_iff_toNat_le, Char.toNat_val, Char.toNat_val]

theorem toNat_asciiLower (c : Char) : (asciiLower c).toNat =
    if 65 ≤ c.toNat ∧ c.toNat ≤ 90 then c.toNat + 32 else c.toNat := by
  simp only [asciiLower, char_le_iff, Char.reduceToNat]
  split_ifs with capital
  · exact Utf8.val_ofNat (.inl (by omega))
  · rfl

theorem toNat_asciiUpper (c : Char) : (asciiUpper c).toNat =
    if 97 ≤ c.toNat ∧ c.toNat ≤ 122 then c.toNat - 32 else c.toNat := by
  simp only [asciiUpper, char_le_iff, Char.reduceToNat]
  split_ifs with small
  · exact Utf8.val_ofNat (.inl (by omega))
  · rfl

theorem asciiLower_of_lt (below : c.toNat < 65) : asciiLower c = c := by
  rw [← Char.toNat_inj, toNat_asciiLower]
  split_ifs <;> omega

/-- What is lowered to a character before the small letters is that character. -/
theorem eq_of_asciiLower_eq {d : Char} (below : d.toNat < 97) (same : asciiLower c = d) :
    c = d := by
  subst same
  rw [← Char.toNat_inj]
  have value := toNat_asciiLower c
  split_ifs at value <;> omega

theorem asciiLower_asciiLower (c : Char) : asciiLower (asciiLower c) = asciiLower c := by
  rw [← Char.toNat_inj, toNat_asciiLower (asciiLower c)]
  have value := toNat_asciiLower c
  split_ifs at value ⊢ <;> omega

theorem asciiLower_asciiUpper (c : Char) : asciiLower (asciiUpper c) = asciiLower c := by
  rw [← Char.toNat_inj, toNat_asciiLower, toNat_asciiLower]
  have value := toNat_asciiUpper c
  split_ifs at value ⊢ <;> omega

theorem asciiUpper_asciiLower (c : Char) : asciiUpper (asciiLower c) = asciiUpper c := by
  rw [← Char.toNat_inj, toNat_asciiUpper, toNat_asciiUpper]
  have value := toNat_asciiLower c
  split_ifs at value ⊢ <;> omega

/-- A word in small letters is found in any case by looking for its capitals in the upper case. -/
theorem asciiUpper_eq_iff {w : Char} (small : asciiLower w = w) :
    asciiUpper c = asciiUpper w ↔ asciiLower c = w := by
  constructor
  · intro same
    rw [← asciiLower_asciiUpper, same, asciiLower_asciiUpper, small]
  · rintro rfl
    rw [asciiUpper_asciiLower]

theorem stripWord?_eq_some_iff {word rest : List Char} :
    stripWord? word text = some rest ↔
      ∃ front, text = front ++ rest ∧ front.map asciiLower = word := by
  induction word generalizing text with
  | nil =>
    have empty : (∃ front : List Char, text = front ++ rest ∧ front.map asciiLower = []) ↔
        text = rest := by
      simp [List.map_eq_nil_iff]
    rw [empty]
    cases text <;> simp [stripWord?]
  | cons w word induction =>
    cases text with
    | nil => simp [stripWord?]
    | cons c text =>
      simp only [stripWord?, Option.ite_none_right_eq_some, induction]
      constructor
      · rintro ⟨rfl, front, rfl, rfl⟩
        exact ⟨c :: front, rfl, rfl⟩
      · rintro ⟨front, split, lowered⟩
        cases front with
        | nil => cases lowered
        | cons f front =>
          obtain ⟨rfl, rfl⟩ := List.cons.inj split
          obtain ⟨rfl, rfl⟩ := List.cons.inj lowered
          exact ⟨rfl, front, rfl, rfl⟩

theorem not_mem_of_lowered {word : List Char} (lowered : text.map asciiLower = word)
    (absent : asciiLower c ∉ word) : c ∉ text := fun member =>
  absent (lowered ▸ List.mem_map_of_mem member)

theorem lower_lower_of_ascii (ascii : ∀ c ∈ text, c.toNat < 128) :
    lower (lower text) = lower text := by
  have again : ∀ c ∈ text.map asciiLower, c.toNat < 128 := by
    intro c member
    obtain ⟨d, inside, rfl⟩ := List.mem_map.mp member
    have below := ascii d inside
    rw [toNat_asciiLower]
    split_ifs <;> omega
  rw [lower_of_ascii ascii, lower_of_ascii again, List.map_map]
  exact List.map_congr_left fun c _ => asciiLower_asciiLower c

theorem isAlpha_iff : c.isAlpha = true ↔
    (65 ≤ c.toNat ∧ c.toNat ≤ 90) ∨ (97 ≤ c.toNat ∧ c.toNat ≤ 122) := by
  have upper : c.isUpper = decide (65 ≤ c.toNat ∧ c.toNat ≤ 90) := rfl
  have lower : c.isLower = (decide (97 ≤ c.toNat) && decide (c.toNat ≤ 122)) := rfl
  have either : c.isAlpha = (c.isUpper || c.isLower) := rfl
  simp only [either, upper, lower, Bool.or_eq_true, Bool.and_eq_true, decide_eq_true_eq]

theorem ofNat_eq_space {code : Nat} (space : Char.ofNat code = ' ') : code = 32 := by
  by_cases valid : code.isValidChar
  · have value := Utf8.val_ofNat valid
    rw [space] at value
    exact value.symm
  · rw [Char.ofNat, dif_neg valid] at space
    contradiction

theorem mapByRuns_upper_ne_space {code : Nat} (beyond : 128 ≤ code) :
    mapByRuns upperRuns code ≠ 32 := by
  have table : ∀ run ∈ upperRuns, 32 < (run.first : Int) + run.offset := by decide +kernel
  rw [mapByRuns]
  cases found : upperRuns.findSome? fun run => run.image? code with
  | none =>
    rw [Option.getD_none]
    omega
  | some image =>
    obtain ⟨run, member, mapped⟩ := List.exists_of_findSome?_eq_some found
    have high := table run member
    rw [CaseRun.image?, Option.ite_none_right_eq_some] at mapped
    obtain ⟨⟨lower, -⟩, same⟩ := mapped
    have value := Option.some.inj same
    rw [Option.getD_some]
    simp only [Int.ofNat_eq_natCast] at value
    omega

theorem upperChar_ne_nil (c : Char) : upperChar c ≠ [] := by
  have table : ∀ entry ∈ upperExpansions, entry.2 ≠ [] := by decide +kernel
  unfold upperChar
  split_ifs with ascii
  · exact List.cons_ne_nil _ _
  · split
    · rename_i entry found
      simpa using table entry (List.mem_of_find?_eq_some found)
    · exact List.cons_ne_nil _ _

theorem asciiUpper_eq_space (space : asciiUpper c = ' ') : c = ' ' := by
  have value := toNat_asciiUpper c
  rw [space] at value
  simp only [← Char.toNat_inj, Char.reduceToNat] at value ⊢
  split_ifs at value <;> omega

theorem space_mem_upperChar (member : ' ' ∈ upperChar c) : c = ' ' := by
  have table : ∀ entry ∈ upperExpansions, ∀ code ∈ entry.2, code ≠ 32 := by decide +kernel
  unfold upperChar at member
  split_ifs at member with ascii
  · exact asciiUpper_eq_space (List.mem_singleton.mp member).symm
  · split at member
    · rename_i entry found
      obtain ⟨code, inside, space⟩ := List.mem_map.mp member
      exact absurd (ofNat_eq_space space)
        (table entry (List.mem_of_find?_eq_some found) code inside)
    · have space := ofNat_eq_space (List.mem_singleton.mp member).symm
      exact absurd space (mapByRuns_upper_ne_space (by omega))

end SqlMigrations.Text
