import Mathlib.Data.List.Infix
import SqlMigrations.Text.Search

namespace SqlMigrations.Text

variable {pattern front text : List Char}

theorem splitAll_eq_splitOn (mark : Char) (text : List Char) :
    splitAll mark text = text.splitOn mark := by
  induction text with
  | nil => rfl
  | cons c text induction =>
    rw [List.splitOn_cons_eq_if_modifyHead, splitAll, induction]
    by_cases same : c = mark
    · simp [same]
    · cases parts : text.splitOn mark with
      | nil => exact absurd parts (List.splitOn_ne_nil mark text)
      | cons part parts => simp [same]

theorem joinAll_append (mark : Char) {left right : List (List Char)} (first : left ≠ [])
    (second : right ≠ []) :
    joinAll mark (left ++ right) = joinAll mark left ++ mark :: joinAll mark right := by
  induction left with
  | nil => contradiction
  | cons part left induction =>
    cases left with
    | nil =>
      cases right with
      | nil => contradiction
      | cons next right => rfl
    | cons next left =>
      have step (others : List (List Char)) : joinAll mark (part :: next :: others) =
          part ++ mark :: joinAll mark (next :: others) := rfl
      have later := induction (List.cons_ne_nil next left)
      simp only [List.cons_append] at later ⊢
      rw [step, step, later, List.append_assoc, List.cons_append]

theorem joinAll_eq_intercalate (mark : Char) (parts : List (List Char)) :
    joinAll mark parts = [mark].intercalate parts := by
  induction parts with
  | nil => rfl
  | cons part parts induction =>
    cases parts with
    | nil => simp [joinAll]
    | cons next parts =>
      rw [List.intercalate_cons_cons, ← induction, List.append_assoc, List.singleton_append]
      rfl

theorem splitAll_joinAll {mark : Char} {parts : List (List Char)}
    (absent : ∀ part ∈ parts, mark ∉ part) (some : parts ≠ []) :
    splitAll mark (joinAll mark parts) = parts := by
  rw [splitAll_eq_splitOn, joinAll_eq_intercalate, List.splitOn_intercalate mark absent some]

/-- What a text ends with stands behind every mark that it lacks. -/
theorem stripEnd?_append {c : Char} {back : List Char} (absent : c ∉ back)
    (front text : List Char) :
    stripEnd? back (front ++ c :: text) =
      (stripEnd? back text).map fun rest => front ++ c :: rest := by
  refine Option.ext fun rest => ?_
  simp only [Option.map_eq_some_iff, stripEnd?_eq_some_iff]
  constructor
  · intro whole
    rcases List.append_eq_append_iff.mp whole with ⟨middle, rfl, tail⟩ | ⟨middle, rfl, tail⟩
    · cases middle with
      | nil =>
        rw [List.nil_append] at tail
        exact absurd (tail ▸ List.mem_cons_self) absent
      | cons d middle =>
        obtain ⟨rfl, later⟩ := List.cons.inj tail
        exact ⟨middle, later, rfl⟩
    · exact absurd (tail ▸ List.mem_append_right middle List.mem_cons_self) absent
  · rintro ⟨rest, rfl, rfl⟩
    rw [List.append_assoc, List.cons_append]

theorem stripStart?_isSome_iff : (stripStart? pattern text).isSome = true ↔ pattern <+: text := by
  simp only [Option.isSome_iff_exists, stripStart?_eq_some_iff]
  exact ⟨fun ⟨rest, whole⟩ => ⟨rest, whole.symm⟩, fun ⟨rest, whole⟩ => ⟨rest, whole.symm⟩⟩

theorem occursIn_iff_infix : occursIn pattern text = true ↔ pattern <:+: text := by
  induction text with
  | nil =>
    have empty := @stripStart?_isSome_iff pattern []
    rwa [List.prefix_nil, ← List.infix_nil,
      ← Option.isSome_map (f := fun rest => ([], rest))] at empty
  | cons c text induction =>
    rw [List.infix_cons_iff, ← stripStart?_isSome_iff, ← induction, occursIn, occursIn, splitOnce?]
    cases stripStart? pattern (c :: text) <;> simp

/-- An infix that lacks a character lies on one side of it. -/
theorem infix_around {c : Char} {back : List Char} (absent : c ∉ pattern) :
    pattern <:+: front ++ c :: back ↔ pattern <:+: front ∨ pattern <:+: back := by
  constructor
  · intro inside
    rcases List.infix_append_iff_ne_nil.mp inside with
      left | right | ⟨start, rest, _, further, rfl, _, ahead⟩
    · exact .inl left
    · rcases List.infix_cons_iff.mp right with atMark | later
      · cases pattern with
        | nil => exact .inr List.nil_infix
        | cons d pattern =>
          obtain ⟨rfl, _⟩ := List.cons_prefix_cons.mp atMark
          exact absurd List.mem_cons_self absent
      · exact .inr later
    · cases rest with
      | nil => contradiction
      | cons d rest =>
        obtain ⟨rfl, _⟩ := List.cons_prefix_cons.mp ahead
        exact absurd (by simp) absent
  · rintro (left | right)
    · exact left.trans List.infix_append_left
    · exact (List.infix_cons right).trans List.infix_append_right

theorem splitFirst?_eq_none_iff {mark : Char} : splitFirst? mark text = none ↔ mark ∉ text := by
  constructor
  · intro none member
    obtain ⟨before, after, whole⟩ := List.eq_append_cons_of_mem member
    rw [splitFirst?_eq_some_iff.mpr whole] at none
    contradiction
  · intro absent
    cases cut : splitFirst? mark text with
    | none => rfl
    | some parts =>
      obtain ⟨before, after⟩ := parts
      obtain ⟨rfl, _⟩ := splitFirst?_eq_some_iff.mp cut
      exact absurd (by simp) absent

theorem splitFirst?_of_not_mem {mark : Char} (absent : mark ∉ text) :
    splitFirst? mark text = none :=
  splitFirst?_eq_none_iff.mpr absent

theorem splitLast?_eq_none_iff {mark : Char} : splitLast? mark text = none ↔ mark ∉ text := by
  rw [splitLast?, Option.map_eq_none_iff, splitFirst?_eq_none_iff, List.mem_reverse]

/-- A character that occurs in a text has a last place there. -/
theorem exists_last_mark {mark : Char} (member : mark ∈ text) :
    ∃ before after, text = before ++ mark :: after ∧ mark ∉ after := by
  obtain ⟨after, before, split, absent⟩ := List.eq_append_cons_of_mem (List.mem_reverse.mpr member)
  refine ⟨before.reverse, after.reverse, ?_, by simpa using absent⟩
  rw [← List.reverse_inj, split]
  simp

theorem splitOnce?_eq_some_iff {before after : List Char} (nonempty : pattern ≠ []) :
    splitOnce? pattern text = some (before, after) ↔
      text = before ++ pattern ++ after ∧ ¬ pattern <:+: before ++ pattern.dropLast := by
  have shorter : ¬ pattern <:+: pattern.dropLast := fun inside => by
    have fits := inside.length_le
    have positive := List.length_pos_iff.mpr nonempty
    rw [List.length_dropLast] at fits
    omega
  induction text generalizing before with
  | nil =>
    cases pattern with
    | nil => contradiction
    | cons p pattern => simp [splitOnce?, stripStart?]
  | cons c text induction =>
    rw [splitOnce?]
    cases start : stripStart? pattern (c :: text) with
    | some rest =>
      have whole := stripStart?_eq_some_iff.mp start
      simp only [Option.some.injEq, Prod.mk.injEq]
      cases before with
      | nil => simp [whole, shorter]
      | cons d before =>
        refine iff_of_false (by simp) fun both => ?_
        obtain ⟨split, absent⟩ := both
        apply absent
        have front : pattern <+: d :: before ++ pattern.dropLast := by
          have atStart : pattern <+: c :: text := ⟨rest, whole.symm⟩
          refine List.prefix_of_prefix_length_le atStart ?_ ?_
          · rw [split]
            exact ((List.prefix_append_right_inj (d :: before)).mpr
              (List.dropLast_prefix pattern)).trans (List.prefix_append _ after)
          · simp only [List.length_append, List.length_cons, List.length_dropLast]
            omega
        exact front.isInfix
    | none =>
      have atStart : ¬ pattern <+: c :: text := fun front => by
        rw [← stripStart?_isSome_iff, start] at front
        contradiction
      cases before with
      | nil =>
        refine iff_of_false (by cases splitOnce? pattern text <;> simp) fun both => ?_
        exact atStart ⟨after, both.1.symm⟩
      | cons d before =>
        have below : (splitOnce? pattern text).map (fun parts => (c :: parts.1, parts.2)) =
            some (d :: before, after) ↔ c = d ∧ splitOnce? pattern text = some (before, after) := by
          cases splitOnce? pattern text <;> simp [Prod.ext_iff, and_assoc]
        simp only [below, induction, List.cons_append, List.cons.injEq, List.infix_cons_iff, not_or]
        constructor
        · rintro ⟨rfl, split, absent⟩
          refine ⟨⟨rfl, split⟩, fun front => atStart (front.trans ?_), absent⟩
          rw [split]
          exact (List.prefix_cons_inj c).mpr (((List.prefix_append_right_inj before).mpr
            (List.dropLast_prefix pattern)).trans (List.prefix_append _ after))
        · rintro ⟨⟨rfl, split⟩, _, absent⟩
          exact ⟨rfl, split, absent⟩

/-- A pattern is not found before the first place of its first character. -/
theorem splitOnce?_append {p : Char} (absent : p ∉ front) :
    splitOnce? (p :: pattern) (front ++ text) =
      (splitOnce? (p :: pattern) text).map fun parts => (front ++ parts.1, parts.2) := by
  induction front with
  | nil => simp
  | cons c front induction =>
    obtain ⟨other, absent⟩ := List.ne_and_not_mem_of_not_mem_cons absent
    rw [List.cons_append, splitOnce?, stripStart?, if_neg other, induction absent, Option.map_map]
    rfl

end SqlMigrations.Text
