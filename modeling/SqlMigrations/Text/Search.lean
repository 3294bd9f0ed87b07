namespace SqlMigrations.Text

/-- What follows `front`, if the text starts with it. -/
def stripStart? : (front text : List Char) → Option (List Char)
  | [], text => some text
  | _ :: _, [] => none
  | f :: front, c :: text => if f = c then stripStart? front text else none

theorem stripStart?_eq_some_iff {front text rest : List Char} :
    stripStart? front text = some rest ↔ text = front ++ rest := by
  induction front generalizing text with
  | nil => simp [stripStart?]
  | cons f front induction =>
    cases text with
    | nil => simp [stripStart?]
    | cons c text =>
      by_cases same : f = c
      · subst same
        simp [stripStart?, induction]
      · have other : ¬ c = f := fun equal => same equal.symm
        simp [stripStart?, same, other]

/-- What precedes `back`, if the text ends with it. -/
def stripEnd? (back text : List Char) : Option (List Char) :=
  (stripStart? back.reverse text.reverse).map List.reverse

theorem stripEnd?_eq_some_iff {back text rest : List Char} :
    stripEnd? back text = some rest ↔ text = rest ++ back := by
  simp only [stripEnd?, Option.map_eq_some_iff, stripStart?_eq_some_iff]
  constructor
  · rintro ⟨reversed, found, rfl⟩
    have whole := congrArg List.reverse found
    simpa using whole
  · rintro rfl
    exact ⟨rest.reverse, by simp, by simp⟩

/-- The parts before and after the first `mark`. -/
def splitFirst? (mark : Char) : List Char → Option (List Char × List Char)
  | [] => none
  | c :: text =>
    if c = mark then some ([], text)
    else (splitFirst? mark text).map (fun parts => (c :: parts.1, parts.2))

theorem splitFirst?_eq_some_iff {mark : Char} {text before after : List Char} :
    splitFirst? mark text = some (before, after) ↔
      text = before ++ mark :: after ∧ mark ∉ before := by
  induction text generalizing before with
  | nil => simp [splitFirst?]
  | cons c text induction =>
    by_cases same : c = mark
    · subst same
      cases before with
      | nil => simp [splitFirst?, eq_comm]
      | cons b before =>
        simp only [splitFirst?, if_true, Option.some.injEq, Prod.mk.injEq, List.cons_append,
          List.cons.injEq, List.mem_cons, not_or]
        constructor
        · intro impossible
          exact absurd impossible.1 (by simp)
        · intro impossible
          exact absurd impossible.1.1 impossible.2.1
    · have other : ¬ mark = c := fun equal => same equal.symm
      cases before with
      | nil => simp [splitFirst?, same]
      | cons b before =>
        cases found : splitFirst? mark text with
        | none =>
          simp only [splitFirst?, same, if_false, found, Option.map_none, reduceCtorEq,
            false_iff, List.cons_append, List.cons.injEq, List.mem_cons, not_or, not_and]
          intro shape _ absent
          have := (@induction before).2 ⟨shape.2, absent⟩
          simp [found] at this
        | some parts =>
          have step := @induction before
          rw [found] at step
          simp only [splitFirst?, same, if_false, found, Option.map_some, Option.some.injEq,
            Prod.mk.injEq, List.cons.injEq, List.cons_append, List.mem_cons, not_or]
          rw [Option.some.injEq, Prod.ext_iff] at step
          constructor
          · rintro ⟨⟨rfl, first⟩, second⟩
            obtain ⟨shape, absent⟩ := step.1 ⟨first, second⟩
            exact ⟨⟨rfl, shape⟩, other, absent⟩
          · rintro ⟨⟨rfl, shape⟩, _, absent⟩
            obtain ⟨first, second⟩ := step.2 ⟨shape, absent⟩
            exact ⟨⟨rfl, first⟩, second⟩

/-- The parts before and after the last `mark`. -/
def splitLast? (mark : Char) (text : List Char) : Option (List Char × List Char) :=
  (splitFirst? mark text.reverse).map (fun parts => (parts.2.reverse, parts.1.reverse))

theorem splitLast?_eq_some_iff {mark : Char} {text before after : List Char} :
    splitLast? mark text = some (before, after) ↔
      text = before ++ mark :: after ∧ mark ∉ after := by
  simp only [splitLast?, Option.map_eq_some_iff, Prod.exists, splitFirst?_eq_some_iff,
    Prod.mk.injEq]
  constructor
  · rintro ⟨left, right, ⟨shape, absent⟩, rfl, rfl⟩
    have whole := congrArg List.reverse shape
    exact ⟨by simpa using whole, by simpa using absent⟩
  · rintro ⟨rfl, absent⟩
    exact ⟨after.reverse, before.reverse, ⟨by simp, by simpa using absent⟩, by simp, by simp⟩

/-- The parts before and after the first occurrence of `pattern`. -/
def splitOnce? (pattern : List Char) : List Char → Option (List Char × List Char)
  | [] => (stripStart? pattern []).map (fun rest => ([], rest))
  | c :: text =>
    match stripStart? pattern (c :: text) with
    | some rest => some ([], rest)
    | none => (splitOnce? pattern text).map (fun parts => (c :: parts.1, parts.2))

/-- Whether `pattern` occurs in the text. -/
def occursIn (pattern text : List Char) : Bool :=
  (splitOnce? pattern text).isSome

/-- The text with its first occurrence of `pattern` replaced. -/
def replaceFirst (pattern replacement text : List Char) : List Char :=
  match splitOnce? pattern text with
  | some (before, after) => before ++ replacement ++ after
  | none => text

/-- The parts between the marks; there is one more part than there are marks. -/
def splitAll (mark : Char) : List Char → List (List Char)
  | [] => [[]]
  | c :: text =>
    if c = mark then [] :: splitAll mark text
    else
      match splitAll mark text with
      | [] => [[c]]
      | part :: parts => (c :: part) :: parts

/-- The parts with the mark put between them again. -/
def joinAll (mark : Char) : List (List Char) → List Char
  | [] => []
  | [part] => part
  | part :: parts => part ++ mark :: joinAll mark parts

end SqlMigrations.Text
