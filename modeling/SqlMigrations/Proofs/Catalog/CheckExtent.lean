import SqlMigrations.Proofs.Catalog.CheckScan

namespace SqlMigrations.Catalog

open Schema
open Text (asciiLower isAsciiBlank stripWord? stripWord?_eq_some_iff)

variable {text before list other rest : List Char} {c : Char} {depth : Nat}

/-- Whether `IN` as a word of its own, blanks and a parenthesis stand between two parts of a text;
`inWord` says that a word goes on at the start of the text. -/
def OpensBetween (inWord : Bool) (text before list : List Char) : Prop :=
  ∃ word gap, text = before ++ (word ++ (gap ++ '(' :: list)) ∧
    word.map asciiLower = "in".toList ∧ (∀ c ∈ gap, isAsciiBlank c = true) ∧
    (before.getLast?.map isWordChar).getD inWord = false

/-- Whether the first list of a text opens between two parts of it. -/
structure FirstOpening (text before list : List Char) : Prop where
  opens : OpensBetween false text before list
  first : ∀ other rest, OpensBetween false text other rest → before.length ≤ other.length

theorem opensBetween_nil_iff {inWord : Bool} : OpensBetween inWord text [] list ↔
    inWord = false ∧ (stripWord? "in".toList text).bind (readMark? '(') = some list := by
  constructor
  · rintro ⟨word, gap, rfl, named, blank, start⟩
    refine ⟨start, Option.bind_eq_some_iff.mpr ⟨_, ?_, readMark?_behind (by decide) blank list⟩⟩
    exact stripWord?_eq_some_iff.mpr ⟨word, rfl, named⟩
  · rintro ⟨start, found⟩
    obtain ⟨later, stripped, opened⟩ := Option.bind_eq_some_iff.mp found
    obtain ⟨word, rfl, named⟩ := stripWord?_eq_some_iff.mp stripped
    obtain ⟨gap, rfl, blank⟩ := readMark?_eq_some opened
    exact ⟨word, gap, rfl, named, blank, start⟩

theorem opensBetween_cons_iff {inWord : Bool} : OpensBetween inWord text (c :: before) list ↔
    ∃ later, text = c :: later ∧ OpensBetween (isWordChar c) later before list := by
  have last : ((c :: before).getLast?.map isWordChar).getD inWord =
      (before.getLast?.map isWordChar).getD (isWordChar c) := by
    rw [List.getLast?_cons]
    cases before.getLast? <;> rfl
  constructor
  · rintro ⟨word, gap, rfl, named, blank, start⟩
    exact ⟨_, rfl, word, gap, rfl, named, blank, last ▸ start⟩
  · rintro ⟨later, rfl, word, gap, rfl, named, blank, start⟩
    exact ⟨word, gap, rfl, named, blank, last ▸ start⟩

theorem openingHere_iff {inWord : Bool} :
    (if inWord then none else (stripWord? "in".toList text).bind (readMark? '(')) = some list ↔
      OpensBetween inWord text [] list := by
  rw [opensBetween_nil_iff]
  cases inWord <;> simp

theorem afterIn?_eq_some_iff_first {inWord : Bool} : afterIn? inWord text = some list ↔
    ∃ before, OpensBetween inWord text before list ∧
      ∀ other rest, OpensBetween inWord text other rest → before.length ≤ other.length := by
  induction text generalizing inWord with
  | nil =>
    refine iff_of_false (by simp [afterIn?]) ?_
    rintro ⟨before, ⟨word, gap, whole, -⟩, -⟩
    simp at whole
  | cons c text induction =>
    rw [afterIn?]
    split
    · rename_i found here
      have opens := openingHere_iff.mp here
      constructor
      · rintro ⟨⟩
        exact ⟨[], opens, fun _ _ _ => Nat.zero_le _⟩
      · rintro ⟨before, elsewhere, first⟩
        obtain rfl := List.length_eq_zero_iff.mp (Nat.le_zero.mp (first [] found opens))
        exact here.symm.trans (openingHere_iff.mpr elsewhere)
    · rename_i here
      have absent (list : List Char) : ¬ OpensBetween inWord (c :: text) [] list := fun opens =>
        Option.some_ne_none list ((openingHere_iff.mpr opens).symm.trans here)
      rw [induction]
      constructor
      · rintro ⟨before, opens, first⟩
        refine ⟨c :: before, opensBetween_cons_iff.mpr ⟨text, rfl, opens⟩, ?_⟩
        intro other rest later
        cases other with
        | nil => exact absurd later (absent rest)
        | cons d other =>
          obtain ⟨_, same, later⟩ := opensBetween_cons_iff.mp later
          obtain ⟨rfl, rfl⟩ := List.cons.inj same
          exact Nat.succ_le_succ (first other rest later)
      · rintro ⟨before, opens, first⟩
        cases before with
        | nil => exact absurd opens (absent list)
        | cons d before =>
          obtain ⟨_, same, opens⟩ := opensBetween_cons_iff.mp opens
          obtain ⟨rfl, rfl⟩ := List.cons.inj same
          refine ⟨before, opens, fun other rest later => Nat.le_of_succ_le_succ ?_⟩
          exact first (c :: other) rest (opensBetween_cons_iff.mpr ⟨text, rfl, later⟩)

theorem afterIn?_eq_some_iff : afterIn? false text = some list ↔
    ∃ before, FirstOpening text before list :=
  afterIn?_eq_some_iff_first.trans
    (exists_congr fun _ => ⟨fun both => ⟨both.1, both.2⟩, fun first => ⟨first.opens, first.first⟩⟩)

/-- The depth of the parentheses behind a text, where it is `depth` before it. -/
def depthBehind (depth : Int) (text : List Char) : Int :=
  depth + text.count '(' - text.count ')'

/-- Whether a parenthesis behind the list is the first place where the depth is zero. -/
structure Balances (depth : Int) (list : List Char) : Prop where
  zero : depthBehind depth (list ++ [')']) = 0
  above : ∀ front, front <+: list → 0 < depthBehind depth front

theorem depthBehind_append (depth : Int) (front back : List Char) :
    depthBehind depth (front ++ back) = depthBehind (depthBehind depth front) back := by
  simp only [depthBehind, List.count_append]
  omega

theorem balances_nil_iff {depth : Int} : Balances depth [] ↔ depth = 1 := by
  constructor
  · rintro ⟨zero, -⟩
    have closed : depthBehind depth [')'] = depth - 1 := by simp [depthBehind]
    rw [List.nil_append, closed] at zero
    exact Int.eq_of_sub_eq_zero zero
  · rintro rfl
    refine ⟨by decide, fun front empty => ?_⟩
    rw [List.prefix_nil.mp empty]
    decide

theorem balances_cons_iff {depth : Int} : Balances depth (c :: list) ↔
    0 < depth ∧ Balances (depthBehind depth [c]) list := by
  have start : depthBehind depth [] = depth := by simp [depthBehind]
  have next (text : List Char) : depthBehind depth (c :: text) =
      depthBehind (depthBehind depth [c]) text := depthBehind_append depth [c] text
  constructor
  · rintro ⟨zero, above⟩
    refine ⟨start ▸ above [] List.nil_prefix, (next _).symm.trans zero, fun front within => ?_⟩
    rw [← next]
    exact above (c :: front) ((List.prefix_cons_inj c).mpr within)
  · rintro ⟨positive, zero, above⟩
    refine ⟨(next _).trans zero, fun front within => ?_⟩
    cases front with
    | nil => rwa [start]
    | cons d front =>
      obtain ⟨rfl, inside⟩ := List.cons_prefix_cons.mp within
      rw [next]
      exact above front inside

/-- Where a text starts with no balancing parenthesis, its first character belongs to the list. -/
theorem balances_behind_iff {depth : Int} (positive : 0 < depth) (inside : c = ')' → depth ≠ 1) :
    (∃ rest, c :: text = list ++ ')' :: rest) ∧ Balances depth list ↔
      ∃ later, ((∃ rest, text = later ++ ')' :: rest) ∧ Balances (depthBehind depth [c]) later) ∧
        c :: later = list := by
  constructor
  · rintro ⟨⟨rest, whole⟩, balances⟩
    cases list with
    | nil => exact absurd (balances_nil_iff.mp balances) (inside (List.cons.inj whole).1)
    | cons d list =>
      obtain ⟨rfl, rfl⟩ := List.cons.inj whole
      exact ⟨list, ⟨⟨rest, rfl⟩, (balances_cons_iff.mp balances).2⟩, rfl⟩
  · rintro ⟨later, ⟨⟨rest, rfl⟩, balances⟩, rfl⟩
    exact ⟨⟨rest, rfl⟩, balances_cons_iff.mpr ⟨positive, balances⟩⟩

theorem balanced?_eq_some_iff (positive : 0 < depth) : balanced? depth text = some list ↔
    (∃ rest, text = list ++ ')' :: rest) ∧ Balances depth list := by
  induction text generalizing depth list with
  | nil => simp [balanced?]
  | cons c text induction =>
    have above : 0 < (depth : Int) := Int.natCast_pos.mpr positive
    rw [balanced?.eq_def]
    dsimp only
    split_ifs with opens closes
    · have deeper : depthBehind depth [c] = (depth + 1 : Nat) := by
        rw [opens]
        rfl
      rw [balances_behind_iff above (by simp [opens]), deeper, Option.map_eq_some_iff]
      simp only [induction (Nat.succ_pos depth)]
    · subst closes
      obtain ⟨less, rfl⟩ := Nat.exists_eq_succ_of_ne_zero (Nat.ne_of_gt positive)
      cases less with
      | zero =>
        simp only [Nat.succ_eq_add_one, Nat.zero_add, Option.some.injEq]
        constructor
        · rintro rfl
          exact ⟨⟨text, rfl⟩, balances_nil_iff.mpr rfl⟩
        · rintro ⟨⟨rest, whole⟩, balances⟩
          cases list with
          | nil => rfl
          | cons d list =>
            obtain ⟨rfl, -⟩ := List.cons.inj whole
            obtain ⟨zero, above⟩ := (balances_cons_iff.mp balances).2
            exact absurd (above [] List.nil_prefix) (by decide)
      | succ less =>
        simp only [Nat.succ_eq_add_one] at above ⊢
        have shallower : depthBehind (less + 1 + 1 : Nat) [')'] = (less + 1 : Nat) := by
          simp [depthBehind]
        have notLast : ((less + 1 + 1 : Nat) : Int) ≠ 1 := by omega
        rw [balances_behind_iff above (fun _ => notLast), shallower, Option.map_eq_some_iff]
        simp only [induction (Nat.succ_pos less)]
    · have level : depthBehind depth [c] = depth := by
        simp [depthBehind, opens, closes]
      rw [balances_behind_iff above (by simp [closes]), level, Option.map_eq_some_iff]
      simp only [induction positive]

/-- Whether a list stands between two parts of a constraint: it opens there first, and the
parenthesis behind it balances the one that opens it. -/
structure ListAt (constraint front list rest : List Char) : Prop where
  whole : constraint = front ++ (list ++ ')' :: rest)
  opened : ∃ before, FirstOpening constraint before (list ++ ')' :: rest)
  balanced : Balances 1 list

def labelsIn (list : List Char) : List String :=
  ((Text.splitAll ',' list).filterMap fun part => unquote? (Text.trim part)).map String.ofList

theorem labelsOfCheck_eq (constraint : String) : labelsOfCheck constraint =
    (((afterIn? false constraint.toList).bind (balanced? 1)).map labelsIn).getD [] := by
  rw [labelsOfCheck]
  cases (afterIn? false constraint.toList).bind (balanced? 1) <;> rfl

section
variable {constraint front : List Char}

theorem ListAt.afterIn?_eq (stands : ListAt constraint front list rest) :
    afterIn? false constraint = some (list ++ ')' :: rest) :=
  afterIn?_eq_some_iff.mpr stands.opened

theorem ListAt.balanced?_eq (stands : ListAt constraint front list rest) :
    balanced? 1 (list ++ ')' :: rest) = some list :=
  (balanced?_eq_some_iff Nat.one_pos).mpr ⟨⟨rest, rfl⟩, stands.balanced⟩

theorem listAt_exists {tail : List Char} (opened : afterIn? false constraint = some tail)
    (closed : balanced? 1 tail = some list) : ∃ front rest, ListAt constraint front list rest := by
  obtain ⟨⟨rest, rfl⟩, balances⟩ := (balanced?_eq_some_iff Nat.one_pos).mp closed
  obtain ⟨before, first⟩ := afterIn?_eq_some_iff.mp opened
  obtain ⟨word, gap, whole, -⟩ := first.opens
  exact ⟨before ++ (word ++ (gap ++ ['('])), rest, by simp [whole], ⟨before, first⟩, balances⟩

end

theorem ListAt.labelsOfCheck_eq {constraint : String} {front : List Char}
    (stands : ListAt constraint.toList front list rest) :
    labelsOfCheck constraint = labelsIn list := by
  rw [Catalog.labelsOfCheck_eq, stands.afterIn?_eq, Option.bind_some, stands.balanced?_eq]
  rfl

theorem labelsOfCheck_of_no_list {constraint : String}
    (absent : ∀ front list rest, ¬ ListAt constraint.toList front list rest) :
    labelsOfCheck constraint = [] := by
  rw [labelsOfCheck_eq]
  cases opened : (afterIn? false constraint.toList).bind (balanced? 1) with
  | none => rfl
  | some list =>
    obtain ⟨tail, opened, closed⟩ := Option.bind_eq_some_iff.mp opened
    obtain ⟨front, rest, stands⟩ := listAt_exists opened closed
    exact absurd stands (absent front list rest)

end SqlMigrations.Catalog
