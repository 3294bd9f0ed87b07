import SqlMigrations.Catalog.CheckClause
import SqlMigrations.Proofs.Schema.LabelList
import SqlMigrations.Proofs.Text.Trim

namespace SqlMigrations.Catalog

open Schema
open Text (asciiLower isBlank isAsciiBlank stripWord? stripWord?_eq_some_iff)

variable {word line text before after other rest : List Char}

/-- Whether a word, in any case of its letters, stands between two parts of a text. -/
def WordBetween (word text before after : List Char) : Prop :=
  ∃ middle, middle.map asciiLower = word ∧ text = before ++ (middle ++ after)

theorem wordBetween_nil_iff :
    WordBetween word text [] after ↔ stripWord? word text = some after := by
  simp only [WordBetween, stripWord?_eq_some_iff, List.nil_append, and_comm]

theorem wordBetween_cons_iff {c : Char} : WordBetween word text (c :: before) after ↔
    ∃ later, text = c :: later ∧ WordBetween word later before after := by
  constructor
  · rintro ⟨middle, lowered, rfl⟩
    exact ⟨_, rfl, middle, lowered, rfl⟩
  · rintro ⟨later, rfl, middle, lowered, rfl⟩
    exact ⟨middle, lowered, rfl⟩

theorem splitWord?_eq_none (absent : splitWord? word text = none) (before after : List Char) :
    ¬ WordBetween word text before after := by
  induction text generalizing before with
  | nil =>
    rw [splitWord?, Option.map_eq_none_iff] at absent
    cases before with
    | nil => simp [wordBetween_nil_iff, absent]
    | cons b before => simp [wordBetween_cons_iff]
  | cons c text induction =>
    rw [splitWord?] at absent
    cases start : stripWord? word (c :: text) with
    | some found => simp [start] at absent
    | none =>
      have later : splitWord? word text = none := by simpa [start] using absent
      cases before with
      | nil => simp [wordBetween_nil_iff, start]
      | cons b before =>
        rw [wordBetween_cons_iff]
        rintro ⟨_, same, between⟩
        obtain ⟨rfl, rfl⟩ := List.cons.inj same
        exact induction later before between

/-- The first place where a word stands. -/
theorem splitWord?_eq_some (found : splitWord? word text = some (before, after)) :
    WordBetween word text before after ∧
      ∀ other rest, WordBetween word text other rest → before.length ≤ other.length := by
  induction text generalizing before with
  | nil =>
    rw [splitWord?, Option.map_eq_some_iff] at found
    obtain ⟨later, start, same⟩ := found
    obtain ⟨rfl, rfl⟩ := Prod.mk.inj same
    exact ⟨wordBetween_nil_iff.mpr start, fun _ _ _ => Nat.zero_le _⟩
  | cons c text induction =>
    rw [splitWord?] at found
    cases start : stripWord? word (c :: text) with
    | some later =>
      rw [start] at found
      obtain ⟨rfl, rfl⟩ := Prod.mk.inj (Option.some.inj found)
      exact ⟨wordBetween_nil_iff.mpr start, fun _ _ _ => Nat.zero_le _⟩
    | none =>
      rw [start] at found
      obtain ⟨⟨front, back⟩, cut, same⟩ := Option.map_eq_some_iff.mp found
      obtain ⟨rfl, rfl⟩ := Prod.mk.inj same
      obtain ⟨between, first⟩ := induction cut
      refine ⟨wordBetween_cons_iff.mpr ⟨text, rfl, between⟩, fun other rest elsewhere => ?_⟩
      cases other with
      | nil => simp [wordBetween_nil_iff, start] at elsewhere
      | cons d other =>
        obtain ⟨_, split, elsewhere⟩ := wordBetween_cons_iff.mp elsewhere
        obtain ⟨rfl, rfl⟩ := List.cons.inj split
        exact Nat.succ_le_succ (first other rest elsewhere)

/-- Two check words never overlap, so the later one stands behind the earlier one. -/
theorem WordBetween.behind (first : WordBetween checkWord line before after)
    (second : WordBetween checkWord line other rest) (earlier : before.length < other.length) :
    ∃ front, WordBetween checkWord after front rest := by
  obtain ⟨middle, lowered, rfl⟩ := first
  obtain ⟨later, alike, split⟩ := second
  have unbordered : ∀ n < checkWord.length, 0 < n → ¬ checkWord.drop n <+: checkWord := by decide
  obtain ⟨step, rfl, tail⟩ | ⟨step, rfl, tail⟩ := List.append_eq_append_iff.mp split
  · obtain ⟨front, rfl, rest⟩ | ⟨overlap, rfl, covered⟩ := List.append_eq_append_iff.mp tail
    · exact ⟨front, later, alike, rest⟩
    · cases overlap with
      | nil => exact ⟨[], later, alike, by simpa using covered.symm⟩
      | cons c overlap =>
        -- what the two words share ends the first one and starts the second
        have size := congrArg List.length lowered
        have sameSize := congrArg List.length alike
        simp only [List.length_map, List.length_append, List.length_cons] at size sameSize earlier
        have start : c :: overlap <+: later := by
          refine List.prefix_of_prefix_length_le ⟨after, covered.symm⟩ ⟨rest, rfl⟩ ?_
          rw [List.length_cons]
          omega
        have dropped : checkWord.drop step.length = (c :: overlap).map asciiLower := by
          rw [← lowered, List.map_append, ← List.length_map (f := asciiLower), List.drop_left]
        refine absurd ?_ (unbordered step.length (by omega) (by omega))
        rw [dropped, ← alike]
        exact start.map asciiLower
  · simp only [List.length_append] at earlier
    omega

/-- Whether a word stands between two parts of a text and nowhere else. -/
structure OnlyBetween (word text before after : List Char) : Prop where
  found : WordBetween word text before after
  only : ∀ other rest, WordBetween word text other rest → other = before

theorem WordBetween.onlyBetween {front back : List Char}
    (found : WordBetween word text before after)
    (only : ∀ other rest, WordBetween word (front ++ (text ++ back)) other rest →
      other = front ++ before) : OnlyBetween word text before after where
  found := found
  only other rest elsewhere := by
    obtain ⟨middle, lowered, rfl⟩ := elsewhere
    exact List.append_cancel_left (only (front ++ other) (rest ++ back) ⟨middle, lowered, by simp⟩)

theorem splitCheck?_eq_some_iff :
    splitCheck? line = some (before, after) ↔ OnlyBetween checkWord line before after := by
  rw [splitCheck?]
  constructor
  · intro found
    cases cut : splitWord? checkWord line with
    | none => simp [cut] at found
    | some parts =>
      obtain ⟨front, back⟩ := parts
      cases again : splitWord? checkWord back with
      | some _ => simp [cut, again] at found
      | none =>
        obtain ⟨rfl, rfl⟩ : front = before ∧ back = after := by simpa [cut, again] using found
        obtain ⟨between, first⟩ := splitWord?_eq_some cut
        refine ⟨between, fun other rest elsewhere => ?_⟩
        rcases Nat.lt_or_eq_of_le (first other rest elsewhere) with earlier | same
        · obtain ⟨later, stands⟩ := between.behind elsewhere earlier
          exact absurd stands (splitWord?_eq_none again later rest)
        · obtain ⟨_, -, whole⟩ := between
          obtain ⟨_, -, alike⟩ := elsewhere
          exact (List.append_inj (whole.symm.trans alike) same).1.symm
  · rintro ⟨between, only⟩
    cases cut : splitWord? checkWord line with
    | none => exact absurd between (splitWord?_eq_none cut before after)
    | some parts =>
      obtain ⟨front, back⟩ := parts
      obtain ⟨found, -⟩ := splitWord?_eq_some cut
      obtain rfl := only front back found
      obtain ⟨middle, lowered, rfl⟩ := found
      obtain ⟨alike, same, split⟩ := between
      have size := congrArg List.length (lowered.trans same.symm)
      rw [List.length_map, List.length_map] at size
      obtain ⟨rfl, rfl⟩ := List.append_inj (List.append_cancel_left split) size
      cases again : splitWord? checkWord back with
      | none => simp [again]
      | some parts =>
        -- a second check word in the rest would stand elsewhere in the line
        obtain ⟨second, sameWord, split⟩ := (splitWord?_eq_some again).1
        have elsewhere := only (front ++ middle ++ parts.1) parts.2
          ⟨second, sameWord, by simp only [split, List.append_assoc]⟩
        have sizes := congrArg List.length elsewhere
        have nonempty : middle.length = 5 :=
          List.length_map asciiLower ▸ congrArg List.length lowered
        simp only [List.length_append] at sizes
        omega

theorem firstWord_eq (ink : ∀ c ∈ text.head?, isBlank c = false) :
    firstWord text = text.takeWhile fun c => !isBlank c := by
  have kept : Text.trimStart ([] ++ text) = text :=
    Text.trimStart_blanks_append (List.forall_mem_nil _) ink
  rw [firstWord, ← List.nil_append text, kept, List.nil_append]

/-- The first word of a text ends at its first blank. -/
theorem firstWord_append {c : Char} (ink : ∀ d ∈ before, isBlank d = false) (nonempty : before ≠ [])
    (blank : isBlank c = true) (rest : List Char) : firstWord (before ++ c :: rest) = before := by
  have head : ∀ d ∈ (before ++ c :: rest).head?, isBlank d = false := fun d member => by
    rw [List.head?_append_of_ne_nil before nonempty] at member
    exact ink d (List.mem_of_mem_head? member)
  rw [firstWord_eq head, List.takeWhile_append_of_pos (by simpa using ink),
    List.takeWhile_cons_of_neg (by simp [blank]), List.append_nil]

theorem firstWord_of_ink (ink : ∀ c ∈ text, isBlank c = false) : firstWord text = text := by
  rw [firstWord_eq fun c head => ink c (List.mem_of_mem_head? head), List.takeWhile_eq_self_iff]
  simpa using ink

/-- What stands behind a blank has no part in the first word. -/
theorem firstWord_append_of_blank (ink : ∀ c ∈ (before ++ rest).head?, isBlank c = false)
    (blank : ∃ c ∈ before, isBlank c = true) : firstWord (before ++ rest) = firstWord before := by
  obtain ⟨c, member, isBlank⟩ := blank
  have nonempty : before ≠ [] := List.ne_nil_of_mem member
  rw [firstWord_eq ink, firstWord_eq (List.head?_append_of_ne_nil before nonempty ▸ ink),
    List.takeWhile_append, if_neg]
  intro whole
  have kept := (List.takeWhile_prefix _).eq_of_length whole
  simpa [isBlank] using List.takeWhile_eq_self_iff.mp kept c member

theorem firstWord_trim (line : List Char) : firstWord (Text.trim line) = firstWord line := by
  have ended : Text.trim line ++ (Text.trimStart line).rtakeWhile isBlank = Text.trimStart line :=
    List.rdropWhile_append_rtakeWhile
  have noInk : ((Text.trimStart line).rtakeWhile isBlank).takeWhile (fun c => !isBlank c) = [] := by
    rw [List.takeWhile_eq_nil_iff]
    intro positive
    simpa using List.mem_rtakeWhile_imp (List.getElem_mem positive)
  rw [firstWord_eq (Text.trim_isBare line).first, firstWord, ← ended, List.takeWhile_append, noInk,
    List.append_nil]
  split_ifs with whole
  · exact List.IsPrefix.eq_of_length (List.takeWhile_prefix _) whole
  · rfl

theorem unwrapName_append {opening closing name : List Char}
    (opens : ∀ c ∈ opening, isNameQuote c = true) (closes : ∀ c ∈ closing, isNameQuote c = true)
    (plain : ∀ c ∈ name, isNameQuote c = false) (nonempty : name ≠ []) :
    unwrapName (opening ++ (name ++ closing)) = name := by
  have front : (name ++ closing).dropWhile isNameQuote = name ++ closing := by
    obtain ⟨c, rest, rfl⟩ := List.exists_cons_of_ne_nil nonempty
    exact List.dropWhile_cons_of_neg (by simp [plain c List.mem_cons_self])
  have back : name.reverse.dropWhile isNameQuote = name.reverse := by
    obtain ⟨c, rest, same⟩ := List.exists_cons_of_ne_nil (List.reverse_ne_nil_iff.mpr nonempty)
    have member : c ∈ name := List.mem_reverse.mp (same ▸ List.mem_cons_self)
    rw [same, List.dropWhile_cons_of_neg (by simp [plain c member])]
  rw [unwrapName, List.dropWhile_append_of_pos opens, front, Text.dropEndWhile, List.reverse_append,
    List.dropWhile_append_of_pos (by simpa using closes), back, List.reverse_reverse]

theorem dropComma_append {c : Char} (other : c ≠ ',') (front rest : List Char) :
    dropComma (front ++ c :: rest) = front ++ c :: dropComma rest := by
  have absent : c ∉ [','] := by simpa using other
  rw [dropComma, Text.stripEnd?_append absent, dropComma]
  cases Text.stripEnd? [','] rest <;> rfl

/-- The word that opens the list does not start more than its length ahead of the last ink before
the parenthesis. -/
theorem stripIn_eq_none {c : Char} (closed : '(' ∉ before) (long : 2 ≤ before.length)
    (other : c ≠ '(') (ink : isAsciiBlank c = false) (rest : List Char) :
    (stripWord? "in".toList (before ++ c :: rest)).bind (readMark? '(') = none := by
  by_contra some
  obtain ⟨list, found⟩ := Option.ne_none_iff_exists'.mp some
  obtain ⟨later, stripped, opened⟩ := Option.bind_eq_some_iff.mp found
  obtain ⟨front, split, lowered⟩ := stripWord?_eq_some_iff.mp stripped
  obtain ⟨blanks, rfl, blank⟩ := readMark?_eq_some opened
  have size : front.length = 2 := List.length_map asciiLower ▸ congrArg List.length lowered
  obtain ⟨step, rfl⟩ : front <+: before :=
    List.prefix_of_prefix_length_le ⟨_, split.symm⟩ ⟨_, rfl⟩ (size ▸ long)
  rw [List.append_assoc, List.append_cancel_left_eq] at split
  obtain ⟨middle, rfl, tail⟩ | ⟨middle, rfl, tail⟩ := List.append_eq_append_iff.mp split
  · cases middle with
    | nil => exact other (List.cons.inj tail).1
    | cons d middle =>
      obtain ⟨rfl, -⟩ := List.cons.inj tail
      simpa [ink] using blank c (by simp)
  · cases middle with
    | nil => exact other (List.cons.inj tail).1.symm
    | cons d middle =>
      obtain ⟨rfl, -⟩ := List.cons.inj tail
      exact closed (by simp)

theorem afterIn?_cons_of_none {c : Char} (inWord : Bool)
    (none : (stripWord? "in".toList (c :: rest)).bind (readMark? '(') = none) :
    afterIn? inWord (c :: rest) = afterIn? (isWordChar c) rest := by
  rw [afterIn?, none, ite_self]

theorem exists_in_letters {word : List Char} (named : word.map asciiLower = "in".toList) :
    ∃ i n, word = [i, n] ∧ i ≠ '(' ∧ n ≠ '(' ∧ isAsciiBlank n = false := by
  obtain ⟨i, n, rfl⟩ : ∃ i n, word = [i, n] :=
    List.length_eq_two.mp (List.length_map asciiLower ▸ congrArg List.length named)
  obtain ⟨first, second⟩ : asciiLower i = 'i' ∧ asciiLower n = 'n' := by simpa using named
  have lowered := Text.toNat_asciiLower n
  rw [second, show 'n'.toNat = 110 from rfl] at lowered
  have letter : isWordChar n = true := isWordChar_iff.mpr (by split_ifs at lowered <;> omega)
  refine ⟨i, n, rfl, ?_, ?_, isAsciiBlank_of_isWordChar letter⟩
  · rintro rfl
    exact absurd first (by decide)
  · rintro rfl
    exact absurd second (by decide)

/-- The list follows the word that a blank separates from all before it. -/
theorem afterIn?_append {c : Char} {word gap : List Char} (closed : '(' ∉ before)
    (apart : isAsciiBlank c = true) (named : word.map asciiLower = "in".toList)
    (blank : ∀ d ∈ gap, isAsciiBlank d = true) (inWord : Bool) (list : List Char) :
    afterIn? inWord (before ++ c :: (word ++ (gap ++ '(' :: list))) = some list := by
  obtain ⟨i, n, rfl, first, second, ink⟩ := exists_in_letters named
  have notOpen : c ≠ '(' := by
    rintro rfl
    exact absurd apart (by decide)
  have ends : isWordChar c = false := by
    by_contra word
    simp [isAsciiBlank_of_isWordChar (by simpa using word)] at apart
  have skipped (front : List Char) (closed : '(' ∉ front) :
      (stripWord? "in".toList (front ++ c :: i :: n :: (gap ++ '(' :: list))).bind
        (readMark? '(') = none := by
    have closed : '(' ∉ front ++ [c, i] := by simp [closed, notOpen.symm, first.symm]
    have whole := stripIn_eq_none closed (by simp) second ink (gap ++ '(' :: list)
    rwa [List.append_assoc] at whole
  induction before generalizing inWord with
  | nil =>
    have stripped : stripWord? "in".toList (i :: n :: (gap ++ '(' :: list)) =
        some (gap ++ '(' :: list) := stripWord?_eq_some_iff.mpr ⟨[i, n], rfl, named⟩
    have opened : readMark? '(' (gap ++ '(' :: list) = some list :=
      readMark?_behind (by decide) blank list
    change afterIn? inWord (c :: i :: n :: (gap ++ '(' :: list)) = _
    rw [afterIn?_cons_of_none inWord (skipped [] closed), ends, afterIn?, if_neg Bool.false_ne_true,
      stripped, Option.bind_some, opened]
  | cons d before induction =>
    have next := afterIn?_cons_of_none inWord (skipped (d :: before) closed)
    exact next.trans (induction (List.not_mem_of_not_mem_cons closed) _)

theorem balanced?_append {list : List Char} (opened : '(' ∉ list) (closed : ')' ∉ list)
    (rest : List Char) : balanced? 1 (list ++ ')' :: rest) = some list := by
  induction list with
  | nil => simp [balanced?]
  | cons c list induction =>
    obtain ⟨notOpen, opened⟩ := List.ne_and_not_mem_of_not_mem_cons opened
    obtain ⟨notClosed, closed⟩ := List.ne_and_not_mem_of_not_mem_cons closed
    rw [List.cons_append, balanced?, if_neg notOpen.symm, if_neg notClosed.symm,
      induction opened closed, Option.map_some]

variable {blank : Char → Bool} {items : List (QuotedLabel blank)}

theorem unquote?_text (around : ∀ c, blank c = true → isBlank c = true)
    (item : QuotedLabel blank) : unquote? (Text.trim item.text) = some item.label := by
  have bare : Text.IsBare ('\'' :: (item.label ++ ['\''])) := by
    constructor
    · simp [show isBlank '\'' = false by decide]
    · rw [← List.cons_append, List.getLast?_concat]
      simp [show isBlank '\'' = false by decide]
  have core : item.text = item.before ++ '\'' :: (item.label ++ ['\'']) ++ item.after := by
    simp [QuotedLabel.text]
  rw [core, bare.trim_around (fun c member => around c (item.before_blank c member))
    (fun c member => around c (item.after_blank c member)), unquote?]
  have opened : Text.stripStart? ['\''] ('\'' :: (item.label ++ ['\''])) =
      some (item.label ++ ['\'']) := Text.stripStart?_eq_some_iff.mpr rfl
  rw [opened, Option.bind_some, Text.stripEnd?_eq_some_iff]

/-- The labels of a constraint with one list, if they hold none of the marks that part it. -/
theorem labelsOfCheck_of_list (around : ∀ c, blank c = true → isBlank c = true)
    (nonempty : items ≠ []) (plain : ∀ item ∈ items, ',' ∉ item.label ∧ '(' ∉ item.label ∧
      ')' ∉ item.label) {constraint : String}
    (found : afterIn? false constraint.toList = some (listText items ++ ')' :: rest)) :
    labelsOfCheck constraint = listLabels items := by
  have absent {c : Char} (noQuote : c ≠ '\'') (ink : isBlank c = false)
      (free : ∀ item ∈ items, c ∉ item.label) : ∀ item ∈ items, c ∉ item.text := by
    intro item member
    refine QuotedLabel.not_mem_text noQuote ?_ (free item member)
    by_contra blankHere
    simpa [ink] using around c (by simpa using blankHere)
  have opened : '(' ∉ listText items := not_mem_listText (by decide)
    (absent (by decide) (by decide) fun item member => (plain item member).2.1)
  have closed : ')' ∉ listText items := not_mem_listText (by decide)
    (absent (by decide) (by decide) fun item member => (plain item member).2.2)
  have parts : Text.splitAll ',' (listText items) = items.map QuotedLabel.text := by
    refine Text.splitAll_joinAll (fun part member => ?_) (by simpa using nonempty)
    obtain ⟨item, inside, rfl⟩ := List.mem_map.mp member
    exact absent (by decide) (by decide) (fun item member => (plain item member).1) item inside
  have labels : (items.map QuotedLabel.text).filterMap (fun part => unquote? (Text.trim part)) =
      items.map QuotedLabel.label := by
    simp only [List.filterMap_map, Function.comp_def, unquote?_text around, List.filterMap_eq_map']
  rw [labelsOfCheck, found, Option.bind_some, balanced?_append opened closed]
  simp only [parts, labels, List.map_map]
  rfl

end SqlMigrations.Catalog
