import SqlMigrations.Proofs.Catalog.CheckExtent
import SqlMigrations.Proofs.Text.Offsets

/-!
The readers of check clauses by byte offsets. The check word is looked for in the upper case of a
line while the line itself is cut, and the end of a list is found by counting parentheses. A slice
that is out of bounds or cuts a character and a count that is taken below zero are faults here; no
text leads to one, and what is read is the same.
-/

namespace SqlMigrations.Catalog

open Schema
open Text (asciiLower asciiUpper byteSize IsBoundary slice? stripWord? wordOffsets)
open Text.Utf8 (encode)

/-- How a reader could fail. -/
inductive ScanFault where
  | badSlice
  | belowZero
  deriving Repr, DecidableEq

/-- What stands between two offsets of a text. -/
def cut (text : List Char) (start stop : Nat) : Except ScanFault (List Char) :=
  match slice? text start stop with
  | some part => .ok part
  | none => .error .badSlice

/-- The offsets of the check words in the upper case of a line, where `passed` bytes went before. -/
def checkOffsets (passed : Nat) (line : List Char) : List Nat :=
  wordOffsets (encode "CHECK".toList) passed 0 (encode (line.map asciiUpper))

/-- The column that a line constrains, and the constraint. -/
def scanLine (line : List Char) : Except ScanFault (Option (String × String)) :=
  match checkOffsets 0 line with
  | [place] => do
    let before ← cut line 0 place
    match unwrapName (firstWord before) with
    | [] => return none
    | name => do
      let after ← cut line (place + 5) (byteSize line)
      return some (String.ofList name, String.ofList (dropComma (Text.trim after)))
  | _ => return none

/-- The constraints of a table definition with their columns. -/
def scanClauses (definition : String) : Except ScanFault (List (String × String)) := do
  let read ← (Text.splitAll '\n' definition.toList).mapM fun line => scanLine (Text.trim line)
  return read.filterMap id

def countDown : Nat → Except ScanFault Nat
  | 0 => .error .belowZero
  | less + 1 => .ok less

/-- The offset of the parenthesis that brings the depth to zero. -/
def closingOffset (depth offset : Nat) : List Char → Except ScanFault (Option Nat)
  | [] => return none
  | c :: rest =>
    if c = '(' then closingOffset (depth + 1) (offset + c.utf8Size) rest
    else if c = ')' then do
      let left ← countDown depth
      if left = 0 then return some offset else closingOffset left (offset + c.utf8Size) rest
    else closingOffset depth (offset + c.utf8Size) rest

/-- The offsets where the list of a constraint starts and where it ends. -/
def listSpan (constraint : List Char) : Except ScanFault (Option (Nat × Nat)) :=
  match afterIn? false constraint with
  | none => return none
  | some list => do
    let start := byteSize constraint - byteSize list
    let tail ← cut constraint start (byteSize constraint)
    let found ← closingOffset 1 0 tail
    return found.map fun offset => (start, start + offset)

def scanLabels (constraint : String) : Except ScanFault (List String) := do
  match ← listSpan constraint.toList with
  | none => return []
  | some (start, stop) => do
    let list ← cut constraint.toList start stop
    return labelsIn list

variable {line text before after list front rest constraint : List Char}

theorem cut_append (front middle back : List Char) :
    cut (front ++ (middle ++ back)) (byteSize front) (byteSize (front ++ middle)) = .ok middle := by
  rw [cut, Text.slice?_append]

theorem cut_rest (front back : List Char) :
    cut (front ++ back) (byteSize front) (byteSize (front ++ back)) = .ok back := by
  have whole := cut_append front back []
  rwa [List.append_nil] at whole

theorem checkWord_upper : checkWord.map asciiUpper = "CHECK".toList := by
  decide

/-- The check word of a line stands where its capitals stand in the upper case. -/
theorem stripStart?_upper {word : List Char} (small : word.map asciiLower = word)
    (text : List Char) : Text.stripStart? (word.map asciiUpper) (text.map asciiUpper) =
      (stripWord? word text).map (List.map asciiUpper) := by
  induction word generalizing text with
  | nil => cases text <;> rfl
  | cons w word induction =>
    obtain ⟨lower, others⟩ := List.cons.inj small
    cases text with
    | nil => rfl
    | cons c text =>
      have same : asciiUpper w = asciiUpper c ↔ asciiLower c = w :=
        eq_comm.trans (Text.asciiUpper_eq_iff lower)
      simp only [List.map_cons, Text.stripStart?, stripWord?, same, induction others]
      split_ifs <;> rfl

theorem splitOnce?_upper {word : List Char} (small : word.map asciiLower = word)
    (text : List Char) : Text.splitOnce? (word.map asciiUpper) (text.map asciiUpper) =
      (splitWord? word text).map (Prod.map (List.map asciiUpper) (List.map asciiUpper)) := by
  induction text with
  | nil =>
    have start := stripStart?_upper small []
    rw [List.map_nil] at start
    rw [List.map_nil, Text.splitOnce?, splitWord?, start]
    cases stripWord? word [] <;> rfl
  | cons c text induction =>
    have start := stripStart?_upper small (c :: text)
    rw [List.map_cons] at start ⊢
    rw [Text.splitOnce?, splitWord?, start, induction]
    cases stripWord? word (c :: text) with
    | some rest => rfl
    | none => cases splitWord? word text <;> rfl

theorem checkWord_small : checkWord.map asciiLower = checkWord := by
  decide

theorem checkOffsets_of_none (absent : splitWord? checkWord line = none) (passed : Nat) :
    checkOffsets passed line = [] := by
  refine Text.wordOffsets_of_none (by decide) ?_ passed
  rw [← checkWord_upper, splitOnce?_upper checkWord_small, absent, Option.map_none]

/-- The first check word of a line, and those behind it. -/
theorem checkOffsets_of_some (found : splitWord? checkWord line = some (before, after))
    (passed : Nat) : checkOffsets passed line =
      (passed + byteSize before) :: checkOffsets (passed + (byteSize before + 5)) after := by
  have upper : Text.splitOnce? "CHECK".toList (line.map asciiUpper) =
      some (before.map asciiUpper, after.map asciiUpper) := by
    rw [← checkWord_upper, splitOnce?_upper checkWord_small, found]
    rfl
  rw [checkOffsets, Text.wordOffsets_of_some (by decide) upper, Text.byteSize_append,
    Text.byteSize_map_asciiUpper]
  rfl

/-- A line has a constraint where its upper case has a single check word. -/
theorem checkOffsets_of_split (found : splitCheck? line = some (before, after)) :
    checkOffsets 0 line = [byteSize before] := by
  rw [splitCheck?] at found
  cases cut : splitWord? checkWord line with
  | none => simp [cut] at found
  | some parts =>
    obtain ⟨front, back⟩ := parts
    cases again : splitWord? checkWord back with
    | some _ => simp [cut, again] at found
    | none =>
      obtain ⟨rfl, rfl⟩ : front = before ∧ back = after := by simpa [cut, again] using found
      rw [checkOffsets_of_some cut, checkOffsets_of_none again, Nat.zero_add]

theorem checkOffsets_of_not_split (absent : splitCheck? line = none) (place : Nat) :
    checkOffsets 0 line ≠ [place] := by
  rw [splitCheck?] at absent
  cases cut : splitWord? checkWord line with
  | none => simp [checkOffsets_of_none cut]
  | some parts =>
    obtain ⟨front, back⟩ := parts
    cases again : splitWord? checkWord back with
    | none => simp [cut, again] at absent
    | some parts => simp [checkOffsets_of_some cut, checkOffsets_of_some again]

theorem byteSize_checkWord (lowered : text.map asciiLower = checkWord) : byteSize text = 5 := by
  have upper : text.map asciiUpper = "CHECK".toList := by
    rw [← checkWord_upper, ← lowered, List.map_map]
    exact List.map_congr_left fun c _ => (Text.asciiUpper_asciiLower c).symm
  rw [← Text.byteSize_map_asciiUpper, upper]
  rfl

/-- An offset found in the upper case of a line is one of the line itself. -/
theorem checkOffsets_boundary {place : Nat} (member : place ∈ checkOffsets 0 line) :
    IsBoundary line place ∧ IsBoundary line (place + 5) := by
  obtain ⟨before, after, whole, rfl⟩ := Text.exists_of_mem_wordOffsets (by decide) member
  obtain ⟨front, rest, rfl, rfl, tail⟩ := List.map_eq_append_iff.mp whole
  obtain ⟨middle, back, rfl, word, rfl⟩ := List.map_eq_append_iff.mp tail
  have size : byteSize middle = 5 := by
    rw [← Text.byteSize_map_asciiUpper, word]
    rfl
  rw [Nat.zero_add, Text.byteSize_map_asciiUpper]
  refine ⟨Text.isBoundary_iff.mpr ⟨front, _, rfl, rfl⟩, Text.isBoundary_iff.mpr ?_⟩
  exact ⟨front ++ middle, back, (List.append_assoc ..).symm, by rw [Text.byteSize_append, size]⟩

theorem scanLine_trim (line : List Char) :
    scanLine (Text.trim line) = .ok (readCheckLine? line) := by
  rw [scanLine, readCheckLine?]
  cases split : splitCheck? (Text.trim line) with
  | none =>
    have other := checkOffsets_of_not_split split
    split
    · rename_i place single
      exact absurd single (other place)
    · rfl
  | some parts =>
    obtain ⟨before, after⟩ := parts
    obtain ⟨⟨middle, lowered, whole⟩, -⟩ := splitCheck?_eq_some_iff.mp split
    have front : cut (Text.trim line) 0 (byteSize before) = .ok before := by
      rw [whole]
      exact cut_append [] before (middle ++ after)
    have back : cut (Text.trim line) (byteSize before + 5) (byteSize (Text.trim line)) =
        .ok after := by
      have tail := cut_rest (before ++ middle) after
      rwa [List.append_assoc, Text.byteSize_append before, byteSize_checkWord lowered,
        ← whole] at tail
    rw [checkOffsets_of_split split]
    simp only [front, back, bind, Except.bind]
    cases unwrapName (firstWord before) <;> rfl

theorem scanClauses_eq (definition : String) :
    scanClauses definition = .ok (checkClauses definition) := by
  have lines : (fun line => scanLine (Text.trim line)) = fun line => pure (readCheckLine? line) :=
    funext scanLine_trim
  rw [scanClauses, lines, List.mapM_pure, pure_bind, List.filterMap_map]
  rfl

theorem closingOffset_eq {depth : Nat} (positive : 0 < depth) (offset : Nat) (text : List Char) :
    closingOffset depth offset text =
      .ok ((balanced? depth text).map fun list => offset + byteSize list) := by
  induction text generalizing depth offset with
  | nil => rfl
  | cons c text induction =>
    have further (found : Option (List Char)) :
        (found.map fun list => offset + c.utf8Size + byteSize list) =
          (found.map (c :: ·)).map fun list => offset + byteSize list := by
      rw [Option.map_map]
      refine congrArg (Option.map · found) (funext fun list => ?_)
      rw [Function.comp_apply, Text.byteSize_cons, Nat.add_assoc]
    rw [closingOffset, balanced?.eq_def]
    dsimp only
    split_ifs with opens closes
    · rw [induction (Nat.succ_pos depth), further]
    · obtain ⟨less, rfl⟩ := Nat.exists_eq_succ_of_ne_zero (Nat.ne_of_gt positive)
      cases less with
      | zero => rfl
      | succ less =>
        simp only [countDown, bind, Except.bind, Nat.succ_ne_zero, if_false]
        rw [induction (Nat.succ_pos less), further]
    · rw [induction positive, further]

/-- The list of a constraint starts behind its parenthesis and ends where the depth is zero. -/
theorem listSpan_of_opened {tail : List Char}
    (opened : afterIn? false (front ++ tail) = some tail) :
    listSpan (front ++ tail) = .ok ((balanced? 1 tail).map fun list =>
      (byteSize front, byteSize (front ++ list))) := by
  have start : byteSize (front ++ tail) - byteSize tail = byteSize front := by
    rw [Text.byteSize_append, Nat.add_sub_cancel]
  have rest : cut (front ++ tail) (byteSize front) (byteSize (front ++ tail)) = .ok tail :=
    cut_rest front tail
  rw [listSpan, opened]
  simp only [start, rest, bind, Except.bind, closingOffset_eq Nat.one_pos]
  refine congrArg Except.ok ((Option.map_map ..).trans ?_)
  simp only [Function.comp_def, Nat.zero_add, Text.byteSize_append]

theorem ListAt.listSpan_eq (stands : ListAt constraint front list rest) :
    listSpan constraint = .ok (some (byteSize front, byteSize (front ++ list))) := by
  have opened := stands.afterIn?_eq
  rw [stands.whole] at opened ⊢
  rw [listSpan_of_opened opened, stands.balanced?_eq]
  rfl

theorem listSpan_of_no_list (absent : ∀ front list rest, ¬ ListAt constraint front list rest) :
    listSpan constraint = .ok none := by
  cases opened : afterIn? false constraint with
  | none =>
    rw [listSpan, opened]
    rfl
  | some tail =>
    obtain ⟨before, first⟩ := afterIn?_eq_some_iff.mp opened
    obtain ⟨word, gap, whole, -⟩ := first.opens
    obtain ⟨front, rfl⟩ : ∃ front, constraint = front ++ tail :=
      ⟨before ++ (word ++ (gap ++ ['('])), by simp [whole]⟩
    rw [listSpan_of_opened opened]
    cases closed : balanced? 1 tail with
    | none => rfl
    | some list =>
      obtain ⟨front, rest, stands⟩ := listAt_exists opened closed
      exact absurd stands (absent front list rest)

theorem listSpan_eq_some_iff {start stop : Nat} : listSpan constraint = .ok (some (start, stop)) ↔
    ∃ front list rest, ListAt constraint front list rest ∧ start = byteSize front ∧
      stop = byteSize (front ++ list) := by
  constructor
  · intro read
    by_cases some : ∃ front list rest, ListAt constraint front list rest
    · obtain ⟨front, list, rest, stands⟩ := some
      obtain ⟨rfl, rfl⟩ : byteSize front = start ∧ byteSize (front ++ list) = stop := by
        simpa using stands.listSpan_eq.symm.trans read
      exact ⟨front, list, rest, stands, rfl, rfl⟩
    · exact absurd ((listSpan_of_no_list (by simpa using some)).symm.trans read) (by simp)
  · rintro ⟨front, list, rest, stands, rfl, rfl⟩
    exact stands.listSpan_eq

theorem scanLabels_eq (constraint : String) :
    scanLabels constraint = .ok (labelsOfCheck constraint) := by
  rw [scanLabels]
  by_cases some : ∃ front list rest, ListAt constraint.toList front list rest
  · obtain ⟨front, list, rest, stands⟩ := some
    have slice : cut constraint.toList (byteSize front) (byteSize (front ++ list)) = .ok list := by
      rw [stands.whole]
      exact cut_append front list (')' :: rest)
    simp only [stands.listSpan_eq, bind, Except.bind, slice, stands.labelsOfCheck_eq]
    rfl
  · have absent : ∀ front list rest, ¬ ListAt constraint.toList front list rest := by
      simpa using some
    rw [listSpan_of_no_list absent, labelsOfCheck_of_no_list absent]
    rfl

theorem ListAt.boundaries (stands : ListAt constraint front list rest) :
    IsBoundary constraint (byteSize front) ∧ IsBoundary constraint (byteSize (front ++ list)) ∧
      byteSize front ≤ byteSize (front ++ list) := by
  refine ⟨Text.isBoundary_iff.mpr ⟨front, _, stands.whole, rfl⟩, Text.isBoundary_iff.mpr ?_, ?_⟩
  · exact ⟨front ++ list, _, stands.whole.trans (List.append_assoc ..).symm, rfl⟩
  · rw [Text.byteSize_append]
    exact Nat.le_add_right _ _

/-- What holds of reading the constraints of a definition by offsets: whatever is found in the upper
case of a line starts and ends at boundaries of the line, and no slice fails. -/
structure ClausesScanned (definition : String) : Prop where
  boundaries : ∀ line, ∀ place ∈ checkOffsets 0 line,
    IsBoundary line place ∧ IsBoundary line (place + 5)
  read : scanClauses definition = .ok (checkClauses definition)

/-- What holds of reading the labels of a constraint by offsets: neither a slice nor the count of
the parentheses fails, the list ends where its opening parenthesis is balanced, both its ends are
boundaries, and without such an end there are no labels. -/
structure LabelsScanned (constraint : String) : Prop where
  read : scanLabels constraint = .ok (labelsOfCheck constraint)
  span : ∀ start stop, listSpan constraint.toList = .ok (some (start, stop)) ↔
    ∃ front list rest, ListAt constraint.toList front list rest ∧ start = byteSize front ∧
      stop = byteSize (front ++ list)
  boundaries : ∀ start stop, listSpan constraint.toList = .ok (some (start, stop)) →
    IsBoundary constraint.toList start ∧ IsBoundary constraint.toList stop ∧ start ≤ stop
  labels : ∀ front list rest, ListAt constraint.toList front list rest →
    labelsOfCheck constraint = labelsIn list
  empty : (∀ front list rest, ¬ ListAt constraint.toList front list rest) →
    listSpan constraint.toList = .ok none ∧ labelsOfCheck constraint = []

theorem check_scans_never_fail (definition constraint : String) :
    ClausesScanned definition ∧ LabelsScanned constraint where
  left := ⟨fun _ _ => checkOffsets_boundary, scanClauses_eq definition⟩
  right := {
    read := scanLabels_eq constraint
    span := fun _ _ => listSpan_eq_some_iff
    boundaries := by
      intro start stop read
      obtain ⟨front, list, rest, stands, rfl, rfl⟩ := listSpan_eq_some_iff.mp read
      exact stands.boundaries
    labels := fun _ _ _ stands => stands.labelsOfCheck_eq
    empty := fun absent => ⟨listSpan_of_no_list absent, labelsOfCheck_of_no_list absent⟩ }

/-- Characters of several bytes stand before the word and before the list, and the list has a
parenthesis that opens another one. -/
example : checkOffsets 0 "größe TEXT Check (größe <> 'ß')".toList = [13] ∧
    listSpan "(größe In ('ü', f(')')".toList = .ok (some (13, 24)) := by
  decide +kernel

end SqlMigrations.Catalog
