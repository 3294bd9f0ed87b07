import SqlMigrations.Proofs.Statement.Blocks

/-!
What splitting a file means, told without the splitter: the statements have the ink of the blocks of
its lines, and in each of them the calls, leftmost first, have given way to the next identifiers of
the supply, which goes on from statement to statement.
-/

namespace SqlMigrations.Statement

variable {supply : Supply} {next after : Nat} {text filled : List Char}

/-- Whether a text is a call, whatever the case of its letters. -/
def IsCall (call : List Char) : Prop :=
  call.map Text.asciiLower = "uuid()".toList

def NoCall (text : List Char) : Prop :=
  ∀ call, IsCall call → ¬ call <:+: text

/-- A text with its calls replaced by quoted identifiers, from number `next` on up to `after`. No
call ends before the one that is replaced first. -/
inductive Filled (supply : Supply) : Nat → List Char → List Char → Nat → Prop
  | done {next : Nat} {text : List Char} : NoCall text → Filled supply next text text next
  | call {next after : Nat} {before call rest filled : List Char} : IsCall call →
      NoCall (before ++ call.dropLast) → Filled supply (next + 1) rest filled after →
      Filled supply next (before ++ call ++ rest)
        (before ++ '\'' :: supply next ++ '\'' :: filled) after

/-- Texts with their calls replaced one text after the other. -/
inductive FilledAll (supply : Supply) : Nat → List (List Char) → List String → Nat → Prop
  | nil {next : Nat} : FilledAll supply next [] [] next
  | cons {next middle after : Nat} {text : List Char} {statement : String}
      {texts : List (List Char)} {statements : List String} :
      Filled supply next text statement.toList middle →
      FilledAll supply middle texts statements after →
      FilledAll supply next (text :: texts) (statement :: statements) after

theorem IsCall.length {call : List Char} (isCall : IsCall call) : call.length = 6 := by
  have lengths := congrArg List.length isCall
  rwa [List.length_map] at lengths

theorem NoCall.of_length (short : text.length < 6) : NoCall text := by
  intro call isCall inside
  have six := isCall.length
  have fits := inside.length_le
  omega

theorem noCall_cons {c : Char} : NoCall (c :: text) ↔
    (∀ call, IsCall call → ¬ call <+: c :: text) ∧ NoCall text := by
  simp only [NoCall, List.infix_cons_iff, not_or, forall_and]

theorem no_call_at_start (absent : Text.stripWord? uuidCall text = none) {call : List Char}
    (isCall : IsCall call) : ¬ call <+: text := by
  rintro ⟨rest, whole⟩
  have found : Text.stripWord? uuidCall text = some rest :=
    Text.stripWord?_eq_some_iff.mpr ⟨call, whole.symm, isCall⟩
  rw [absent] at found
  contradiction

theorem expand_filled (supply : Supply) (next : Nat) (text : List Char) :
    Filled supply next text (expand supply next text).1 (expand supply next text).2 := by
  fun_induction expand supply next text with
  | case1 next => exact .done (.of_length (by simp))
  | case2 next c text rest found chars after result induction =>
    obtain ⟨call, whole, isCall⟩ := Text.stripWord?_eq_some_iff.mp found
    have leftmost : NoCall ([] ++ call.dropLast) := .of_length (by simp [IsCall.length isCall])
    rw [result] at induction
    rw [whole]
    exact .call isCall leftmost induction
  | case3 next c text absent chars after result induction =>
    rw [result] at induction
    generalize chars = filled at induction
    cases induction with
    | done none => exact .done (noCall_cons.mpr ⟨fun call => no_call_at_start absent, none⟩)
    | @call _ _ before call rest filled isCall leftmost below =>
      have leftmost' : NoCall (c :: before ++ call.dropLast) := by
        refine noCall_cons.mpr ⟨fun earlier isEarlier front => ?_, leftmost⟩
        refine no_call_at_start absent isEarlier (front.trans ?_)
        exact (List.prefix_cons_inj c).mpr
          ((List.prefix_append_right_inj before).mpr (List.dropLast_prefix call) |>.trans
            (List.prefix_append _ rest))
      exact .call isCall leftmost' below

theorem expandAll_filled (supply : Supply) (next : Nat) (texts : List (List Char)) :
    FilledAll supply next texts (expandAll supply next texts).1
      (expandAll supply next texts).2 := by
  induction texts generalizing next with
  | nil => exact .nil
  | cons text texts induction =>
    refine .cons ?_ (induction (expand supply next text).2)
    rw [String.toList_ofList]
    exact expand_filled supply next text

/-- The statements of a file are its blocks: as many, in order, with the same characters but for
blanks, broken into the same words, and with every call filled in. -/
theorem split_follows_lines (supply : Supply) (next : Nat) {contents : String}
    (plain : IsPlain contents.toList) :
    (pieces contents.toList).map Text.ink = (blocks contents.toList).map Text.ink ∧
      (pieces contents.toList).map Text.words = (blocks contents.toList).map Text.words ∧
      FilledAll supply next (pieces contents.toList) (split supply next contents).1
        (split supply next contents).2 := by
  have sameWords := pieces_words plain
  refine ⟨?_, sameWords, expandAll_filled supply next _⟩
  have flat : Text.ink = List.flatten ∘ Text.words :=
    funext fun text => (Text.flatten_words text).symm
  rw [flat, ← List.map_map, ← List.map_map, sameWords]

/-- A file with a comment of its own, one inside a statement, a semicolon inside a comment and one
inside a line, a line with nothing but a semicolon, and a statement that nothing closes. -/
def seedFile : String :=
  "-- seed;\r\nINSERT INTO t VALUES (uuid(), -- key;\n  Uuid());  \r\n\n;\nSELECT 1; SELECT 2"

theorem seedFile_follows_lines :
    IsPlain seedFile.toList ∧
      (pieces seedFile.toList).map Text.ink =
        ["INSERTINTOtVALUES(uuid(),Uuid())".toList, "SELECT1;SELECT2".toList] ∧
      FilledAll (List.replicate · 'x') 3 (pieces seedFile.toList)
        (split (List.replicate · 'x') 3 seedFile).1
        (split (List.replicate · 'x') 3 seedFile).2 := by
  have plain : IsPlain seedFile.toList := by decide +kernel
  have blocked : (blocks seedFile.toList).map Text.ink =
      ["INSERTINTOtVALUES(uuid(),Uuid())".toList, "SELECT1;SELECT2".toList] := by decide +kernel
  obtain ⟨sameInk, _, filled⟩ := split_follows_lines (List.replicate · 'x') 3 plain
  exact ⟨plain, sameInk.trans blocked, filled⟩

end SqlMigrations.Statement
