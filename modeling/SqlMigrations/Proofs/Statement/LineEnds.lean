import SqlMigrations.Proofs.Statement.Blocks
import SqlMigrations.Proofs.Text.Trim

namespace SqlMigrations.Statement

open Text (isBlank trimStart trimEnd trim)

variable {unix text : List Char} {supply : Supply}

/-- The second text is the first one, which has no carriage returns, with one put before some of its
line breaks. -/
inductive AddsReturns : List Char → List Char → Prop
  | nil : AddsReturns [] []
  | keep {unix text : List Char} {c : Char} : c ≠ '\r' → AddsReturns unix text →
      AddsReturns (c :: unix) (c :: text)
  | add {unix text : List Char} : AddsReturns unix text →
      AddsReturns ('\n' :: unix) ('\r' :: '\n' :: text)

/-- The text with a carriage return before every line break. -/
def withReturns (text : String) : String :=
  String.ofList (text.toList.flatMap fun c => if c = '\n' then ['\r', '\n'] else [c])

def withoutReturns (text : String) : String :=
  String.ofList (text.toList.filter (· ≠ '\r'))

namespace AddsReturns

theorem append {unix' text' : List Char} (front : AddsReturns unix text)
    (back : AddsReturns unix' text') : AddsReturns (unix ++ unix') (text ++ text') := by
  induction front with
  | nil => exact back
  | keep other _ induction => exact .keep other induction
  | add _ induction => exact .add induction

theorem refl (noReturn : '\r' ∉ text) : AddsReturns text text := by
  induction text with
  | nil => exact .nil
  | cons c text induction =>
    obtain ⟨other, noReturn⟩ := List.ne_and_not_mem_of_not_mem_cons noReturn
    exact .keep other.symm (induction noReturn)

theorem flatMap (noReturn : '\r' ∉ text) :
    AddsReturns text (text.flatMap fun c => if c = '\n' then ['\r', '\n'] else [c]) := by
  induction text with
  | nil => exact .nil
  | cons c text induction =>
    obtain ⟨other, noReturn⟩ := List.ne_and_not_mem_of_not_mem_cons noReturn
    rw [List.flatMap_cons]
    split
    · rename_i newline
      exact newline ▸ .add (induction noReturn)
    · exact .keep other.symm (induction noReturn)

theorem filter_eq (adds : AddsReturns unix text) : text.filter (· ≠ '\r') = unix := by
  induction adds with
  | nil => rfl
  | keep other _ induction => rw [List.filter_cons_of_pos (by simpa using other), induction]
  | add _ induction => simpa using induction

theorem head?_eq_dash (adds : AddsReturns unix text) :
    unix.head? = some '-' ↔ text.head? = some '-' := by
  cases adds <;> simp

/-- A comment takes the carriage return of its line with it, and the line break stays. -/
theorem uncommented (adds : AddsReturns unix text) :
    (∀ pending pending' : List Char, AddsReturns pending.reverse pending'.reverse →
      AddsReturns (dropCommentsFrom pending false unix) (dropCommentsFrom pending' false text)) ∧
    AddsReturns (dropCommentsFrom [] true unix) (dropCommentsFrom [] true text) := by
  induction adds with
  | nil => exact ⟨fun _ _ passed => by simpa [dropCommentsFrom] using passed, .nil⟩
  | @keep unix text c other below induction =>
    obtain ⟨outside, inside⟩ := induction
    constructor
    · intro pending pending' passed
      simp only [dropCommentsFrom, Bool.false_eq_true, if_false, below.head?_eq_dash]
      split_ifs
      · refine outside _ _ ?_
        rw [List.reverse_cons, List.reverse_cons]
        exact passed.append (.keep other .nil)
      · exact inside
      · exact passed.append (.keep other (outside [] [] .nil))
    · simp only [dropCommentsFrom, if_true]
      split_ifs
      · exact outside [c] [c] (.keep other .nil)
      · exact inside
  | @add unix text _ induction =>
    obtain ⟨outside, _⟩ := induction
    constructor
    · intro pending pending' passed
      have unixStep : dropCommentsFrom pending false ('\n' :: unix) =
          dropCommentsFrom ('\n' :: pending) false unix := rfl
      have textStep : dropCommentsFrom pending' false ('\r' :: '\n' :: text) =
          dropCommentsFrom ('\n' :: '\r' :: pending') false text := rfl
      rw [unixStep, textStep]
      refine outside _ _ ?_
      simpa using passed.append (.add .nil)
    · exact outside ['\n'] ['\n'] (.keep (by decide) .nil)

theorem closesLine_eq (adds : AddsReturns unix text) : closesLine unix = closesLine text := by
  induction adds with
  | nil => rfl
  | keep _ _ induction => rw [closesLine_cons, closesLine_cons, induction]
  | add _ _ => rfl

theorem modifyHead {texts texts' : List (List Char)} {front front' : List Char}
    (adds : AddsReturns front front') (parts : List.Forall₂ AddsReturns texts texts') :
    List.Forall₂ AddsReturns (texts.modifyHead (front ++ ·)) (texts'.modifyHead (front' ++ ·)) := by
  cases parts with
  | nil => exact .nil
  | cons first others => exact .cons (adds.append first) others

theorem parts (adds : AddsReturns unix text) :
    List.Forall₂ AddsReturns (splitEnds unix) (splitEnds text) := by
  induction adds with
  | nil => exact .cons .nil .nil
  | @keep unix text c other below induction =>
    rw [splitEnds_cons, splitEnds_cons, below.closesLine_eq]
    split_ifs
    · exact .cons .nil induction
    · exact modifyHead (.keep other .nil) induction
  | @add unix text _ induction =>
    have lineBreak : ';' ∉ ['\n'] := by decide
    have bothMarks : ';' ∉ ['\r', '\n'] := by decide
    have unixStep : splitEnds ('\n' :: unix) = _ := splitEnds_append_of_not_mem lineBreak unix
    have textStep : splitEnds ('\r' :: '\n' :: text) = _ :=
      splitEnds_append_of_not_mem bothMarks text
    rw [unixStep, textStep]
    exact modifyHead (.add .nil) induction

theorem eq_nil_iff (adds : AddsReturns unix text) : unix = [] ↔ text = [] := by
  cases adds <;> simp

theorem trimmedStart (adds : AddsReturns unix text) :
    AddsReturns (trimStart unix) (trimStart text) := by
  induction adds with
  | nil => exact .nil
  | @keep unix text c other below induction =>
    cases blank : isBlank c with
    | true => simpa [trimStart, blank] using induction
    | false => simpa [trimStart, blank] using below.keep other
  | add _ induction => exact induction

theorem trimmedEnd (adds : AddsReturns unix text) : AddsReturns (trimEnd unix) (trimEnd text) := by
  induction adds with
  | nil => exact .nil
  | keep other _ induction =>
    simp only [Text.trimEnd_cons, induction.eq_nil_iff]
    split_ifs
    · exact .nil
    · exact .keep other induction
  | @add unix text _ induction =>
    have newline : isBlank '\n' = true := rfl
    have carriageReturn : isBlank '\r' = true := rfl
    simp only [Text.trimEnd_cons, induction.eq_nil_iff]
    by_cases ended : trimEnd text = []
    · simpa [ended, newline, carriageReturn] using AddsReturns.nil
    · simpa [ended] using induction.add

theorem trimmed (adds : AddsReturns unix text) : AddsReturns (trim unix) (trim text) :=
  adds.trimmedStart.trimmedEnd

theorem pieces (adds : AddsReturns unix text) :
    List.Forall₂ AddsReturns (Statement.pieces unix) (Statement.pieces text) := by
  have trimmedParts : List.Forall₂ AddsReturns ((splitEnds (dropComments unix)).map trim)
      ((splitEnds (dropComments text)).map trim) := by
    rw [List.forall₂_map_left_iff, List.forall₂_map_right_iff]
    exact (adds.uncommented.1 [] [] .nil).parts.imp fun _ _ => trimmed
  exact List.rel_filter (fun _ _ alike => by simp [alike.eq_nil_iff]) trimmedParts

/-- A word of a single line is found in both texts or in neither. -/
theorem stripWord? (adds : AddsReturns unix text) (word : List Char) (noReturn : '\r' ∉ word)
    (noBreak : '\n' ∉ word) :
    Option.Rel AddsReturns (Text.stripWord? word unix) (Text.stripWord? word text) := by
  induction word generalizing unix text with
  | nil =>
    have whole (text : List Char) : Text.stripWord? [] text = some text := by cases text <;> rfl
    rw [whole, whole]
    exact .some adds
  | cons w word induction =>
    obtain ⟨otherReturn, noReturn⟩ := List.ne_and_not_mem_of_not_mem_cons noReturn
    obtain ⟨otherBreak, noBreak⟩ := List.ne_and_not_mem_of_not_mem_cons noBreak
    cases adds with
    | nil => exact .none
    | @keep unix text c _ below =>
      simp only [Text.stripWord?]
      split_ifs
      · exact induction below noReturn noBreak
      · exact .none
    | add below =>
      have lowerReturn : Text.asciiLower '\r' ≠ w := otherReturn
      have lowerBreak : Text.asciiLower '\n' ≠ w := otherBreak
      simp only [Text.stripWord?, if_neg lowerReturn, if_neg lowerBreak]
      exact .none

end AddsReturns

theorem AddsReturns.expand (ids : ∀ number, '\r' ∉ supply number) (adds : AddsReturns unix text)
    (next : Nat) :
    AddsReturns (Statement.expand supply next unix).1 (Statement.expand supply next text).1 ∧
      (Statement.expand supply next unix).2 = (Statement.expand supply next text).2 := by
  have calls {unix text : List Char} (adds : AddsReturns unix text) :=
    adds.stripWord? uuidCall (by decide) (by decide)
  fun_induction Statement.expand supply next text generalizing unix with
  | case1 next =>
    cases adds
    rw [Statement.expand]
    exact ⟨.nil, rfl⟩
  | case2 next c text rest found chars after result induction =>
    have alike := calls adds
    rw [found] at alike
    generalize foundUnix : Text.stripWord? uuidCall unix = restUnix at alike
    cases alike with
    | some below =>
      obtain ⟨later, same⟩ := induction below
      rw [result] at later same
      rw [expand_of_call supply next foundUnix]
      exact ⟨.keep (by decide) ((refl (ids next)).append (.keep (by decide) later)), same⟩
  | case3 next c text absent chars after result induction =>
    have alike := calls adds
    rw [absent] at alike
    generalize absentUnix : Text.stripWord? uuidCall unix = restUnix at alike
    cases alike
    cases adds with
    | keep other below =>
      obtain ⟨later, same⟩ := induction below
      rw [result] at later same
      rw [expand_of_char supply next absentUnix]
      exact ⟨.keep other later, same⟩
    | @add unix text below =>
      obtain ⟨later, same⟩ := induction (.keep (by decide) below)
      -- a line break begins no call, so it is still there to take the carriage return
      have broken := expand_of_char supply next
        (show Text.stripWord? uuidCall ('\n' :: text) = none from rfl)
      obtain ⟨rfl, rfl⟩ := Prod.mk.inj (result.symm.trans broken)
      rw [broken, expand_of_char supply next absentUnix] at later same
      rw [expand_of_char supply next absentUnix]
      cases later with
      | keep _ later => exact ⟨.add later, same⟩

theorem expandAll_returns (ids : ∀ number, '\r' ∉ supply number)
    {unixTexts texts : List (List Char)} (parts : List.Forall₂ AddsReturns unixTexts texts)
    (next : Nat) :
    List.Forall₂ (fun unix text => AddsReturns unix.toList text.toList)
        (expandAll supply next unixTexts).1 (expandAll supply next texts).1 ∧
      (expandAll supply next unixTexts).2 = (expandAll supply next texts).2 := by
  induction parts generalizing next with
  | nil => exact ⟨.nil, rfl⟩
  | @cons unix text unixTexts texts adds _ induction =>
    obtain ⟨first, same⟩ := adds.expand ids next
    obtain ⟨others, last⟩ := induction (expand supply next text).2
    rw [expandAll, expandAll, same]
    exact ⟨.cons (by simpa using first) others, last⟩

/-- Carriage returns before the line breaks of a file neither make nor unmake a statement, and its
statements have no others. -/
theorem split_returns (supply : Supply) (ids : ∀ number, '\r' ∉ supply number) (next : Nat)
    {contents : String} (unix : '\r' ∉ contents.toList) :
    (split supply next (withReturns contents)).1.length = (split supply next contents).1.length ∧
      (split supply next (withReturns contents)).1.map withoutReturns =
        (split supply next contents).1 ∧
      (split supply next (withReturns contents)).2 = (split supply next contents).2 := by
  have adds : AddsReturns contents.toList (withReturns contents).toList := by
    rw [withReturns, String.toList_ofList]
    exact .flatMap unix
  obtain ⟨statements, last⟩ := expandAll_returns ids adds.pieces next
  have deleted : (split supply next (withReturns contents)).1.map withoutReturns =
      (split supply next contents).1 := by
    rw [← List.forall₂_eq_eq_eq, List.forall₂_map_left_iff]
    refine (statements.imp fun unix text adds => ?_).flip
    rw [flip, withoutReturns, adds.filter_eq, String.ofList_toList]
  refine ⟨?_, deleted, last.symm⟩
  rw [← deleted, List.length_map]

/-- A file with a comment inside a statement, a blank line and a semicolon on a line of its own. -/
def listFile : String :=
  "SELECT 1, -- one\n\n  2;\n-- done\nSELECT uuid()\n;\n"

theorem listFile_returns :
    (∀ number, '\r' ∉ List.replicate number 'x') ∧ '\r' ∉ listFile.toList ∧
      split (List.replicate · 'x') 3 (withReturns listFile) =
        (["SELECT 1,\n\r\n  2", "SELECT 'xxx'"], 4) ∧
      ["SELECT 1,\n\r\n  2", "SELECT 'xxx'"].map withoutReturns =
        (split (List.replicate · 'x') 3 listFile).1 := by
  have ids : ∀ number, '\r' ∉ List.replicate number 'x' := fun number member => by
    cases List.eq_of_mem_replicate member
  have unix : '\r' ∉ listFile.toList := by decide +kernel
  have found : split (List.replicate · 'x') 3 (withReturns listFile) =
      (["SELECT 1,\n\r\n  2", "SELECT 'xxx'"], 4) := by decide +kernel
  obtain ⟨_, deleted, _⟩ := split_returns (List.replicate · 'x') ids 3 unix
  rw [found] at deleted
  exact ⟨ids, unix, found, deleted⟩

end SqlMigrations.Statement
