import Mathlib.Data.List.Forall2
import Mathlib.Data.List.Infix
import SqlMigrations.Proofs.Text.CaseMapping
import SqlMigrations.Proofs.Text.Words
import SqlMigrations.Statement.Split
import SqlMigrations.Store.FileSet

namespace SqlMigrations

namespace Statement

variable {text : List Char}

/-- Whether a statement is a piece of a file with some identifiers put in. -/
def Expands (piece : List Char) (statement : String) : Prop :=
  ∃ supply next, statement = String.ofList (expand supply next piece).1

theorem expandAll_expands (supply : Supply) (next : Nat) (pieces : List (List Char)) :
    List.Forall₂ Expands pieces (expandAll supply next pieces).1 := by
  induction pieces generalizing next with
  | nil => exact .nil
  | cons piece rest induction => exact .cons ⟨supply, next, rfl⟩ (induction _)

theorem split_expands (supply : Supply) (next : Nat) (contents : String) :
    List.Forall₂ Expands (pieces contents.toList) (split supply next contents).1 :=
  expandAll_expands supply next (pieces contents.toList)

def hasCall : List Char → Bool
  | [] => false
  | c :: rest => (Text.stripWord? uuidCall (c :: rest)).isSome || hasCall rest

/-- Whether no statement of a file has a call. -/
def CallFree (contents : String) : Prop :=
  ∀ piece ∈ pieces contents.toList, hasCall piece = false

instance (contents : String) : Decidable (CallFree contents) :=
  inferInstanceAs (Decidable (∀ piece ∈ pieces contents.toList, hasCall piece = false))

theorem expand_of_call (supply : Supply) (next : Nat) {rest : List Char}
    (found : Text.stripWord? uuidCall text = some rest) :
    expand supply next text =
      ('\'' :: supply next ++ '\'' :: (expand supply (next + 1) rest).1,
        (expand supply (next + 1) rest).2) := by
  cases text with
  | nil => contradiction
  | cons c text =>
    rw [expand]
    split
    · rename_i found'
      obtain rfl := Option.some.inj (found.symm.trans found')
      rfl
    · rename_i absent
      rw [absent] at found
      contradiction

theorem expand_of_char (supply : Supply) (next : Nat) {c : Char}
    (absent : Text.stripWord? uuidCall (c :: text) = none) :
    expand supply next (c :: text) =
      (c :: (expand supply next text).1, (expand supply next text).2) := by
  rw [expand]
  split
  · rename_i found
    rw [absent] at found
    contradiction
  · rfl

theorem expand_of_no_call (supply : Supply) (next : Nat) (absent : hasCall text = false) :
    expand supply next text = (text, next) := by
  induction text with
  | nil => rw [expand]
  | cons c rest induction =>
    rw [hasCall, Bool.or_eq_false_iff, Option.isSome_eq_false_iff,
      Option.isNone_iff_eq_none] at absent
    obtain ⟨here, later⟩ := absent
    rw [expand_of_char supply next here, induction later]

theorem eq_of_expands {pieces : List (List Char)} {statements : List String}
    (expands : List.Forall₂ Expands pieces statements)
    (absent : ∀ piece ∈ pieces, hasCall piece = false) : statements = pieces.map String.ofList := by
  induction expands with
  | nil => rfl
  | cons first _ induction =>
    obtain ⟨here, later⟩ := List.forall_mem_cons.mp absent
    obtain ⟨supply, next, rfl⟩ := first
    rw [expand_of_no_call supply next here, induction later, List.map_cons]

theorem expandAll_of_no_call (supply : Supply) (next : Nat) {pieces : List (List Char)}
    (absent : ∀ piece ∈ pieces, hasCall piece = false) :
    expandAll supply next pieces = (pieces.map String.ofList, next) := by
  induction pieces with
  | nil => rfl
  | cons piece rest induction =>
    obtain ⟨first, others⟩ := List.forall_mem_cons.mp absent
    rw [expandAll, expand_of_no_call supply next first, induction others]
    rfl

theorem CallFree.split {contents : String} (free : CallFree contents) (supply : Supply)
    (next : Nat) :
    Statement.split supply next contents = ((pieces contents.toList).map String.ofList, next) :=
  expandAll_of_no_call supply next free

theorem hasCall_iff :
    hasCall text = true ↔ ∃ call, call.map Text.asciiLower = uuidCall ∧ call <:+: text := by
  induction text with
  | nil =>
    refine iff_of_false nofun ?_
    rintro ⟨call, lowered, inside⟩
    rw [List.infix_nil.mp inside] at lowered
    contradiction
  | cons c rest induction =>
    have here : (Text.stripWord? uuidCall (c :: rest)).isSome = true ↔
        ∃ call, call.map Text.asciiLower = uuidCall ∧ call <+: c :: rest := by
      simp only [Option.isSome_iff_exists, Text.stripWord?_eq_some_iff]
      constructor
      · rintro ⟨after, call, split, lowered⟩
        exact ⟨call, lowered, after, split.symm⟩
      · rintro ⟨call, lowered, after, split⟩
        exact ⟨after, call, split.symm, lowered⟩
    simp only [hasCall, Bool.or_eq_true, here, induction, ← exists_or, ← and_or_left,
      List.infix_cons_iff]

theorem not_mem_call {call : List Char} (lowered : call.map Text.asciiLower = uuidCall) {c : Char}
    (other : Text.asciiLower c ∉ uuidCall) : c ∉ call :=
  fun member => other (lowered ▸ List.mem_map_of_mem member)

/-- What stands on one line of the output, at its start or anywhere, stands so in the text. -/
structure LinesWithin (output text : List Char) : Prop where
  start : ∀ {word : List Char}, '\n' ∉ word → word <+: output → word <+: text
  anywhere : ∀ {word : List Char}, '\n' ∉ word → word <:+: output → word <:+: text

theorem LinesWithin.refl (text : List Char) : LinesWithin text text :=
  ⟨fun _ => id, fun _ => id⟩

theorem LinesWithin.cons {output : List Char} (within : LinesWithin output text) (c : Char) :
    LinesWithin (c :: output) (c :: text) := by
  have start {word : List Char} (line : '\n' ∉ word) (front : word <+: c :: output) :
      word <+: c :: text := by
    rcases List.prefix_cons_iff.mp front with rfl | ⟨rest, rfl, further⟩
    · exact List.nil_prefix
    · exact (List.prefix_cons_inj c).mpr (within.start (List.not_mem_of_not_mem_cons line) further)
  refine ⟨start, fun line inside => ?_⟩
  rcases List.infix_cons_iff.mp inside with front | later
  · exact (start line front).isInfix
  · exact List.infix_cons (within.anywhere line later)

theorem LinesWithin.append {output : List Char} (within : LinesWithin output text)
    (before : List Char) : LinesWithin (before ++ output) (before ++ text) := by
  induction before with
  | nil => exact within
  | cons c before induction => exact induction.cons c

/-- After a comment, or after a line break that may still go with the next comment, the output goes
on with a line break. -/
theorem dropCommentsFrom_head (text : List Char) :
    (∀ pending, pending.getLast? = some '\n' →
      ∀ c ∈ (dropCommentsFrom pending false text).head?, c = '\n') ∧
    ∀ c ∈ (dropCommentsFrom [] true text).head?, c = '\n' := by
  induction text with
  | nil =>
    refine ⟨fun pending last c head => ?_, nofun⟩
    rw [dropCommentsFrom, List.head?_reverse, last] at head
    exact (Option.some.inj head).symm
  | cons d rest induction =>
    obtain ⟨outside, inside⟩ := induction
    constructor
    · intro pending last
      simp only [dropCommentsFrom, Bool.false_eq_true, if_false]
      split
      · refine outside (d :: pending) ?_
        rw [List.getLast?_cons_of_ne_nil, last]
        rintro rfl
        cases last
      · split
        · exact inside
        · intro c head
          rw [List.head?_append, List.head?_reverse, last] at head
          exact (Option.some.inj head).symm
    · simp only [dropCommentsFrom, if_true]
      split
      · rename_i newline
        exact outside [d] (congrArg some newline)
      · exact inside

theorem dropCommentsFrom_lines (text : List Char) :
    (∀ pending, LinesWithin (dropCommentsFrom pending false text) (pending.reverse ++ text)) ∧
    ∀ {word : List Char}, '\n' ∉ word → word <:+: dropCommentsFrom [] true text →
      word <:+: text := by
  induction text with
  | nil =>
    refine ⟨fun pending => ?_, fun _ => id⟩
    rw [dropCommentsFrom, List.append_nil]
    exact .refl _
  | cons c rest induction =>
    obtain ⟨outside, inside⟩ := induction
    constructor
    · intro pending
      simp only [dropCommentsFrom, Bool.false_eq_true, if_false]
      split
      · have longer := outside (c :: pending)
        rwa [List.reverse_cons, List.append_assoc] at longer
      · split
        · refine ⟨fun {word} line front => ?_, fun line within => ?_⟩
          · cases word with
            | nil => exact List.nil_prefix
            | cons d word =>
              have first : d ∈ (dropCommentsFrom [] true rest).head? := by
                obtain ⟨after, whole⟩ := front
                rw [← whole]
                rfl
              have newline := (dropCommentsFrom_head rest).2 d first
              exact absurd (newline ▸ List.mem_cons_self) line
          · exact (inside line within).trans
              ⟨pending.reverse ++ [c], [], by simp⟩
        · exact ((outside []).cons c).append pending.reverse
    · intro word line within
      simp only [dropCommentsFrom, if_true] at within
      split at within
      · exact (outside [c]).anywhere line within
      · exact List.infix_cons (inside line within)

theorem splitEnds_within (text : List Char) :
    ∃ first others, splitEnds text = first :: others ∧ first <+: text ∧
      ∀ part ∈ others, part <:+: text := by
  induction text with
  | nil => exact ⟨[], [], rfl, List.nil_prefix, List.forall_mem_nil _⟩
  | cons c rest induction =>
    obtain ⟨first, others, parts, front, inside⟩ := induction
    rw [splitEnds, parts]
    split
    · refine ⟨[], first :: others, rfl, List.nil_prefix, List.forall_mem_cons.mpr ⟨?_, ?_⟩⟩
      · exact List.infix_cons front.isInfix
      · exact fun part member => List.infix_cons (inside part member)
    · exact ⟨c :: first, others, rfl, (List.prefix_cons_inj c).mpr front,
        fun part member => List.infix_cons (inside part member)⟩

theorem trim_within (text : List Char) : Text.trim text <:+: text := by
  obtain ⟨before, after, whole, _⟩ := Text.exists_trim text
  exact ⟨before, after, whole.symm⟩

theorem infix_of_mem_pieces {contents piece : List Char} (member : piece ∈ pieces contents) :
    piece <:+: dropComments contents := by
  obtain ⟨first, others, parts, front, inside⟩ := splitEnds_within (dropComments contents)
  obtain ⟨part, among, rfl⟩ := List.mem_map.mp (List.mem_filter.mp member).1
  rw [parts] at among
  refine (trim_within part).trans ?_
  rcases List.mem_cons.mp among with rfl | later
  · exact front.isInfix
  · exact inside part later

/-- A text without a call has no statement with one. -/
theorem callFree_of_no_call {contents : String} (absent : hasCall contents.toList = false) :
    CallFree contents := by
  intro piece member
  by_contra present
  obtain ⟨call, lowered, inside⟩ := hasCall_iff.mp (Bool.not_eq_false _ ▸ present)
  have within : call <:+: contents.toList :=
    ((dropCommentsFrom_lines contents.toList).1 []).anywhere (not_mem_call lowered (by decide))
      (inside.trans (infix_of_mem_pieces member))
  rw [hasCall_iff.mpr ⟨call, lowered, within⟩] at absent
  contradiction

end Statement

namespace Store

variable {entries : List (String × String)}

theorem planFiles_of_callFree (supply : Statement.Supply) (next : Nat)
    (free : ∀ entry ∈ entries, Statement.CallFree entry.2) :
    planFiles supply next entries =
      (entries.map fun entry =>
        ⟨entry.1, (Statement.pieces entry.2.toList).map String.ofList⟩, next) := by
  induction entries with
  | nil => rfl
  | cons entry rest induction =>
    obtain ⟨first, others⟩ := List.forall_mem_cons.mp free
    rw [planFiles, first.split supply next, induction others]
    rfl

end Store

end SqlMigrations
