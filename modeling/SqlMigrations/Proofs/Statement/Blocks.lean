import Mathlib.Data.List.Forall2
import SqlMigrations.Proofs.Statement.Calls
import SqlMigrations.Proofs.Text.Search
import SqlMigrations.Proofs.Text.Words

/-!
Statements told line by line. Every line is cut at its first two dashes; a block ends with a line
that a semicolon closes. The pieces of a text have the words of its blocks: removing comments takes
away no more than blanks at the ends of lines, so it neither opens nor closes a statement.
-/

namespace SqlMigrations.Statement

open Text (words ink isBlank isAsciiBlank)

variable {c : Char} {line rest text thin : List Char} {lines : List (List Char)}

/-- A line up to its first two dashes. -/
def cutLine (line : List Char) : List Char :=
  match Text.splitOnce? ['-', '-'] line with
  | some (before, _) => before
  | none => line

/-- What precedes the semicolon that closes a line, if one does. -/
def closed? (line : List Char) : Option (List Char) :=
  Text.stripEnd? [';'] (Text.dropEndWhile isLineFiller line)

/-- The blocks of lines, of which `opened` has begun. What follows the last closed line is a block,
too. -/
def blocksFrom (opened : List Char) : List (List Char) → List (List Char)
  | [] => [opened]
  | line :: lines =>
    match closed? line with
    | some body => (opened ++ body) :: blocksFrom [] lines
    | none => blocksFrom (opened ++ line ++ ['\n']) lines

def blocks (contents : List Char) : List (List Char) :=
  (blocksFrom [] ((contents.splitOn '\n').map cutLine)).filter fun block =>
    block.any fun c => !isBlank c

theorem cutLine_cons (c : Char) (line : List Char) :
    cutLine (c :: line) =
      if c = '-' ∧ line.head? = some '-' then [] else c :: cutLine line := by
  by_cases dash : c = '-'
  · cases line with
    | nil => simp [cutLine, Text.splitOnce?, Text.stripStart?, dash]
    | cons d line =>
      by_cases second : d = '-'
      · simp [cutLine, Text.splitOnce?, Text.stripStart?, dash, second]
      · have other : ¬ '-' = d := fun same => second same.symm
        simp only [cutLine, Text.splitOnce?, Text.stripStart?, dash, other]
        cases Text.splitOnce? ['-', '-'] line <;> simp [second]
  · have other : ¬ '-' = c := fun same => dash same.symm
    simp only [cutLine, Text.splitOnce?, Text.stripStart?, dash, other]
    cases Text.splitOnce? ['-', '-'] line <;> simp

/-- The text with every comment cut off and all its blanks. -/
def cutFrom (inComment : Bool) : List Char → List Char
  | [] => []
  | c :: rest =>
    if c = '\n' then '\n' :: cutFrom false rest
    else if inComment = true ∨ (c = '-' ∧ rest.head? = some '-') then cutFrom true rest
    else c :: cutFrom false rest

theorem head?_of_splitOn {first : List Char} {others : List (List Char)}
    (parts : text.splitOn '\n' = first :: others) :
    first.head? = some '-' ↔ text.head? = some '-' := by
  cases text with
  | nil => cases parts; rfl
  | cons c text =>
    rw [List.splitOn_cons_eq_if_modifyHead] at parts
    by_cases newline : c = '\n'
    · simp only [newline, beq_self_eq_true, if_true, List.cons.injEq] at parts
      simp [← parts.1, newline]
    · cases rests : text.splitOn '\n' with
      | nil => exact absurd rests (List.splitOn_ne_nil _ _)
      | cons part parts' =>
        simp only [beq_iff_eq, newline, if_false, rests, List.modifyHead_cons,
          List.cons.injEq] at parts
        simp [← parts.1]

theorem cutFrom_eq_intercalate {first : List Char} {others : List (List Char)}
    (parts : text.splitOn '\n' = first :: others) :
    cutFrom false text = ['\n'].intercalate (cutLine first :: others.map cutLine) ∧
      cutFrom true text = ['\n'].intercalate ([] :: others.map cutLine) := by
  induction text generalizing first others with
  | nil =>
    cases parts
    exact ⟨rfl, rfl⟩
  | cons c text induction =>
    obtain ⟨part, parts', rests⟩ := List.exists_cons_of_ne_nil (List.splitOn_ne_nil '\n' text)
    obtain ⟨outside, inside⟩ := induction rests
    rw [List.splitOn_cons_eq_if_modifyHead, rests] at parts
    by_cases newline : c = '\n'
    · simp only [newline, beq_self_eq_true, if_true, List.cons.injEq] at parts
      obtain ⟨rfl, rfl⟩ := parts
      simp [cutFrom, newline, outside, List.intercalate_cons_cons, cutLine, Text.splitOnce?,
        Text.stripStart?]
    · simp only [beq_iff_eq, newline, if_false, List.modifyHead_cons, List.cons.injEq] at parts
      obtain ⟨rfl, rfl⟩ := parts
      simp only [cutFrom, newline, if_false, true_or, if_true, inside, and_true, Bool.false_eq_true,
        false_or, cutLine_cons, head?_of_splitOn rests, outside]
      split
      · rfl
      · rw [List.intercalate_cons_cons_left]

/-- The second text is the first one without some blanks that stand before a line break or at the
end. -/
inductive Thinned : List Char → List Char → Prop
  | nil : Thinned [] []
  | keep {text thin : List Char} (c : Char) : Thinned text thin → Thinned (c :: text) (c :: thin)
  | drop {text thin : List Char} {c : Char} : isAsciiBlank c = true →
      (∀ d ∈ thin.head?, d = '\n') → Thinned text thin → Thinned (c :: text) thin

theorem Thinned.refl (text : List Char) : Thinned text text := by
  induction text with
  | nil => exact .nil
  | cons c text induction => exact induction.keep c

theorem Thinned.append (thinned : Thinned text thin) (front : List Char) :
    Thinned (front ++ text) (front ++ thin) := by
  induction front with
  | nil => exact thinned
  | cons c front induction => exact induction.keep c

theorem Thinned.drop_all (thinned : Thinned text thin) (ends : ∀ d ∈ thin.head?, d = '\n')
    {blanks : List Char} (blank : ∀ c ∈ blanks, isAsciiBlank c = true) :
    Thinned (blanks ++ text) thin := by
  induction blanks with
  | nil => exact thinned
  | cons c blanks induction =>
    obtain ⟨first, others⟩ := List.forall_mem_cons.mp blank
    exact (induction others).drop first ends

theorem dropCommentsFrom_thinned (text : List Char) :
    (∀ pending, (∀ c ∈ pending, isAsciiBlank c = true) →
      Thinned (pending.reverse ++ cutFrom false text) (dropCommentsFrom pending false text)) ∧
    Thinned (cutFrom true text) (dropCommentsFrom [] true text) := by
  induction text with
  | nil =>
    refine ⟨fun pending _ => ?_, .nil⟩
    rw [cutFrom, dropCommentsFrom, List.append_nil]
    exact .refl _
  | cons c rest induction =>
    obtain ⟨outside, inside⟩ := induction
    constructor
    · intro pending blank
      simp only [dropCommentsFrom, Bool.false_eq_true, if_false]
      split
      · rename_i blankHere
        have more := outside (c :: pending) (List.forall_mem_cons.mpr ⟨blankHere, blank⟩)
        have kept : cutFrom false (c :: rest) = c :: cutFrom false rest := by
          have noDash : c ≠ '-' := by
            rintro rfl
            contradiction
          by_cases newline : c = '\n' <;> simp [cutFrom, newline, noDash]
        rwa [kept, ← List.singleton_append, ← List.append_assoc, ← List.reverse_cons]
      · rename_i visible
        have noNewline : c ≠ '\n' := by
          rintro rfl
          contradiction
        split
        · rename_i dashes
          have cut : cutFrom false (c :: rest) = cutFrom true rest := by
            simp [cutFrom, dashes]
          rw [cut]
          exact inside.drop_all (dropCommentsFrom_head rest).2 fun d member =>
            blank d (List.mem_reverse.mp member)
        · rename_i noComment
          have kept : cutFrom false (c :: rest) = c :: cutFrom false rest := by
            simp [cutFrom, noNewline, noComment]
          rw [kept]
          exact ((outside [] (by simp)).keep c).append pending.reverse
    · simp only [dropCommentsFrom, cutFrom, if_true, true_or]
      split
      · rename_i newline
        rw [newline]
        exact outside ['\n'] (List.forall_mem_singleton.mpr rfl)
      · exact inside

theorem Thinned.words_eq (thinned : Thinned text thin) (front : List Char) :
    words (front ++ text) = words (front ++ thin) := by
  induction thinned generalizing front with
  | nil => rfl
  | keep c _ induction => simpa using induction (front ++ [c])
  | @drop text thin c blank ends _ induction =>
    rw [Text.words_append_blank front text (Text.isBlank_of_isAsciiBlank blank)]
    have later : words text = words thin := induction []
    cases thin with
    | nil => simp [later]
    | cons d thin =>
      obtain rfl : d = '\n' := ends d rfl
      rw [later, Text.words_cons_blank thin rfl, Text.words_append_blank front thin rfl]

/-- A text without vertical tabs and form feeds. -/
def IsPlain (text : List Char) : Prop :=
  ∀ c ∈ text, c ≠ '\x0b' ∧ c ≠ '\x0c'

instance (text : List Char) : Decidable (IsPlain text) :=
  List.decidableBAll (fun c => c ≠ '\x0b' ∧ c ≠ '\x0c') text

theorem isLineFiller_of_isAsciiBlank (blank : isAsciiBlank c = true) (noTab : c ≠ '\x0b')
    (noFeed : c ≠ '\x0c') : isLineFiller c = true ∨ c = '\n' := by
  have codes : c.toNat = 9 ∨ c.toNat = 10 ∨ c.toNat = 11 ∨ c.toNat = 12 ∨ c.toNat = 13 ∨
      c.toNat = 32 := by
    simp only [isAsciiBlank, Bool.or_eq_true, Bool.and_eq_true, decide_eq_true_eq,
      beq_iff_eq] at blank
    omega
  have named {d : Char} (code : c.toNat = d.toNat) : c = d := Char.toNat_inj.mp code
  rcases codes with code | code | code | code | code | code
  · exact .inl (by rw [named (d := '\t') code]; rfl)
  · exact .inr (named code)
  · exact absurd (named (d := '\x0b') code) noTab
  · exact absurd (named (d := '\x0c') code) noFeed
  · exact .inl (by rw [named (d := '\r') code]; rfl)
  · exact .inl (by rw [named (d := ' ') code]; rfl)

theorem isBlank_of_isLineFiller (fills : isLineFiller c = true) : isBlank c = true := by
  simp only [isLineFiller, Bool.or_eq_true, beq_iff_eq] at fills
  rcases fills with (rfl | rfl) | rfl <;> decide

theorem closesLine_cons (c : Char) (rest : List Char) :
    closesLine (c :: rest) = if isLineFiller c = true then closesLine rest else c == '\n' := by
  simp only [closesLine, List.dropWhile_cons]
  by_cases fills : isLineFiller c = true <;> simp [fills]

theorem closesLine_of_ends (ends : ∀ d ∈ rest.head?, d = '\n') {filler : List Char}
    (fills : ∀ c ∈ filler, isLineFiller c = true) : closesLine (filler ++ rest) = true := by
  induction filler with
  | nil =>
    cases rest with
    | nil => rfl
    | cons d rest =>
      obtain rfl : d = '\n' := ends d rfl
      rfl
  | cons c filler induction =>
    obtain ⟨first, others⟩ := List.forall_mem_cons.mp fills
    rw [List.cons_append, closesLine_cons, if_pos first, induction others]

theorem not_closesLine {front : List Char} (oneLine : '\n' ∉ front)
    (visible : isLineFiller c = false) (here : c ≠ '\n') :
    closesLine (front ++ c :: rest) = false := by
  induction front with
  | nil => simp [closesLine_cons, visible, here]
  | cons d front induction =>
    obtain ⟨other, oneLine⟩ := List.ne_and_not_mem_of_not_mem_cons oneLine
    rw [List.cons_append, closesLine_cons]
    split
    · exact induction oneLine
    · simpa using Ne.symm other

theorem Thinned.closesLine_eq (thinned : Thinned text thin) (plain : IsPlain text) :
    closesLine text = closesLine thin := by
  induction thinned with
  | nil => rfl
  | keep c _ induction =>
    rw [closesLine_cons, closesLine_cons, induction (List.forall_mem_cons.mp plain).2]
  | @drop text thin c blank ends _ induction =>
    obtain ⟨⟨noTab, noFeed⟩, later⟩ := List.forall_mem_cons.mp plain
    rw [closesLine_cons]
    rcases isLineFiller_of_isAsciiBlank blank noTab noFeed with fills | rfl
    · rw [if_pos fills, induction later]
    · exact (@closesLine_of_ends thin ends [] (by simp)).symm

theorem closed?_eq_some_iff {body : List Char} : closed? line = some body ↔
    ∃ filler, line = body ++ ';' :: filler ∧ ∀ c ∈ filler, isLineFiller c = true := by
  rw [closed?, Text.stripEnd?_eq_some_iff]
  have whole : Text.dropEndWhile isLineFiller line ++ line.rtakeWhile isLineFiller = line :=
    List.rdropWhile_append_rtakeWhile
  constructor
  · intro ended
    refine ⟨line.rtakeWhile isLineFiller, ?_, fun c member => List.mem_rtakeWhile_imp member⟩
    rw [← List.singleton_append, ← List.append_assoc, ← ended, whole]
  · rintro ⟨filler, rfl, fills⟩
    have fillsBack : ∀ c ∈ filler.reverse, isLineFiller c = true := fun c member =>
      fills c (List.mem_reverse.mp member)
    rw [Text.dropEndWhile, List.reverse_append, List.reverse_cons, List.append_assoc,
      List.dropWhile_append_of_pos fillsBack]
    simp [isLineFiller]

theorem splitEnds_ne_nil (text : List Char) : splitEnds text ≠ [] := by
  obtain ⟨first, others, parts, _⟩ := splitEnds_within text
  simp [parts]

theorem splitEnds_cons (c : Char) (rest : List Char) :
    splitEnds (c :: rest) =
      if c = ';' ∧ closesLine rest = true then [] :: splitEnds rest
      else (splitEnds rest).modifyHead (c :: ·) := by
  obtain ⟨first, others, parts⟩ := List.exists_cons_of_ne_nil (splitEnds_ne_nil rest)
  rw [splitEnds, parts]
  rfl

theorem splitEnds_append {front : List Char}
    (quiet : ∀ before after, front = before ++ ';' :: after → closesLine (after ++ rest) = false) :
    splitEnds (front ++ rest) = (splitEnds rest).modifyHead (front ++ ·) := by
  induction front with
  | nil => cases parts : splitEnds rest <;> simp [parts]
  | cons c front induction =>
    have later := induction fun before after split => quiet (c :: before) after (by rw [split]; rfl)
    have unclosed : ¬ (c = ';' ∧ closesLine (front ++ rest) = true) := by
      rintro ⟨rfl, closes⟩
      rw [quiet [] front rfl] at closes
      contradiction
    rw [List.cons_append, splitEnds_cons, if_neg unclosed, later, List.modifyHead_modifyHead]
    rfl

theorem splitEnds_append_of_not_mem {front : List Char} (absent : ';' ∉ front) (rest : List Char) :
    splitEnds (front ++ rest) = (splitEnds rest).modifyHead (front ++ ·) :=
  splitEnds_append fun before after split => absurd (by simp [split]) absent

theorem Thinned.splitEnds (thinned : Thinned text thin) (plain : IsPlain text) :
    List.Forall₂ Thinned (splitEnds text) (splitEnds thin) := by
  induction thinned with
  | nil => exact .cons .nil .nil
  | @keep text thin c below induction =>
    obtain ⟨_, later⟩ := List.forall_mem_cons.mp plain
    have parts := induction later
    rw [splitEnds_cons, splitEnds_cons, below.closesLine_eq later]
    split
    · exact .cons .nil parts
    · revert parts
      cases Statement.splitEnds text <;> cases Statement.splitEnds thin <;> intro parts
      · exact .nil
      · cases parts
      · cases parts
      · cases parts with
        | cons first others => exact .cons (first.keep c) others
  | @drop text thin c blank ends _ induction =>
    obtain ⟨_, later⟩ := List.forall_mem_cons.mp plain
    obtain ⟨first, others, thinParts, front, _⟩ := splitEnds_within thin
    have parts := induction later
    have unclosed : ¬ (c = ';' ∧ closesLine text = true) := by
      rintro ⟨rfl, _⟩
      contradiction
    rw [splitEnds_cons, if_neg unclosed, thinParts]
    rw [thinParts] at parts
    obtain ⟨part, parts', same, rest, textParts⟩ := List.forall₂_cons_right_iff.mp parts
    rw [textParts]
    refine .cons (same.drop blank fun d head => ?_) rest
    obtain ⟨tail, rfl⟩ := front
    exact ends d (by rw [List.head?_append, Option.mem_def.mp head]; rfl)

/-- A line that a semicolon closes ends a part; one that none closes goes into the part after it. -/
theorem splitEnds_line {tail : List Char} (oneLine : '\n' ∉ line)
    (ends : ∀ d ∈ tail.head?, d = '\n') :
    (∀ {body filler}, line = body ++ ';' :: filler → (∀ c ∈ filler, isLineFiller c = true) →
      splitEnds (line ++ tail) = body :: (splitEnds tail).modifyHead (filler ++ ·)) ∧
    (closed? line = none → splitEnds (line ++ tail) = (splitEnds tail).modifyHead (line ++ ·)) := by
  constructor
  · rintro body filler rfl fills
    have quiet : ∀ before after, body = before ++ ';' :: after →
        closesLine (after ++ ';' :: (filler ++ tail)) = false := by
      rintro before after rfl
      exact not_closesLine (fun member => oneLine (by simp [member])) rfl (by decide)
    have filled : splitEnds (filler ++ tail) = (splitEnds tail).modifyHead (filler ++ ·) := by
      refine splitEnds_append fun before after split => ?_
      have impossible := fills ';' (by simp [split])
      contradiction
    have closes : ';' = ';' ∧ closesLine (filler ++ tail) = true :=
      ⟨rfl, closesLine_of_ends ends fills⟩
    rw [List.append_assoc, List.cons_append, splitEnds_append quiet, splitEnds_cons, if_pos closes,
      filled, List.modifyHead_cons, List.append_nil]
  · intro unclosed
    refine splitEnds_append fun before after split => ?_
    -- something visible follows the semicolon, or it would close the line
    have visible : ∃ c ∈ after, isLineFiller c = false := by
      by_contra none
      have fills : ∀ c ∈ after, isLineFiller c = true := fun c member => by
        by_contra other
        exact none ⟨c, member, eq_false_of_ne_true other⟩
      rw [closed?_eq_some_iff.mpr ⟨after, split, fills⟩] at unclosed
      contradiction
    obtain ⟨c, member, visible⟩ := visible
    obtain ⟨front, rest, rfl⟩ := List.append_of_mem member
    subst split
    rw [List.append_assoc, List.cons_append]
    refine not_closesLine (fun inside => oneLine ?_) visible ?_
    · simp [inside]
    · rintro rfl
      exact oneLine (by simp)

theorem not_mem_of_mem_splitOn (member : line ∈ text.splitOn c) : c ∉ line := by
  induction text generalizing line with
  | nil =>
    rw [List.splitOn_nil, List.mem_singleton] at member
    simp [member]
  | cons d text induction =>
    rw [List.splitOn_cons_eq_if_modifyHead] at member
    split at member
    · rcases List.mem_cons.mp member with rfl | later
      · exact List.not_mem_nil
      · exact induction later
    · rename_i other
      cases parts : text.splitOn c with
      | nil => simp [parts] at member
      | cons part parts' =>
        rw [parts, List.modifyHead_cons] at member
        rw [parts] at induction
        rcases List.mem_cons.mp member with rfl | later
        · refine List.not_mem_cons_of_ne_of_not_mem (fun same => other (by simp [same])) ?_
          exact induction List.mem_cons_self
        · exact induction (List.mem_cons_of_mem part later)

theorem cutLine_starts (line : List Char) : cutLine line <+: line := by
  induction line with
  | nil => exact List.nil_prefix
  | cons c line induction =>
    rw [cutLine_cons]
    split
    · exact List.nil_prefix
    · exact (List.prefix_cons_inj c).mpr induction

theorem cutFrom_subset (inComment : Bool) (text : List Char) : cutFrom inComment text ⊆ text := by
  induction text generalizing inComment with
  | nil => exact List.Subset.refl _
  | cons c rest induction =>
    rw [cutFrom]
    split
    · rename_i newline
      exact newline ▸ List.cons_subset_cons c (induction false)
    · split
      · exact List.subset_cons_of_subset c (induction true)
      · exact List.cons_subset_cons c (induction false)

/-- Cutting joined lines at the ends of statements gives the blocks of the lines. `lead` is what the
cutting has put in front, `opened` what the open block holds. -/
theorem splitEnds_intercalate (oneLine : ∀ line ∈ lines, '\n' ∉ line) {lead opened : List Char}
    (alike : ∀ rest, words (lead ++ rest) = words (opened ++ rest)) :
    ((splitEnds (['\n'].intercalate lines)).modifyHead (lead ++ ·)).map words =
      (blocksFrom opened lines).map words := by
  induction lines generalizing lead opened with
  | nil => simpa [splitEnds, blocksFrom] using alike []
  | cons line lines induction =>
    obtain ⟨here, later⟩ := List.forall_mem_cons.mp oneLine
    -- what stands between this line and the others: a line break, or nothing behind the last line
    obtain ⟨gap, last, blank, joined, ends, parts⟩ : ∃ gap : List Char,
        (lines = [] ∨ gap = ['\n']) ∧ (∀ c ∈ gap, isBlank c = true) ∧
        ['\n'].intercalate (line :: lines) = line ++ (gap ++ ['\n'].intercalate lines) ∧
        (∀ d ∈ (gap ++ ['\n'].intercalate lines).head?, d = '\n') ∧
        splitEnds (gap ++ ['\n'].intercalate lines) =
          (splitEnds (['\n'].intercalate lines)).modifyHead (gap ++ ·) := by
      cases lines with
      | nil => exact ⟨[], .inl rfl, by simp, by simp, by simp, rfl⟩
      | cons next lines =>
        refine ⟨['\n'], .inr rfl, List.forall_mem_singleton.mpr rfl,
          by simp [List.intercalate_cons_cons], by simp, ?_⟩
        exact splitEnds_append fun before after split => by
          cases before <;> simp at split
    obtain ⟨closing, running⟩ := splitEnds_line here ends
    rw [joined, blocksFrom]
    cases close : closed? line with
    | some body =>
      obtain ⟨filler, split, fills⟩ := closed?_eq_some_iff.mp close
      have blanks : ∀ c ∈ filler ++ gap, isBlank c = true := by
        intro c member
        rcases List.mem_append.mp member with inside | inside
        · exact isBlank_of_isLineFiller (fills c inside)
        · exact blank c inside
      have next := @induction later (filler ++ gap) [] (Text.words_blanks_append blanks)
      rw [closing split fills, parts, List.modifyHead_modifyHead, List.modifyHead_cons]
      simpa [Function.comp_def, alike body] using next
    | none =>
      rw [running close, parts, List.modifyHead_modifyHead, List.modifyHead_modifyHead]
      rcases last with rfl | rfl
      · have ended : words (lead ++ (line ++ gap)) = words (opened ++ line ++ ['\n']) := by
          rw [alike, ← List.append_assoc, Text.words_append_blanks blank,
            Text.words_append_blank _ [] rfl, Text.words_nil, List.append_nil]
        simpa [splitEnds, blocksFrom] using ended
      · have next := @induction later (lead ++ (line ++ ['\n'])) (opened ++ line ++ ['\n'])
          fun rest => by simpa using alike (line ++ '\n' :: rest)
        simpa [Function.comp_def] using next

theorem map_words_pieces (contents : List Char) :
    (pieces contents).map words =
      ((splitEnds (dropComments contents)).map words).filter fun part => !part.isEmpty := by
  have trimmed : words ∘ Text.trim = words := funext Text.words_trim
  have inked : (fun piece : List Char => !piece.isEmpty) ∘ Text.trim =
      (fun part : List (List Char) => !part.isEmpty) ∘ words := by
    funext part
    rw [Bool.eq_iff_iff]
    simp [Text.trim_eq_nil_iff]
  rw [pieces, List.filter_map, List.map_map, trimmed, inked, List.filter_map]

theorem map_words_blocks (contents : List Char) :
    (blocks contents).map words =
      ((blocksFrom [] ((contents.splitOn '\n').map cutLine)).map words).filter
        fun part => !part.isEmpty := by
  have inked : (fun block : List Char => block.any fun c => !isBlank c) =
      (fun part : List (List Char) => !part.isEmpty) ∘ words := by
    funext block
    rw [Bool.eq_iff_iff]
    simp [Text.words_eq_nil_iff]
  rw [blocks, inked, List.filter_map]

/-- The pieces of a text have the words of its blocks, one by one. -/
theorem pieces_words {contents : List Char} (plain : IsPlain contents) :
    (pieces contents).map words = (blocks contents).map words := by
  obtain ⟨first, others, parts⟩ :=
    List.exists_cons_of_ne_nil (List.splitOn_ne_nil '\n' contents)
  have lined : cutFrom false contents =
      ['\n'].intercalate ((contents.splitOn '\n').map cutLine) := by
    rw [parts]
    exact (cutFrom_eq_intercalate parts).1
  have oneLine : ∀ line ∈ (contents.splitOn '\n').map cutLine, '\n' ∉ line := by
    intro line member inside
    obtain ⟨whole, among, rfl⟩ := List.mem_map.mp member
    exact not_mem_of_mem_splitOn among ((cutLine_starts whole).subset inside)
  have cutPlain : IsPlain (cutFrom false contents) := fun c member =>
    plain c (cutFrom_subset false contents member)
  have thinned : List.Forall₂ Thinned (splitEnds (cutFrom false contents))
      (splitEnds (dropComments contents)) :=
    Thinned.splitEnds ((dropCommentsFrom_thinned contents).1 [] (by simp)) cutPlain
  have sameWords : (splitEnds (dropComments contents)).map words =
      (splitEnds (cutFrom false contents)).map words := by
    rw [← List.forall₂_eq_eq_eq, List.forall₂_map_left_iff, List.forall₂_map_right_iff]
    exact (thinned.imp fun part thin below => (below.words_eq []).symm).flip
  have blocked := @splitEnds_intercalate _ oneLine [] [] fun _ => rfl
  have nothingBefore : (fun part : List Char => [] ++ part) = id := rfl
  rw [← lined, nothingBefore, List.modifyHead_id, id] at blocked
  rw [map_words_pieces, map_words_blocks, sameWords, blocked]

end SqlMigrations.Statement
