import SqlMigrations.Proofs.Statement.Blocks
import SqlMigrations.Proofs.Statement.Comments
import SqlMigrations.Proofs.Text.Trim

namespace SqlMigrations.Statement

open Text (isAsciiBlank)

variable {blanks front : List Char}

/-- Whether a text is empty or ends with a line without a comment whose last visible character is a
semicolon, and a line break. -/
def IsTerminated (text : List Char) : Prop :=
  text = [] ∨ ∃ before line, text = before ++ line ++ ['\n'] ∧
    (before = [] ∨ before.getLast? = some '\n') ∧ '\n' ∉ line ∧ ¬ HasDashes line ∧
    (Text.dropEndWhile isLineFiller line).getLast? = some ';'

theorem closesLine_semicolon (front rest : List Char) :
    closesLine (front ++ ';' :: rest) = closesLine (front ++ [';']) := by
  induction front with
  | nil => rfl
  | cons c front induction =>
    rw [List.cons_append, List.cons_append, closesLine_cons, closesLine_cons, induction]

/-- The parts before a semicolon that closes its line do not depend on what follows it. -/
theorem splitEnds_semicolon (front : List Char) :
    ∃ first others, ∀ rest, closesLine rest = true →
      splitEnds (front ++ ';' :: rest) = first :: others ++ splitEnds rest := by
  induction front with
  | nil => exact ⟨[], [], fun rest closes => by simp [splitEnds_cons, closes]⟩
  | cons c front induction =>
    obtain ⟨first, others, parts⟩ := induction
    by_cases ends : c = ';' ∧ closesLine (front ++ [';']) = true
    · refine ⟨[], first :: others, fun rest closes => ?_⟩
      rw [List.cons_append, splitEnds_cons, closesLine_semicolon, if_pos ends, parts rest closes]
      rfl
    · refine ⟨c :: first, others, fun rest closes => ?_⟩
      rw [List.cons_append, splitEnds_cons, closesLine_semicolon, if_neg ends, parts rest closes]
      rfl

/-- The parts of a text that have more than blanks, without the blanks around them. -/
def visibleParts (parts : List (List Char)) : List (List Char) :=
  (parts.map Text.trim).filter fun piece => !piece.isEmpty

theorem pieces_eq_visibleParts (contents : List Char) :
    pieces contents = visibleParts (splitEnds (dropComments contents)) :=
  rfl

theorem visibleParts_append (left right : List (List Char)) :
    visibleParts (left ++ right) = visibleParts left ++ visibleParts right := by
  simp [visibleParts]

theorem visibleParts_blanks (blank : ∀ c ∈ blanks, isAsciiBlank c = true) (text : List Char) :
    visibleParts (splitEnds (blanks ++ text)) = visibleParts (splitEnds text) := by
  have absent : ';' ∉ blanks := fun member => by
    have impossible := blank ';' member
    contradiction
  obtain ⟨first, others, parts⟩ := List.exists_cons_of_ne_nil (splitEnds_ne_nil text)
  have trimmed := Text.trim_blanks_append
    (fun c member => Text.isBlank_of_isAsciiBlank (blank c member)) first
  simp [splitEnds_append_of_not_mem absent, parts, visibleParts, trimmed]

theorem pieces_blanks_append (blank : ∀ c ∈ blanks, isAsciiBlank c = true) (text : List Char) :
    pieces (blanks ++ text) = pieces text := by
  rw [pieces_eq_visibleParts, pieces_eq_visibleParts]
  rcases dropComments_blanks_append blank text with kept | ⟨taken, -⟩
  · rw [kept, visibleParts_blanks blank]
  · rw [taken]

theorem isAsciiBlank_of_line_end {filler : List Char}
    (fills : ∀ c ∈ filler, isLineFiller c = true) :
    ∀ c ∈ filler ++ ['\n'], isAsciiBlank c = true := by
  intro c member
  rcases List.mem_append.mp member with inside | last
  · have filled := fills c inside
    simp only [isLineFiller, Bool.or_eq_true, beq_iff_eq] at filled
    rcases filled with (rfl | rfl) | rfl <;> decide
  · obtain rfl := List.mem_singleton.mp last
    decide

/-- The removal of a comment on the next line leaves a semicolon at the end of its line. -/
theorem closesLine_dropComments {filler : List Char} (fills : ∀ c ∈ filler, isLineFiller c = true)
    (rest : List Char) : closesLine (dropComments (filler ++ ['\n'] ++ rest)) = true := by
  rcases dropComments_blanks_append (isAsciiBlank_of_line_end fills) rest with kept | ⟨taken, ends⟩
  · rw [kept, List.append_assoc]
    exact closesLine_of_ends (by simp) fills
  · rw [taken]
    exact @closesLine_of_ends _ ends [] (by simp)

theorem exists_closing_semicolon {line : List Char}
    (closed : (Text.dropEndWhile isLineFiller line).getLast? = some ';') :
    ∃ body filler, line = body ++ ';' :: filler ∧ ∀ c ∈ filler, isLineFiller c = true := by
  obtain ⟨body, ended⟩ := List.getLast?_eq_some_iff.mp closed
  exact ⟨body, closed?_eq_some_iff.mp (Text.stripEnd?_eq_some_iff.mpr ended)⟩

theorem pieces_append (terminated : IsTerminated front) (back : List Char) :
    pieces (front ++ back) = pieces front ++ pieces back := by
  rcases terminated with rfl | ⟨before, line, rfl, starts, -, plain, closed⟩
  · rfl
  · obtain ⟨body, filler, rfl, fills⟩ := exists_closing_semicolon closed
    have plainBody : ¬ HasDashes body := fun inside =>
      plain (inside.trans (List.prefix_append body _).isInfix)
    obtain ⟨output, onward⟩ := dropComments_semicolon starts plainBody
    obtain ⟨first, others, parts⟩ := splitEnds_semicolon output
    have followed (back : List Char) :
        pieces (before ++ (body ++ ';' :: filler) ++ ['\n'] ++ back) =
          visibleParts (first :: others) ++ pieces back := by
      have shape : before ++ (body ++ ';' :: filler) ++ ['\n'] ++ back =
          before ++ body ++ ';' :: (filler ++ ['\n'] ++ back) := by simp
      rw [shape, pieces_eq_visibleParts, onward, parts _ (closesLine_dropComments fills back),
        visibleParts_append, ← pieces_eq_visibleParts,
        pieces_blanks_append (isAsciiBlank_of_line_end fills)]
    have alone := followed []
    rw [List.append_nil] at alone
    rw [followed back, alone, List.append_assoc]
    rfl

theorem expandAll_append (supply : Supply) (next : Nat) (left right : List (List Char)) :
    expandAll supply next (left ++ right) =
      ((expandAll supply next left).1 ++
        (expandAll supply (expandAll supply next left).2 right).1,
      (expandAll supply (expandAll supply next left).2 right).2) := by
  induction left generalizing next with
  | nil => rfl
  | cons piece left induction =>
    rw [List.cons_append, expandAll, induction]
    rfl

/-- The statements of a terminated file stay in front of those of a text that is appended to it,
which draws its identifiers after theirs. So they are the same at the same places, whatever
follows. -/
theorem split_append (supply : Supply) (next : Nat) {front : String}
    (terminated : IsTerminated front.toList) (back : String) :
    split supply next (front ++ back) =
        ((split supply next front).1 ++ (split supply (split supply next front).2 back).1,
          (split supply (split supply next front).2 back).2) ∧
      ∀ edited : String, ∀ index < (split supply next front).1.length,
        (split supply next (front ++ edited)).1[index]? =
          (split supply next (front ++ back)).1[index]? := by
  have appended (back : String) : split supply next (front ++ back) =
      ((split supply next front).1 ++ (split supply (split supply next front).2 back).1,
        (split supply (split supply next front).2 back).2) := by
    simp only [split, String.toList_append, pieces_append terminated, expandAll_append]
  refine ⟨appended back, fun edited index inside => ?_⟩
  rw [appended edited, appended back, List.getElem?_append_left inside,
    List.getElem?_append_left inside]

/-- A file with a comment line, whose only statement takes two lines and is closed before blanks. -/
def keysFile : String :=
  "-- keys\nINSERT INTO t\n  VALUES (uuid()); \r\n"

theorem keysFile_appended : IsTerminated keysFile.toList ∧
    split (List.replicate · 'x') 3 (keysFile ++ "  -- more\nSELECT uuid()") =
      (["INSERT INTO t\n  VALUES ('xxx')", "SELECT 'xxxx'"], 5) ∧
    (split (List.replicate · 'x') 3 (keysFile ++ "SELECT 2;\n")).1[0]? =
      some "INSERT INTO t\n  VALUES ('xxx')" := by
  have terminated : IsTerminated keysFile.toList :=
    .inr ⟨"-- keys\nINSERT INTO t\n".toList, "  VALUES (uuid()); \r".toList, by decide +kernel,
      by decide +kernel, by decide +kernel, by decide +kernel, by decide +kernel⟩
  have front : split (List.replicate · 'x') 3 keysFile =
      (["INSERT INTO t\n  VALUES ('xxx')"], 4) := by decide +kernel
  have back : split (List.replicate · 'x') 4 "  -- more\nSELECT uuid()" =
      (["SELECT 'xxxx'"], 5) := by decide +kernel
  obtain ⟨appended, kept⟩ :=
    split_append (List.replicate · 'x') 3 terminated "  -- more\nSELECT uuid()"
  rw [front] at appended kept
  rw [back] at appended
  refine ⟨terminated, appended, ?_⟩
  rw [kept "SELECT 2;\n" 0 (by decide), appended]
  rfl

end SqlMigrations.Statement
