import SqlMigrations.Proofs.Statement.Calls
import SqlMigrations.Proofs.Text.Search

namespace SqlMigrations.Statement

open Text (isAsciiBlank)

variable {pending blanks text : List Char}

/-- Whether two dashes stand in a row somewhere in a text. -/
def HasDashes (text : List Char) : Prop :=
  ['-', '-'] <:+: text

instance (text : List Char) : Decidable (HasDashes text) :=
  decidable_of_iff (Text.occursIn ['-', '-'] text = true) Text.occursIn_iff_infix

theorem hasDashes_cons {c : Char} :
    HasDashes (c :: text) ↔ (c = '-' ∧ text.head? = some '-') ∨ HasDashes text := by
  have second : ['-'] <+: text ↔ text.head? = some '-' := by
    cases text with
    | nil => simp
    | cons d text => simp [List.cons_prefix_cons, @eq_comm _ d]
  rw [HasDashes, HasDashes, List.infix_cons_iff, List.cons_prefix_cons, second, @eq_comm _ c]

theorem hasDashes_append (absent : '-' ∉ blanks) (text : List Char) :
    HasDashes (blanks ++ text) ↔ HasDashes text := by
  induction blanks with
  | nil => rfl
  | cons c blanks induction =>
    obtain ⟨other, absent⟩ := List.ne_and_not_mem_of_not_mem_cons absent
    rw [List.cons_append, hasDashes_cons, induction absent]
    simp [other.symm]

theorem dash_not_mem (blank : ∀ c ∈ blanks, isAsciiBlank c = true) : '-' ∉ blanks := by
  intro member
  have impossible := blank '-' member
  contradiction

/-- Where no comment begins, all of the text is kept. -/
theorem dropCommentsFrom_of_not_hasDashes (plain : ¬ HasDashes text) (pending : List Char) :
    dropCommentsFrom pending false text = pending.reverse ++ text := by
  induction text generalizing pending with
  | nil => rw [dropCommentsFrom, List.append_nil]
  | cons c text induction =>
    rw [hasDashes_cons, not_or] at plain
    obtain ⟨noComment, plain⟩ := plain
    simp only [dropCommentsFrom, Bool.false_eq_true, if_false, if_neg noComment, induction plain]
    split <;> simp

/-- No comment is left, and none arises where one was removed: a line break or nothing follows. -/
theorem dropCommentsFrom_not_hasDashes {inComment : Bool}
    (blank : ∀ c ∈ pending, isAsciiBlank c = true) :
    ¬ HasDashes (dropCommentsFrom pending inComment text) := by
  fun_induction dropCommentsFrom pending inComment text with
  | case1 pending =>
    have absent : '-' ∉ pending.reverse := by simpa using dash_not_mem blank
    simpa [HasDashes] using (hasDashes_append absent []).not
  | case2 pending rest induction => exact induction (List.forall_mem_singleton.mpr rfl)
  | case3 pending c rest _ induction => exact induction (List.forall_mem_nil _)
  | case4 pending _ c rest _ blankHere induction =>
    exact induction (List.forall_mem_cons.mpr ⟨blankHere, blank⟩)
  | case5 pending _ c rest _ _ _ induction => exact induction (List.forall_mem_nil _)
  | case6 pending _ c rest _ _ noComment induction =>
    have absent : '-' ∉ pending.reverse := by simpa using dash_not_mem blank
    rw [hasDashes_append absent, hasDashes_cons, not_or]
    refine ⟨fun ⟨dash, next⟩ => noComment ⟨dash, ?_⟩, induction (List.forall_mem_nil _)⟩
    -- a dash that the rest goes on with after the removal was there before
    have kept : ['-'] <+: dropCommentsFrom [] false rest := by
      obtain ⟨more, whole⟩ := List.head?_eq_some_iff.mp next
      rw [whole]
      exact ⟨more, rfl⟩
    have there := ((dropCommentsFrom_lines rest).1 []).start (by decide) kept
    obtain ⟨more, whole⟩ := there
    rw [← show ['-'] ++ more = rest from whole]
    rfl

theorem dropCommentsFrom_blanks (blank : ∀ c ∈ blanks, isAsciiBlank c = true)
    (pending text : List Char) :
    dropCommentsFrom pending false (blanks ++ text) =
      dropCommentsFrom (blanks.reverse ++ pending) false text := by
  induction blanks generalizing pending with
  | nil => rfl
  | cons c blanks induction =>
    obtain ⟨first, others⟩ := List.forall_mem_cons.mp blank
    rw [List.cons_append, dropCommentsFrom]
    simp [first, induction others]

/-- Blanks before a text are kept, or a comment at its start takes them all. -/
theorem dropCommentsFrom_append (pending before text : List Char) :
    dropCommentsFrom (pending ++ before) false text =
        before.reverse ++ dropCommentsFrom pending false text ∨
      dropCommentsFrom (pending ++ before) false text = dropCommentsFrom pending false text ∧
        ∀ c ∈ (dropCommentsFrom pending false text).head?, c = '\n' := by
  induction text generalizing pending with
  | nil => exact .inl (by simp [dropCommentsFrom])
  | cons c text induction =>
    simp only [dropCommentsFrom, Bool.false_eq_true, if_false]
    split
    · exact induction (c :: pending)
    · split
      · exact .inr ⟨rfl, (dropCommentsFrom_head text).2⟩
      · exact .inl (by simp)

theorem dropComments_blanks_append (blank : ∀ c ∈ blanks, isAsciiBlank c = true)
    (text : List Char) :
    dropComments (blanks ++ text) = blanks ++ dropComments text ∨
      dropComments (blanks ++ text) = dropComments text ∧
        ∀ c ∈ (dropComments text).head?, c = '\n' := by
  have passed := dropCommentsFrom_append [] blanks.reverse text
  rwa [List.reverse_reverse, List.nil_append, ← List.append_nil blanks.reverse,
    ← dropCommentsFrom_blanks blank] at passed

/-- Behind a line break no comment is open, whatever precedes it. -/
theorem dropCommentsFrom_newline (pending : List Char) (inComment : Bool) (line : List Char) :
    ∃ output later, ∀ rest, dropCommentsFrom pending inComment (line ++ '\n' :: rest) =
      output ++ dropCommentsFrom later false rest := by
  induction line generalizing pending inComment with
  | nil =>
    cases inComment with
    | false => exact ⟨[], '\n' :: pending, fun rest => by simp [dropCommentsFrom, isAsciiBlank]⟩
    | true => exact ⟨[], ['\n'], fun rest => by simp [dropCommentsFrom]⟩
  | cons c line induction =>
    have ahead (rest : List Char) : (line ++ '\n' :: rest).head? = (line ++ ['\n']).head? := by
      cases line <;> rfl
    -- one step of the removal, which looks no further than to the line break
    have step (pending' : List Char) (inComment' : Bool) (front : List Char)
        (passed : ∀ rest, dropCommentsFrom pending inComment (c :: (line ++ '\n' :: rest)) =
          front ++ dropCommentsFrom pending' inComment' (line ++ '\n' :: rest)) :
        ∃ output later, ∀ rest, dropCommentsFrom pending inComment (c :: line ++ '\n' :: rest) =
          output ++ dropCommentsFrom later false rest := by
      obtain ⟨output, later, onward⟩ := induction pending' inComment'
      exact ⟨front ++ output, later, fun rest => by
        rw [List.cons_append, passed, onward, List.append_assoc]⟩
    by_cases inside : inComment = true
    · by_cases newline : c = '\n'
      · exact step ['\n'] false [] fun rest => by simp [dropCommentsFrom, inside, newline]
      · exact step [] true [] fun rest => by simp [dropCommentsFrom, inside, newline]
    · by_cases blank : isAsciiBlank c = true
      · exact step (c :: pending) false [] fun rest => by simp [dropCommentsFrom, inside, blank]
      · by_cases dashes : c = '-' ∧ (line ++ ['\n']).head? = some '-'
        · exact step [] true [] fun rest => by
            simp only [dropCommentsFrom, if_neg inside, if_neg blank, ahead, if_pos dashes,
              List.nil_append]
        · exact step [] false (pending.reverse ++ [c]) fun rest => by
            simp only [dropCommentsFrom, if_neg inside, if_neg blank, ahead, if_neg dashes,
              List.append_assoc, List.singleton_append]

theorem dropCommentsFrom_semicolon (plain : ¬ HasDashes text) (pending rest : List Char) :
    dropCommentsFrom pending false (text ++ ';' :: rest) =
      pending.reverse ++ text ++ ';' :: dropComments rest := by
  induction text generalizing pending with
  | nil => simp [dropCommentsFrom, isAsciiBlank, dropComments]
  | cons c text induction =>
    rw [hasDashes_cons, not_or] at plain
    obtain ⟨noComment, plain⟩ := plain
    have noComment' : ¬ (c = '-' ∧ (text ++ ';' :: rest).head? = some '-') := by
      cases text with
      | nil => simp
      | cons d text => exact noComment
    simp only [List.cons_append, dropCommentsFrom, Bool.false_eq_true, if_false, if_neg noComment',
      induction plain]
    split <;> simp

/-- Behind a semicolon on a line without a comment, removal starts afresh. -/
theorem dropComments_semicolon {before line : List Char}
    (starts : before = [] ∨ before.getLast? = some '\n') (plain : ¬ HasDashes line) :
    ∃ output, ∀ rest, dropComments (before ++ line ++ ';' :: rest) =
      output ++ ';' :: dropComments rest := by
  rcases starts with rfl | last
  · exact ⟨line, fun rest => dropCommentsFrom_semicolon plain [] rest⟩
  · obtain ⟨lines, rfl⟩ := List.getLast?_eq_some_iff.mp last
    obtain ⟨output, later, onward⟩ := dropCommentsFrom_newline [] false lines
    refine ⟨output ++ (later.reverse ++ line), fun rest => ?_⟩
    have passed := onward (line ++ ';' :: rest)
    rw [dropCommentsFrom_semicolon plain] at passed
    simpa [dropComments] using passed

end SqlMigrations.Statement
