import SqlMigrations.Proofs.Catalog.CheckLines
import SqlMigrations.Proofs.Catalog.PrimaryIndex

/-!
The enumerations of a SQLite table. The labels in the check clause of a column reach the description
of the table, unless an earlier line starts with a word in which the check word follows the name of
the column at once: the constraint of that line is then taken for the first one of the column.
-/

namespace SqlMigrations.Catalog

open Schema
open Text (isBlank joinAll)

section
variable {name other : List Char} {lines : List (List Char)} {clause : String}

theorem readCheckLine?_eq_some_iff (named : name ≠ []) :
    readCheckLine? other = some (String.ofList name, clause) ↔ ∃ front after,
      OnlyBetween checkWord (Text.trim other) front after ∧ unwrapName (firstWord front) = name ∧
        clause = String.ofList (dropComma (Text.trim after)) := by
  simp only [← splitCheck?_eq_some_iff]
  rw [readCheckLine?]
  constructor
  · intro found
    cases cut : splitCheck? (Text.trim other) with
    | none => simp [cut] at found
    | some parts =>
      obtain ⟨front, after⟩ := parts
      cases first : unwrapName (firstWord front) with
      | nil => simp [cut, first] at found
      | cons c word =>
        simp only [cut, first, Option.some.injEq, Prod.mk.injEq, String.ofList_inj] at found
        exact ⟨front, after, rfl, first.trans found.1, found.2.symm⟩
  · rintro ⟨front, after, cut, rfl, rfl⟩
    simp only [cut]

/-- Whether a line starts with a word in which the check word follows a name at once. The constraint
is what stands behind it. -/
def Glued (name line : List Char) (clause : String) : Prop :=
  ∃ front after, OnlyBetween checkWord (Text.trim line) front after ∧
    (∀ c ∈ front, isBlank c = false) ∧ unwrapName front = name ∧
      clause = String.ofList (dropComma (Text.trim after))

/-- Whether the first word of a line with a check word is another than the name. -/
def ChecksOther (name line : List Char) : Prop :=
  ∀ before after, WordBetween checkWord line before after → unwrapName (firstWord line) ≠ name

/-- A line whose first word is another name has a constraint of the name only where the check word
follows the name at once. -/
theorem readCheckLine?_iff_glued (named : name ≠ []) (checksOther : ChecksOther name other) :
    readCheckLine? other = some (String.ofList name, clause) ↔ Glued name other clause := by
  rw [readCheckLine?_eq_some_iff named]
  refine exists_congr fun front => exists_congr fun after => and_congr_right fun only => ?_
  by_cases ink : ∀ c ∈ front, isBlank c = false
  · rw [firstWord_of_ink ink, and_iff_right ink]
  · refine iff_of_false (fun found => ?_) fun glued => ink glued.1
    obtain ⟨middle, lowered, whole⟩ := only.found
    have head := (Text.trim_isBare other).first
    have blank : ∃ c ∈ front, isBlank c = true := by simpa using ink
    rw [whole] at head
    have first : firstWord other = firstWord front := by
      rw [← firstWord_trim, whole, firstWord_append_of_blank head blank]
    obtain ⟨lead, trail, around, -, -⟩ := Text.exists_trim other
    have between : WordBetween checkWord other (lead ++ front) (after ++ trail) :=
      ⟨middle, lowered, by rw [around, whole]; simp⟩
    exact checksOther _ _ between (first ▸ found.1)

def clauseFor? (name line : List Char) : Option String :=
  ((readCheckLine? line).filter fun clause => clause.1 == String.ofList name).map Prod.snd

theorem clauseFor?_eq_some_iff : clauseFor? name other = some clause ↔
    readCheckLine? other = some (String.ofList name, clause) := by
  simp [clauseFor?, Option.map_eq_some_iff, Option.filter_eq_some_iff]

/-- The first constraint of a name is that of the first line that has one. -/
theorem clausesOf_head? (name : List Char) (lines : List (List Char)) :
    (clausesOf (String.ofList name) (lines.filterMap readCheckLine?)).head? =
      lines.findSome? (clauseFor? name) := by
  rw [clausesOf, List.filter_filterMap, List.map_filterMap, List.head?_filterMap]
  rfl

/-- The constraint of the first of the lines in which the check word follows the name at once. -/
def FirstGlued (name : List Char) (lines : List (List Char)) (clause : String) : Prop :=
  ∃ before line after, lines = before ++ line :: after ∧ Glued name line clause ∧
    ∀ earlier ∈ before, ∀ other, ¬ Glued name earlier other

theorem findSome?_clauseFor?_iff (named : name ≠ [])
    (checkOthers : ∀ line ∈ lines, ChecksOther name line) :
    lines.findSome? (clauseFor? name) = some clause ↔ FirstGlued name lines clause := by
  have reads {line : List Char} (member : line ∈ lines) (clause : String) :
      clauseFor? name line = some clause ↔ Glued name line clause :=
    clauseFor?_eq_some_iff.trans (readCheckLine?_iff_glued named (checkOthers line member))
  rw [List.findSome?_eq_some_iff]
  constructor
  · rintro ⟨before, line, after, rfl, found, none⟩
    refine ⟨before, line, after, rfl, (reads (by simp) clause).mp found, ?_⟩
    intro earlier member other glued
    have some := (reads (by simp [member]) other).mpr glued
    simp [none earlier member] at some
  · rintro ⟨before, line, after, rfl, glued, none⟩
    refine ⟨before, line, after, rfl, (reads (by simp) clause).mpr glued, ?_⟩
    intro earlier member
    refine Option.eq_none_iff_forall_ne_some.mpr fun other found => ?_
    exact none earlier member other ((reads (by simp [member]) other).mp found)

end

def definitionOf (lines : List (List Char)) : String :=
  String.ofList (joinAll '\n' lines)

/-- Whether a name has its labels: its first constraint in the definition gives exactly these, and a
table with that definition is described with an enumeration of them. -/
structure LabelsSurvive (definition name : String) (labels : List String) : Prop where
  read : (clausesOf name (checkClauses definition)).head?.map labelsOfCheck = some labels
  described : ∀ (replies : Sqlite.Replies) table rows entries,
    replies.tableInfo table = .ok rows → replies.createText table = .ok (some definition) →
      replies.indexList table = .ok entries → (∃ row ∈ rows, row.name = name) →
        ∃ described, (Sqlite.describeTable replies table).result = .ok described ∧
          (∃ column ∈ described.columns, column.name = name) ∧
          ∀ column ∈ described.columns, column.name = name → column.Enumerates labels

section
variable {definition name clause : String} {labels : List String}

theorem withChecks_enumerates {clauses : List (String × String)} {column : Column}
    (first : (clausesOf column.name clauses).head? = some clause)
    (labelled : labelsOfCheck clause ≠ []) :
    (Sqlite.withChecks clauses column).Enumerates (labelsOfCheck clause) := by
  obtain ⟨later, found⟩ := List.head?_eq_some_iff.mp first
  rw [Sqlite.withChecks, found]
  exact @Column.normalized_enumerates { column with values := labelsOfCheck clause } labelled

theorem LabelsSurvive.of_first
    (first : (clausesOf name (checkClauses definition)).head? = some clause)
    (read : labelsOfCheck clause = labels) (labelled : labels ≠ []) :
    LabelsSurvive definition name labels where
  read := by rw [first, Option.map_some, read]
  described replies table rows entries info text entered known := by
    obtain ⟨row, member, named⟩ := known
    obtain ⟨listed, -, ended⟩ := Sqlite.tableIndexes_result entered
    have clauses : (Sqlite.readClauses replies table).result = .ok (checkClauses definition) := by
      rw [Sqlite.readClauses, text]
      rfl
    refine ⟨_, Sqlite.describeTable_of_parts info (List.ne_nil_of_mem member) clauses ended, ?_, ?_⟩
    · refine ⟨_, List.mem_map_of_mem (List.mem_map_of_mem member), ?_⟩
      rw [Column.withKeyFrom_name, Sqlite.withChecks_name]
      exact named
    · simp only [enrichKeys, List.map_map, List.forall_mem_map, Function.comp_apply,
        Column.withKeyFrom_name, Sqlite.withChecks_name]
      intro row _ named
      refine Column.Enumerates.withKeyFrom ?_ _
      rw [← read]
      exact withChecks_enumerates (named ▸ first) (read ▸ labelled)

end

/-- Where every other line with a check word has another first word, the labels in the check clause
of a column survive if and only if no line before it starts with a word in which the check word
follows the name at once, or the first such line gives the same labels. -/
theorem labels_survive_iff {line : CheckLine} {earlier later : List (List Char)}
    (single : line.Single) (lines : ∀ other ∈ earlier ++ later, '\n' ∉ other)
    (checkOthers : ∀ other ∈ earlier ++ later, ChecksOther line.name other) :
    LabelsSurvive (definitionOf (earlier ++ line.text :: later)) (String.ofList line.name)
        line.labels ↔
      ∀ clause, FirstGlued line.name earlier clause → labelsOfCheck clause = line.labels := by
  have parts : checkClauses (definitionOf (earlier ++ line.text :: later)) =
      (earlier ++ line.text :: later).filterMap readCheckLine? := by
    rw [checkClauses, definitionOf, String.toList_ofList, Text.splitAll_joinAll ?_ (by simp)]
    simpa [or_imp, forall_and, line.newline_not_mem_text] using lines
  have own : clauseFor? line.name line.text = some (String.ofList line.constraint) :=
    clauseFor?_eq_some_iff.mpr (CheckLine.readCheckLine?_text single)
  have glued (clause : String) : earlier.findSome? (clauseFor? line.name) = some clause ↔
      FirstGlued line.name earlier clause :=
    findSome?_clauseFor?_iff line.named fun other member =>
      checkOthers other (List.mem_append_left later member)
  have first : (clausesOf (String.ofList line.name)
      (checkClauses (definitionOf (earlier ++ line.text :: later)))).head? =
        (earlier.findSome? (clauseFor? line.name)).or (some (String.ofList line.constraint)) := by
    rw [parts, clausesOf_head?, List.findSome?_append, List.findSome?_cons, own]
  constructor
  · intro survive clause ahead
    have read := survive.read
    rw [first, (glued clause).mpr ahead] at read
    exact Option.some.inj read
  · intro agree
    have labelled : line.labels ≠ [] := by simpa [CheckLine.labels, listLabels] using line.labelled
    cases ahead : earlier.findSome? (clauseFor? line.name) with
    | none =>
      rw [ahead, Option.none_or] at first
      exact .of_first first line.labelsOfCheck_constraint labelled
    | some clause =>
      rw [ahead, Option.some_or] at first
      exact .of_first first (agree clause ((glued clause).mp ahead)) labelled

/-- A column with two labels. -/
def statusLine : CheckLine where
  lead := ⟨[' ', ' '], by simp [isGap]⟩
  wrapping := .bare
  name := "status".toList
  gap := ⟨[' '], by simp [isGap]⟩
  type := "TEXT ".toList
  check := "CHECK".toList
  ahead := ⟨[' '], by simp [isGap]⟩
  inside := ⟨[], List.forall_mem_nil _⟩
  again := .bare
  apart := ⟨[' '], by simp [isGap]⟩
  inWord := "IN".toList
  opening := ⟨[' '], by simp [isGap]⟩
  items := [⟨[], ['b'], [], List.forall_mem_nil _, List.forall_mem_nil _, by decide⟩,
    ⟨[' '], ['a'], [], by simp [isGap], List.forall_mem_nil _, by decide⟩]
  closing := ⟨[], List.forall_mem_nil _⟩
  rest := []
  named := by decide
  word := List.all_eq_true.mp (by decide)
  gap_some := by decide
  check_word := by decide
  apart_some := by decide
  in_word := by decide
  labelled := by simp
  plain := by simp
  one_line := by decide

theorem statusLine_single : statusLine.Single :=
  (splitCheck?_eq_some_iff.mp
    (show splitCheck? statusLine.text = some (statusLine.lead.val ++ statusLine.front,
      statusLine.ahead.val ++ (statusLine.core ++ ')' :: statusLine.rest)) by decide)).only

/-- The labels survive where a column whose name goes on with the check word comes last. -/
theorem statusLine_survives :
    LabelsSurvive (definitionOf (["CREATE TABLE tasks (".toList] ++ statusLine.text ::
      ["  statuscheck INTEGER".toList, ")".toList])) "status" ["b", "a"] := by
  have words : ∀ other ∈ ["CREATE TABLE tasks (".toList] ++
      ["  statuscheck INTEGER".toList, ")".toList],
        unwrapName (firstWord other) ≠ statusLine.name := by decide
  refine (labels_survive_iff statusLine_single (by decide)
    fun other member _ _ _ => words other member).mpr ?_
  rintro clause ⟨before, line, after, split, ⟨front, back, only, -⟩, -⟩
  obtain rfl := List.mem_singleton.mp (show line ∈ ["CREATE TABLE tasks (".toList] from
    split ▸ by simp)
  have none : splitCheck? (Text.trim "CREATE TABLE tasks (".toList) = none := by decide
  exact absurd (none.symm.trans (splitCheck?_eq_some_iff.mpr only)) nofun

/-- The lines before a column, where another one has its name with the check word at the end. -/
def linesAhead : List (List Char) :=
  ["CREATE TABLE tasks (".toList, "  statuscheck INTEGER,".toList]

def tasksReplies : Sqlite.Replies where
  statement _ := .ok ()
  tables := .ok ["tasks"]
  tableInfo _ := .ok [⟨"statuscheck", "INTEGER", 0⟩, ⟨"status", "TEXT", 0⟩]
  indexList _ := .ok []
  indexInfo _ := .ok []
  createText _ := .ok (some (definitionOf (linesAhead ++ statusLine.text :: [")".toList])))

/-- The first word of every other line is another name, but the labels do not survive: the column is
described as plain text. -/
theorem statuscheck_hides_labels :
    statusLine.Single ∧
      (∀ other ∈ linesAhead ++ [")".toList], '\n' ∉ other) ∧
      (∀ other ∈ linesAhead ++ [")".toList], ChecksOther statusLine.name other) ∧
      ¬ LabelsSurvive (definitionOf (linesAhead ++ statusLine.text :: [")".toList])) "status"
        ["b", "a"] ∧
      ∃ described, (Sqlite.describeTable tasksReplies "tasks").result = .ok described ∧
        described.columns.map (fun column => (column.name, column.canonicalType, column.values)) =
          [("statuscheck", .integer, []), ("status", .text, [])] := by
  have words : ∀ other ∈ linesAhead ++ [")".toList],
      unwrapName (firstWord other) ≠ statusLine.name := by decide
  have lost : (clausesOf "status" (checkClauses (definitionOf (linesAhead ++ statusLine.text ::
      [")".toList])))).head?.map labelsOfCheck = some [] := by
    decide +kernel
  refine ⟨statusLine_single, by decide, fun other member _ _ _ => words other member,
    fun survive => ?_, _, rfl, by decide +kernel⟩
  exact absurd (lost.symm.trans survive.read) (by simp)

end SqlMigrations.Catalog
