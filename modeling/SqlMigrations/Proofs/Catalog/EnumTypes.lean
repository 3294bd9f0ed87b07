import SqlMigrations.Proofs.Catalog.Columns
import SqlMigrations.Proofs.Schema.LabelList

namespace SqlMigrations.Catalog.MySql

open Schema
open Inspection (bind_of_ok)
open Text (isAsciiBlank)

variable {replies : Replies} {table comment : String} {facts : List ColumnFacts}
  {indexes : List Index}

theorem mentionsEnum_type (text : EnumText) : mentionsEnum text.type = true := by
  have ascii : ∀ c ∈ text.word, c.toNat < 128 := by
    intro c member
    have lowered := List.mem_map_of_mem (f := Text.asciiLower) member
    rw [text.named] at lowered
    have small : ∀ d ∈ "enum".toList, d.toNat < 128 := by simp
    have value := small _ lowered
    rw [Text.toNat_asciiLower] at value
    split_ifs at value <;> omega
  have front : "enum".toList <+: Text.lower text.type.toList := by
    have whole : text.type.toList = text.word ++ _ := String.toList_ofList
    rw [whole, Text.lower, Text.lowerAfter_of_ascii ascii, text.named]
    exact List.prefix_append _ _
  exact Text.occursIn_iff_infix.mpr front.isInfix

theorem columnOf_of_enumText {fact : ColumnFacts} {text : EnumText}
    (typed : fact.type = text.type) :
    columnOf fact = ⟨fact.name, "enum", fact.dataType, .unknown, .read fact.key, fact.comment, 0,
      listLabels text.items⟩ := by
  have mentioned : mentionsEnum fact.type = true := typed ▸ mentionsEnum_type text
  rw [columnOf_of_enum mentioned, typed, text.enumLabels_type]

/-- Whether a column is that of an enumeration type with the given labels. -/
structure OfEnum (labels : List String) (column : Column) : Prop where
  type : column.type = "enum"
  size : column.size = 0
  enumerates : column.Enumerates labels

theorem normalized_ofEnum {fact : ColumnFacts} {text : EnumText} (typed : fact.type = text.type) :
    OfEnum (listLabels text.items) (columnOf fact).normalized := by
  have column := columnOf_of_enumText typed
  have valued : (columnOf fact).values ≠ [] := by
    rw [column]
    simpa [listLabels] using text.nonempty
  have enumerates := Column.normalized_enumerates valued
  rw [column] at enumerates ⊢
  exact ⟨rfl, rfl, enumerates⟩

theorem OfEnum.withKeyFrom {labels : List String} {column : Column} (ofEnum : OfEnum labels column)
    (names : List String) : OfEnum labels (column.withKeyFrom names) := by
  have enumerates := ofEnum.enumerates.withKeyFrom names
  rcases column.withKeyFrom_cases names with same | marked
  · rwa [same]
  · rw [marked] at enumerates ⊢
    exact ⟨ofEnum.type, ofEnum.size, enumerates⟩

/-- Whether all that a description of a table asks for can be read, and what it is. -/
structure Readable (replies : Replies) (table comment : String) (facts : List ColumnFacts)
    (indexes : List Index) : Prop where
  comment : replies.tableComment table = .ok (some (some comment))
  columns : (replies.columns table).bind (fun rows => rows.mapM ColumnRow.read) = .ok facts
  indexes : (replies.indexes table).bind (fun rows => rows.mapM IndexRow.read) = .ok indexes

theorem describeTable_of_readable (readable : Readable replies table comment facts indexes) :
    (describeTable replies table).result = .ok ⟨table, comment,
      enrichKeys indexes (facts.map fun fact => (columnOf fact).normalized), indexes⟩ := by
  have found : (tableComment replies table).result = .ok comment := by
    rw [tableComment, readable.comment]
    rfl
  have asked : (Inspection.ask .pooled (.columns table) ("get columns for table " ++ table)
      ((replies.columns table).bind fun rows => rows.mapM ColumnRow.read)).result = .ok facts := by
    rw [readable.columns]
    rfl
  have listed : (tableIndexes replies table).result = .ok indexes := by
    rw [tableIndexes, readable.indexes]
    rfl
  rw [describeTable, bind_of_ok found, bind_of_ok asked, bind_of_ok listed]
  rfl

/-- The labels of an enumeration type are those of its list, all and in order, whatever characters
but quotes they have. The description of a table has a column for each row of the reply, and one for
a row with an enumeration type is an enumeration of exactly these labels. -/
theorem enum_labels_recovered :
    (∀ text : EnumText, enumLabels text.type = listLabels text.items) ∧
    ∀ replies table comment facts indexes, Readable replies table comment facts indexes →
      ∃ columns,
        (describeTable replies table).result = .ok ⟨table, comment, columns, indexes⟩ ∧
        List.Forall₂ (fun fact column => column.name = fact.name ∧ ∀ text : EnumText,
          fact.type = text.type → OfEnum (listLabels text.items) column) facts columns := by
  refine ⟨EnumText.enumLabels_type, fun replies table comment facts indexes readable => ?_⟩
  refine ⟨_, describeTable_of_readable readable, ?_⟩
  rw [enrichKeys, List.map_map, List.forall₂_map_right_iff, List.forall₂_same]
  intro fact _
  refine ⟨?_, fun text typed => (normalized_ofEnum typed).withKeyFrom _⟩
  rw [Function.comp_apply, Column.withKeyFrom_name, Column.normalized_name, columnOf_name]

/-- A type in capitals, with labels that are empty or hold marks of the list. -/
def moodText : EnumText where
  word := "ENUM".toList
  gap := [' ']
  items := [⟨[], "so, so".toList, [], by simp, by simp, by decide⟩,
    ⟨[' '], "".toList, ['\n'], by simp [isAsciiBlank], by simp [isAsciiBlank], by decide⟩,
    ⟨[], "bad)".toList, [' '], by simp, by simp [isAsciiBlank], by decide⟩]
  rest := " not null".toList
  named := by decide
  gap_blank := by simp [isAsciiBlank]
  nonempty := by simp
  unquoted := by decide

def petsReplies : Replies where
  statement _ := .ok ()
  tables := .ok [(some "pets", some "Pets")]
  tableComment _ := .ok (some (some "Pets"))
  columns _ := .ok [⟨some "mood", some "ENUM ('so, so', ''\n,'bad)' ) not null", some "", some "",
    some "enum"⟩]
  indexes _ := .ok []
  temporaryColumns _ := .ok []
  temporaryInfo _ := .ok []

/-- Its labels, and those of the column in order. -/
theorem moodText_recovered :
    enumLabels "ENUM ('so, so', ''\n,'bad)' ) not null" = ["so, so", "", "bad)"] ∧
    ∃ column, (describeTable petsReplies "pets").result = .ok ⟨"pets", "Pets", [column], []⟩ ∧
      OfEnum ["so, so", "", "bad)"] column := by
  obtain ⟨recovered, described⟩ := enum_labels_recovered
  have typed : "ENUM ('so, so', ''\n,'bad)' ) not null" = moodText.type := by decide
  have readable : Readable petsReplies "pets" "Pets"
      [⟨"mood", "ENUM ('so, so', ''\n,'bad)' ) not null", "", "", "enum"⟩] [] := ⟨rfl, rfl, rfl⟩
  obtain ⟨columns, done, each⟩ := described petsReplies "pets" "Pets" _ [] readable
  cases each with
  | cons first later =>
    cases later
    refine ⟨?_, _, done, first.2 moodText typed⟩
    rw [typed]
    exact recovered moodText

end SqlMigrations.Catalog.MySql
