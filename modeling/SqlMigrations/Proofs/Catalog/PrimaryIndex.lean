import SqlMigrations.Proofs.Catalog.Columns

/-!
The primary index of a SQLite table. The indexes that can be read are listed in order; where none of
them is primary, the primary key columns of the table get an index of their own, in key order. They
are the columns that a description marks as primary.
-/

namespace SqlMigrations.Catalog.Sqlite

open Schema
open Inspection (bind_of_ok bind_eq_ok)

variable {replies : Replies} {table : String} {entries : List IndexEntry} {indexes : List Index}
  {rows : List TableInfo}

/-- The indexes of the entries whose columns can be read, each once and in order. -/
inductive Listed (replies : Replies) : List IndexEntry → List Index → Prop
  | nil : Listed replies [] []
  | readable {entry : IndexEntry} {columns : List (Option String)} {entries : List IndexEntry}
      {indexes : List Index} (read : replies.indexInfo entry.name = .ok columns)
      (later : Listed replies entries indexes) :
      Listed replies (entry :: entries)
        (⟨entry.name, columns.filterMap id, entry.origin == "pk", entry.unique == 1⟩ :: indexes)
  | unreadable {entry : IndexEntry} {failure : DriverFailure} {entries : List IndexEntry}
      {indexes : List Index} (failed : replies.indexInfo entry.name = .error failure)
      (later : Listed replies entries indexes) : Listed replies (entry :: entries) indexes

/-- Whether no entry for the primary key can be read. -/
def NoKeyEntry (replies : Replies) (entries : List IndexEntry) : Prop :=
  ∀ entry ∈ entries, entry.origin = "pk" →
    ∃ failure, replies.indexInfo entry.name = .error failure

/-- Whether the second list has the rows of the primary key columns, in increasing key order. -/
structure InKeyOrder (rows keyed : List TableInfo) : Prop where
  same : keyed.Perm (rows.filter fun row => decide (0 < row.keyPosition))
  ascending : keyed.Pairwise fun left right => left.keyPosition < right.keyPosition ∨
    left.keyPosition = right.keyPosition ∧ left.name ≤ right.name

theorem each_readIndex (replies : Replies) (entries : List IndexEntry) :
    ∃ read, (Inspection.each (readIndex replies) entries).result = .ok read ∧
      Listed replies entries (read.filterMap id) := by
  induction entries with
  | nil => exact ⟨[], rfl, .nil⟩
  | cons entry entries induction =>
    obtain ⟨read, ended, listed⟩ := induction
    have later (value : Option Index) (first : (readIndex replies entry).result = .ok value) :
        (Inspection.each (readIndex replies) (entry :: entries)).result = .ok (value :: read) := by
      change (readIndex replies entry >>= fun value =>
        Inspection.each (readIndex replies) entries >>= fun values =>
          Inspection.done (value :: values)).result = _
      rw [bind_of_ok first, bind_of_ok ended]
      rfl
    cases reply : replies.indexInfo entry.name with
    | ok columns =>
      refine ⟨some (indexOf entry columns) :: read, later _ ?_, ?_⟩
      · rw [readIndex, bind_of_ok rfl, reply]
        rfl
      · exact .readable reply listed
    | error failure =>
      refine ⟨none :: read, later _ ?_, ?_⟩
      · rw [readIndex, bind_of_ok rfl, reply]
        rfl
      · exact .unreadable reply listed

theorem Listed.countP_primary (listed : Listed replies entries indexes) :
    indexes.countP Index.primary ≤ entries.countP fun entry => entry.origin == "pk" := by
  induction listed with
  | nil => exact Nat.le_refl 0
  | readable read later induction =>
    rw [List.countP_cons, List.countP_cons]
    exact Nat.add_le_add_right induction _
  | unreadable failed later induction =>
    exact Nat.le_trans induction (List.countP_cons ▸ Nat.le_add_right _ _)

theorem Listed.any_primary_iff (listed : Listed replies entries indexes) :
    indexes.any Index.primary = false ↔ NoKeyEntry replies entries := by
  induction listed with
  | nil => exact iff_of_true rfl (List.forall_mem_nil _)
  | @readable entry columns entries indexes read later induction =>
    have never : ¬ ∃ failure, replies.indexInfo entry.name = .error failure := by simp [read]
    simp only [List.any_cons, Bool.or_eq_false_iff, induction, NoKeyEntry, List.forall_mem_cons,
      beq_eq_false_iff_ne, never, imp_false]
  | @unreadable entry failure entries indexes failed later induction =>
    simp [induction, NoKeyEntry, failed]

theorem TableInfo.keyBefore_iff {left right : TableInfo} : left.keyBefore right = true ↔
    left.keyPosition < right.keyPosition ∨
      left.keyPosition = right.keyPosition ∧ left.name ≤ right.name := by
  simp [keyBefore]

theorem TableInfo.keyBefore_trans (left middle right : TableInfo)
    (first : left.keyBefore middle = true) (second : middle.keyBefore right = true) :
    left.keyBefore right = true := by
  rw [keyBefore_iff] at *
  rcases first with below | ⟨same, names⟩ <;> rcases second with later | ⟨alike, others⟩
  · exact .inl (by omega)
  · exact .inl (by omega)
  · exact .inl (by omega)
  · exact .inr ⟨same.trans alike, String.le_trans names others⟩

theorem TableInfo.keyBefore_total (left right : TableInfo) :
    (left.keyBefore right || right.keyBefore left) = true := by
  rw [Bool.or_eq_true, keyBefore_iff, keyBefore_iff]
  rcases Int.lt_trichotomy left.keyPosition right.keyPosition with below | same | above
  · exact .inl (.inl below)
  · rcases String.le_total left.name right.name with le | le
    · exact .inl (.inr ⟨same, le⟩)
    · exact .inr (.inr ⟨same.symm, le⟩)
  · exact .inr (.inl above)

theorem keyColumns_inKeyOrder (rows : List TableInfo) :
    ∃ keyed, InKeyOrder rows keyed ∧ keyColumns rows = keyed.map TableInfo.name := by
  refine ⟨_, ⟨List.mergeSort_perm _ _, ?_⟩, rfl⟩
  exact (List.pairwise_mergeSort TableInfo.keyBefore_trans TableInfo.keyBefore_total _).imp
    TableInfo.keyBefore_iff.mp

theorem InKeyOrder.ne_nil_iff {keyed : List TableInfo} (ordered : InKeyOrder rows keyed) :
    keyed ≠ [] ↔ ∃ row ∈ rows, 0 < row.keyPosition := by
  rw [← List.length_pos_iff, ordered.same.length_eq, List.length_pos_iff, ne_eq,
    List.filter_eq_nil_iff]
  simp

/-- The index of its own that a primary key gets, if it has a column at all. -/
theorem keyIndexes_cases (rows : List TableInfo) :
    ((∃ row ∈ rows, 0 < row.keyPosition) ∧ ∃ keyed, InKeyOrder rows keyed ∧
      keyIndexes rows = [⟨"", keyed.map TableInfo.name, true, true⟩]) ∨
    (¬ ∃ row ∈ rows, 0 < row.keyPosition) ∧ keyIndexes rows = [] := by
  obtain ⟨keyed, ordered, columns⟩ := keyColumns_inKeyOrder rows
  rw [keyIndexes, columns, ← ordered.ne_nil_iff]
  cases keyed with
  | nil => exact .inr ⟨not_not.mpr rfl, rfl⟩
  | cons row keyed => exact .inl ⟨List.cons_ne_nil row keyed, _, ordered, rfl⟩

theorem withKeyFrom_isPrimary (names : List String) (column : Column) :
    (column.withKeyFrom names).isPrimary = column.isPrimary := by
  unfold Column.withKeyFrom
  split_ifs with primary
  · rfl
  · simp [Column.isPrimary, primary]
  · rfl

theorem withChecks_isPrimary (clauses : List (String × String)) (row : TableInfo) :
    (withChecks clauses (columnOf row)).isPrimary = decide (0 < row.keyPosition) := by
  have marked : (columnOf row).isPrimary = decide (0 < row.keyPosition) := by
    by_cases positive : 0 < row.keyPosition <;> simp [columnOf, Column.isPrimary, positive]
  rw [← marked]
  unfold withChecks
  split <;> rfl

/-- A description marks the primary key columns of the table, whatever its indexes are. -/
theorem describeTable_primary {described : Table}
    (done : (describeTable replies table).result = .ok described)
    (info : replies.tableInfo table = .ok rows) :
    (described.columns.filter Column.isPrimary).map Column.name =
      (rows.filter fun row => decide (0 < row.keyPosition)).map TableInfo.name := by
  obtain ⟨found, asked, later⟩ := bind_eq_ok done
  obtain rfl : found = rows := Except.ok.inj ((Inspection.ask_eq_ok asked).symm.trans info)
  split at later
  · cases later
  · obtain ⟨clauses, -, later⟩ := bind_eq_ok later
    obtain ⟨indexes, -, later⟩ := bind_eq_ok later
    obtain rfl := Except.ok.inj later
    simp only [enrichKeys, List.map_map, List.filter_map, Function.comp_def,
      withKeyFrom_isPrimary, withChecks_isPrimary, Column.withKeyFrom_name, withChecks_name]
    rfl

theorem keyIndexes_nil : keyIndexes [] = [] := by
  simp [keyIndexes, keyColumns]

def addedIndexes (replies : Replies) (table : String) (indexes : List Index) : List Index :=
  if indexes.any Index.primary then []
  else
    match replies.tableInfo table with
    | .ok rows => keyIndexes rows
    | .error _ => []

theorem tableIndexes_result (listed : replies.indexList table = .ok entries) :
    ∃ indexes, Listed replies entries indexes ∧
      (tableIndexes replies table).result =
        .ok (indexes ++ addedIndexes replies table indexes) := by
  obtain ⟨read, ended, found⟩ := each_readIndex replies entries
  refine ⟨read.filterMap id, found, ?_⟩
  have asked : (Inspection.ask .pooled (.indexList table) ("get indexes for table " ++ table)
      (replies.indexList table)).result = .ok entries := by
    rw [listed]
    rfl
  rw [tableIndexes, bind_of_ok asked, bind_of_ok ended, addedIndexes]
  cases primary : (read.filterMap id).any Index.primary with
  | true =>
    simp only [primary, if_true, List.append_nil]
    rfl
  | false =>
    simp only [primary, Bool.false_eq_true, if_false]
    cases replies.tableInfo table with
    | ok rows => rfl
    | error failure =>
      change Except.ok (read.filterMap id ++ keyIndexes []) = _
      rw [keyIndexes_nil]

theorem describeTable_of_parts {clauses : List (String × String)}
    (info : replies.tableInfo table = .ok rows) (nonempty : rows ≠ [])
    (read : (readClauses replies table).result = .ok clauses)
    (listed : (tableIndexes replies table).result = .ok indexes) :
    (describeTable replies table).result = .ok ⟨table, "",
      enrichKeys indexes (rows.map fun row => withChecks clauses (columnOf row)), indexes⟩ := by
  have asked : (Inspection.ask .pooled (.tableInfo table) ("query table info for " ++ table)
      (replies.tableInfo table)).result = .ok rows := by
    rw [info]
    rfl
  rw [describeTable, bind_of_ok asked, if_neg (by simpa using nonempty), bind_of_ok read,
    bind_of_ok listed]
  rfl

theorem describeTable_of_indexes (listed : (tableIndexes replies table).result = .ok indexes)
    (info : replies.tableInfo table = .ok rows) (nonempty : rows ≠ []) :
    ∃ described, (describeTable replies table).result = .ok described ∧
      described.indexes = indexes := by
  obtain ⟨clauses, read⟩ : ∃ clauses, (readClauses replies table).result = .ok clauses := ⟨_, rfl⟩
  exact ⟨_, describeTable_of_parts info nonempty read listed, rfl⟩

/-- Whether the primary key of a table needs an index of its own. -/
def NeedsKeyIndex (replies : Replies) (table : String) (entries : List IndexEntry) : Prop :=
  NoKeyEntry replies entries ∧ ∃ rows, replies.tableInfo table = .ok rows ∧
    ∃ row ∈ rows, 0 < row.keyPosition

theorem addedIndexes_cases (table : String) (found : Listed replies entries indexes) :
    (NeedsKeyIndex replies table entries ∧ indexes.countP Index.primary = 0 ∧
      ∃ rows keyed, replies.tableInfo table = .ok rows ∧ InKeyOrder rows keyed ∧
        addedIndexes replies table indexes =
          [⟨"", keyed.map TableInfo.name, true, true⟩]) ∨
    ¬ NeedsKeyIndex replies table entries ∧ addedIndexes replies table indexes = [] := by
  rw [NeedsKeyIndex, ← found.any_primary_iff, addedIndexes]
  cases primary : indexes.any Index.primary with
  | true => exact .inr ⟨fun needs => (nomatch needs.1), rfl⟩
  | false =>
    rw [if_neg Bool.false_ne_true]
    cases info : replies.tableInfo table with
    | error failure => exact .inr ⟨fun ⟨_, _, replied, _⟩ => (nomatch replied), rfl⟩
    | ok rows =>
      rcases keyIndexes_cases rows with ⟨needed, keyed, ordered, own⟩ | ⟨noKey, own⟩
      · have unmarked : indexes.countP Index.primary = 0 := by
          rw [List.countP_eq_zero]
          simpa using primary
        exact .inl ⟨⟨rfl, rows, rfl, needed⟩, unmarked, rows, keyed, rfl, ordered, own⟩
      · refine .inr ⟨fun ⟨_, other, replied, needed⟩ => noKey ?_, own⟩
        obtain rfl := Except.ok.inj replied
        exact needed

/-- The indexes of a table are those of its listed entries that can be read, each once and in order,
and at most one of them is primary if at most one entry is that of the primary key. A primary key
without an entry that can be read gets one index at the end, unnamed and unique; it has the primary
key columns in key order, which are the columns that a description marks. Nothing else is added. -/
theorem single_primary_index (listed : replies.indexList table = .ok entries) :
    ∃ indexes added, (tableIndexes replies table).result = .ok (indexes ++ added) ∧
      Listed replies entries indexes ∧
      (entries.countP (fun entry => entry.origin == "pk") ≤ 1 →
        (indexes ++ added).countP Index.primary ≤ 1) ∧
      (NeedsKeyIndex replies table entries →
        ∃ rows keyed described, replies.tableInfo table = .ok rows ∧ InKeyOrder rows keyed ∧
          added = [⟨"", keyed.map TableInfo.name, true, true⟩] ∧
          (describeTable replies table).result = .ok described ∧
          described.indexes = indexes ++ added ∧
          (keyed.map TableInfo.name).Perm
            ((described.columns.filter Column.isPrimary).map Column.name)) ∧
      (¬ NeedsKeyIndex replies table entries → added = []) := by
  obtain ⟨indexes, found, ended⟩ := tableIndexes_result listed
  refine ⟨indexes, _, ended, found, ?_⟩
  rcases addedIndexes_cases table found with
    ⟨needs, unmarked, rows, keyed, info, ordered, own⟩ | ⟨noNeed, own⟩
  · rw [own] at ended ⊢
    refine ⟨fun _ => by simp [unmarked], fun _ => ?_, absurd needs⟩
    obtain ⟨-, others, replied, needed⟩ := needs
    obtain rfl := Except.ok.inj (info.symm.trans replied)
    obtain ⟨described, done, same⟩ :=
      describeTable_of_indexes ended info (List.ne_nil_of_mem needed.choose_spec.1)
    refine ⟨rows, keyed, described, info, ordered, rfl, done, same, ?_⟩
    rw [describeTable_primary done info]
    exact ordered.same.map TableInfo.name
  · rw [own, List.append_nil]
    exact ⟨Nat.le_trans found.countP_primary, fun needs => absurd needs noNeed, fun _ => rfl⟩

/-- A table whose key has two columns, in another order than the table, and whose entry for that key
cannot be read. -/
def visitsReplies : Replies where
  statement _ := .ok ()
  tables := .ok ["visits"]
  tableInfo _ := .ok [⟨"day", "TEXT", 2⟩, ⟨"note", "TEXT", 0⟩, ⟨"pet_id", "INTEGER", 1⟩]
  indexList _ := .ok [⟨"visits_note", 0, "c"⟩, ⟨"sqlite_autoindex_visits_1", 1, "pk"⟩]
  indexInfo index :=
    if index = "visits_note" then .ok [some "note", none]
    else .error (.refused (.sqlite "11") "database disk image is malformed")
  createText _ := .ok none

/-- The primary index that it gets, and the columns that are marked. -/
theorem visitsReplies_key :
    visitsReplies.indexList "visits" =
        .ok [⟨"visits_note", 0, "c"⟩, ⟨"sqlite_autoindex_visits_1", 1, "pk"⟩] ∧
      (tableIndexes visitsReplies "visits").result =
        .ok [⟨"visits_note", ["note"], false, false⟩, ⟨"", ["pet_id", "day"], true, true⟩] ∧
      ∃ described, (describeTable visitsReplies "visits").result = .ok described ∧
        ["pet_id", "day"].Perm
          ((described.columns.filter Column.isPrimary).map Column.name) := by
  have own : keyIndexes [⟨"day", "TEXT", 2⟩, ⟨"note", "TEXT", 0⟩, ⟨"pet_id", "INTEGER", 1⟩] =
      [⟨"", ["pet_id", "day"], true, true⟩] := by
    simp [keyIndexes, keyColumns, TableInfo.keyBefore, List.mergeSort]
  have whole : (tableIndexes visitsReplies "visits").result =
      .ok [⟨"visits_note", ["note"], false, false⟩, ⟨"", ["pet_id", "day"], true, true⟩] := by
    rw [← own]
    rfl
  have listed : visitsReplies.indexList "visits" =
      .ok [⟨"visits_note", 0, "c"⟩, ⟨"sqlite_autoindex_visits_1", 1, "pk"⟩] := rfl
  obtain ⟨indexes, added, ended, -, -, ofNeed, -⟩ := single_primary_index listed
  have needs : NeedsKeyIndex visitsReplies "visits"
      [⟨"visits_note", 0, "c"⟩, ⟨"sqlite_autoindex_visits_1", 1, "pk"⟩] :=
    ⟨by simp [NoKeyEntry, visitsReplies], _, rfl, ⟨"day", "TEXT", 2⟩, by simp, by decide⟩
  obtain ⟨rows, keyed, described, -, -, rfl, done, -, marked⟩ := ofNeed needs
  have last := congrArg List.getLast? (Except.ok.inj (ended.symm.trans whole))
  have columns : keyed.map TableInfo.name = ["pet_id", "day"] := by simpa using last
  exact ⟨listed, whole, described, done, columns ▸ marked⟩

end SqlMigrations.Catalog.Sqlite
