import SqlMigrations.Proofs.Catalog.Courses
import SqlMigrations.Proofs.Schema.Settled

namespace SqlMigrations.Catalog

open Schema

/-- Columns for the rows of a reply with the given names, one for each in order and all of them
settled. -/
structure ColumnsOf (names : Reply (List (Option String))) (columns : List Column) : Prop where
  named : names = .ok (columns.map fun column => some column.name)
  settled : ∀ column ∈ columns, column.Settled

variable {ρ φ : Type} {names : Reply (List (Option String))} {columns : List Column}

theorem ColumnsOf.of_facts {facts : List φ} {name : φ → String}
    (replied : names = .ok (facts.map fun fact => some (name fact)))
    (each : List.Forall₂ (fun fact column => column.name = name fact ∧ column.Settled) facts
      columns) : ColumnsOf names columns where
  named := by
    rw [replied]
    refine congrArg Except.ok (map_eq_map_of_forall₂ each ?_)
    rintro fact column ⟨named, -⟩
    rw [named]
  settled := by
    clear replied
    induction each with
    | nil => simp
    | cons head _ induction => exact List.forall_mem_cons.mpr ⟨head.2, induction⟩

theorem ColumnsOf.of_map {facts : List φ} {name : φ → String} {column : φ → Column}
    (replied : names = .ok (facts.map fun fact => some (name fact)))
    (each : ∀ fact, (column fact).name = name fact ∧ (column fact).Settled) :
    ColumnsOf names (facts.map column) :=
  .of_facts replied (List.forall₂_map_right_iff.mpr (List.forall₂_same.mpr fun fact _ => each fact))

theorem ColumnsOf.enrichKeys (ofRows : ColumnsOf names columns) (indexes : List Index) :
    ColumnsOf names (enrichKeys indexes columns) where
  named := by
    have same := congrArg (List.map some) (enrichKeys_names indexes columns)
    simp only [List.map_map, Function.comp_def] at same
    rw [ofRows.named, same]
  settled := enrichKeys_settled ofRows.settled

theorem names_of_readRows {reply : Reply (List ρ)} {read : ρ → Reply φ} {facts : List φ}
    {rowName : ρ → Option String} {name : φ → String}
    (done : (reply.bind fun rows => rows.mapM read) = .ok facts)
    (keeps : ∀ row fact, read row = .ok fact → rowName row = some (name fact)) :
    reply.map (List.map rowName) = .ok (facts.map fun fact => some (name fact)) := by
  obtain ⟨rows, rfl, each⟩ := readRows_eq_ok done
  exact congrArg Except.ok (map_eq_map_of_forall₂ each keeps)

open Inspection (bind_eq_ok ask_eq_ok each_eq_ok)

namespace Postgres

variable {replies : Replies}

theorem ColumnRow.read_name {row : ColumnRow} {facts : ColumnFacts} (done : row.read = .ok facts) :
    row.name = some facts.name := by
  obtain ⟨name, first, later⟩ := reply_bind_eq_ok done
  obtain ⟨type, -, later⟩ := reply_bind_eq_ok later
  obtain ⟨comment, -, later⟩ := reply_bind_eq_ok later
  obtain ⟨key, -, later⟩ := reply_bind_eq_ok later
  obtain rfl := Except.ok.inj later
  exact requireText_eq_ok first

theorem readViewRow_name {row : Option String × Option String} {facts : String × String}
    (done : readViewRow row = .ok facts) : row.1 = some facts.1 := by
  obtain ⟨name, first, later⟩ := reply_bind_eq_ok done
  obtain ⟨type, -, later⟩ := reply_bind_eq_ok later
  obtain rfl := Except.ok.inj later
  exact requireText_eq_ok first

theorem readColumn_eq_ok {facts : ColumnFacts} {column : Column}
    (done : (readColumn replies facts).result = .ok column) :
    column.name = facts.name ∧ column.Settled := by
  obtain ⟨labels, -, later⟩ := bind_eq_ok done
  obtain rfl := Except.ok.inj later
  exact ⟨rfl, Column.normalized_settled _⟩

theorem describeTable_columns {table : String} {described : Table}
    (done : (describeTable replies table).result = .ok described) :
    ColumnsOf ((replies.columns table).map (List.map ColumnRow.name)) described.columns := by
  obtain ⟨comment, -, later⟩ := bind_eq_ok done
  obtain ⟨facts, asked, later⟩ := bind_eq_ok later
  split at later
  · cases later
  · obtain ⟨columns, each, later⟩ := bind_eq_ok later
    obtain ⟨indexes, -, later⟩ := bind_eq_ok later
    obtain rfl := Except.ok.inj later
    have replied := names_of_readRows (ask_eq_ok asked) fun _ _ => ColumnRow.read_name
    have ofRows := ColumnsOf.of_facts replied ((each_eq_ok each).imp fun _ _ => readColumn_eq_ok)
    exact ofRows.enrichKeys indexes

theorem describeQuery_columns {view query : String}
    (done : (describeQuery replies view query).result = .ok columns) :
    ColumnsOf ((replies.temporaryColumns view).map (List.map Prod.fst)) columns := by
  obtain ⟨connection, -, later⟩ := bind_eq_ok done
  obtain ⟨-, -, later⟩ := bind_eq_ok later
  obtain ⟨facts, asked, later⟩ := bind_eq_ok later
  obtain rfl := Except.ok.inj later
  have replied := names_of_readRows (ask_eq_ok asked) fun _ _ => readViewRow_name
  exact .of_map replied fun fact => ⟨rfl, Column.normalized_settled _⟩

end Postgres

namespace MySql

variable {replies : Replies}

theorem ColumnRow.read_name {row : ColumnRow} {facts : ColumnFacts} (done : row.read = .ok facts) :
    row.name = some facts.name := by
  obtain ⟨name, first, later⟩ := reply_bind_eq_ok done
  obtain ⟨type, -, later⟩ := reply_bind_eq_ok later
  obtain ⟨key, -, later⟩ := reply_bind_eq_ok later
  obtain ⟨comment, -, later⟩ := reply_bind_eq_ok later
  obtain ⟨dataType, -, later⟩ := reply_bind_eq_ok later
  obtain rfl := Except.ok.inj later
  exact requireText_eq_ok first

theorem columnOf_of_enum {facts : ColumnFacts} (mentioned : mentionsEnum facts.type = true) :
    columnOf facts = ⟨facts.name, "enum", facts.dataType, .unknown, .read facts.key, facts.comment,
      0, enumLabels facts.type⟩ :=
  if_pos mentioned

theorem columnOf_of_other {facts : ColumnFacts} (other : ¬ mentionsEnum facts.type = true) :
    columnOf facts = ⟨facts.name, (splitSize facts.type).1, facts.dataType, .unknown,
      .read facts.key, facts.comment, (splitSize facts.type).2, []⟩ :=
  if_neg other

theorem columnOf_name (facts : ColumnFacts) : (columnOf facts).name = facts.name := by
  unfold columnOf
  split <;> rfl

theorem completeColumn_name (facts : List ColumnFacts) (column : Column) :
    (completeColumn facts column).name = column.name := by
  unfold completeColumn
  split <;> rfl

theorem describeTable_columns {table : String} {described : Table}
    (done : (describeTable replies table).result = .ok described) :
    ColumnsOf ((replies.columns table).map (List.map ColumnRow.name)) described.columns := by
  obtain ⟨comment, -, later⟩ := bind_eq_ok done
  obtain ⟨facts, asked, later⟩ := bind_eq_ok later
  obtain ⟨indexes, -, later⟩ := bind_eq_ok later
  obtain rfl := Except.ok.inj later
  have replied := names_of_readRows (ask_eq_ok asked) fun _ _ => ColumnRow.read_name
  have ofRows : ColumnsOf _ (facts.map fun facts => (columnOf facts).normalized) :=
    .of_map replied fun fact =>
      ⟨(columnOf fact).normalized_name.trans (columnOf_name fact), Column.normalized_settled _⟩
  exact ofRows.enrichKeys indexes

theorem describeQuery_columns {object query : String}
    (done : (describeQuery replies object query).result = .ok columns) :
    ColumnsOf ((replies.temporaryColumns object).map (List.map fun row => some row.field.read))
      columns := by
  obtain ⟨connection, -, later⟩ := bind_eq_ok done
  obtain ⟨-, -, later⟩ := bind_eq_ok later
  obtain ⟨rows, asked, later⟩ := bind_eq_ok later
  obtain ⟨facts, -, later⟩ := bind_eq_ok later
  obtain rfl := Except.ok.inj later
  rw [ask_eq_ok asked]
  exact .of_map rfl fun row =>
    ⟨(Column.normalized_name _).trans (completeColumn_name facts _), Column.normalized_settled _⟩

end MySql

namespace Sqlite

variable {replies : Replies}

theorem withChecks_name (clauses : List (String × String)) (column : Column) :
    (withChecks clauses column).name = column.name := by
  unfold withChecks
  split <;> rfl

theorem withChecks_settled (clauses : List (String × String)) (column : Column) :
    (withChecks clauses column).Settled := by
  unfold withChecks
  split <;> exact Column.normalized_settled _

theorem describeTable_columns {table : String} {described : Table}
    (done : (describeTable replies table).result = .ok described) :
    ColumnsOf ((replies.tableInfo table).map (List.map fun row => some row.name))
      described.columns := by
  obtain ⟨rows, asked, later⟩ := bind_eq_ok done
  split at later
  · cases later
  · obtain ⟨clauses, -, later⟩ := bind_eq_ok later
    obtain ⟨indexes, -, later⟩ := bind_eq_ok later
    obtain rfl := Except.ok.inj later
    rw [ask_eq_ok asked]
    have ofRows : ColumnsOf (.ok (rows.map fun row => some row.name))
        (rows.map fun row => withChecks clauses (columnOf row)) :=
      .of_map rfl fun row => ⟨withChecks_name clauses _, withChecks_settled clauses _⟩
    exact ofRows.enrichKeys indexes

theorem describeQuery_columns {view query : String}
    (done : (describeQuery replies view query).result = .ok columns) :
    ColumnsOf ((replies.tableInfo view).map (List.map fun row => some row.name)) columns := by
  obtain ⟨connection, -, later⟩ := bind_eq_ok done
  obtain ⟨-, -, later⟩ := bind_eq_ok later
  obtain ⟨rows, asked, later⟩ := bind_eq_ok later
  obtain rfl := Except.ok.inj later
  rw [ask_eq_ok asked]
  exact .of_map rfl fun row => ⟨rfl, Column.normalized_settled _⟩

end Sqlite

/-- The names in the rows that a connection replies for the columns of a table; a null cell is no
name. -/
def Connection.rowNames (connection : Connection) (table : String) :
    Reply (List (Option String)) :=
  match connection with
  | .postgres replies => (replies.columns table).map (List.map Postgres.ColumnRow.name)
  | .mysql replies => (replies.columns table).map (List.map MySql.ColumnRow.name)
  | .sqlite replies => (replies.tableInfo table).map (List.map fun row => some row.name)

/-- The names in the rows that a connection replies for the columns of a temporary object. -/
def Connection.temporaryRowNames (connection : Connection) (object : String) :
    Reply (List (Option String)) :=
  match connection with
  | .postgres replies => (replies.temporaryColumns object).map (List.map Prod.fst)
  | .mysql replies =>
    (replies.temporaryColumns object).map (List.map fun row => some row.field.read)
  | .sqlite replies => (replies.tableInfo object).map (List.map fun row => some row.name)

/-- The columns of a table and those of a query are the rows of the reply, one by one and with their
names; their values are in order, only enumerations have any, and classifying them again changes
nothing. -/
theorem columns_follow_rows (describer : Dialect) (connection : Connection) :
    (∀ table described, (describeTable describer connection table).result = .ok described →
      ColumnsOf (connection.rowNames table) described.columns) ∧
    ∀ stamp query columns, (describeQuery describer connection stamp query).result = .ok columns →
      ColumnsOf (connection.temporaryRowNames (temporaryName describer stamp)) columns := by
  constructor
  · intro table described
    unfold describeTable
    refine readWith_induction (motive := fun connection reading => reading.result = .ok described →
      ColumnsOf (connection.rowNames table) described.columns) ?_ ?_ ?_ ?_
    · exact fun replies => Postgres.describeTable_columns
    · exact fun replies => MySql.describeTable_columns
    · exact fun replies => Sqlite.describeTable_columns
    · exact fun connection error done => nomatch done
  · intro stamp query columns
    by_cases blank : (Text.trimmed query).isEmpty = true
    · rw [describeQuery_of_blank blank]
      exact fun done => nomatch done
    · rw [describeQuery_of_text blank]
      refine readWith_induction (motive := fun connection reading => reading.result = .ok columns →
        ColumnsOf (connection.temporaryRowNames (temporaryName describer stamp)) columns)
        ?_ ?_ ?_ ?_
      · exact fun replies => Postgres.describeQuery_columns
      · exact fun replies => MySql.describeQuery_columns
      · exact fun replies => Sqlite.describeQuery_columns
      · exact fun connection error done => nomatch done

def moodReplies : Postgres.Replies where
  statement _ := .ok ()
  tables := .ok [(some "pets", some "")]
  tableComment _ := .ok none
  columns _ := .ok [⟨some "id", some "int4", some "", some "PRI"⟩,
    ⟨some "mood", some "mood", some "", some ""⟩]
  indexes _ := .ok []
  enumLabels type := .ok (if type = "mood" then [some "sad", some "happy"] else [])
  temporaryColumns _ := .ok [(some "mood", some "mood")]

/-- The columns of its table and of a query. -/
theorem moodReplies_columns :
    (∃ described, (describeTable .postgres (.postgres moodReplies) "pets").result = .ok described ∧
      ColumnsOf (.ok [some "id", some "mood"]) described.columns) ∧
    ∃ columns, (describeQuery .postgres (.postgres moodReplies) 7 " SELECT mood FROM pets").result =
      .ok columns ∧ ColumnsOf (.ok [some "mood"]) columns := by
  have text : ¬ (Text.trimmed " SELECT mood FROM pets").isEmpty = true := by decide +kernel
  have described : (describeQuery .postgres (.postgres moodReplies) 7
      " SELECT mood FROM pets").result = .ok [Postgres.viewColumn ("mood", "mood")] := by
    rw [describeQuery_of_text text]
    rfl
  obtain ⟨ofTable, ofQuery⟩ := columns_follow_rows .postgres (.postgres moodReplies)
  exact ⟨⟨_, rfl, ofTable "pets" _ rfl⟩, _, described, ofQuery 7 _ _ described⟩

end SqlMigrations.Catalog
