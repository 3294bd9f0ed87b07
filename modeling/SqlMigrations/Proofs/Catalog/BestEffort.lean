import SqlMigrations.Proofs.Catalog.Failures

namespace SqlMigrations.Catalog

open Schema

/-- A change of the reply to a lookup, which also knows the request and the value of a reply without
rows. -/
abbrev LookupChange :=
  ∀ α : Type, Request → α → Reply α → Reply α

def failing (failures : Request → Option DriverFailure) : LookupChange := fun _ request _ reply =>
  match failures request with
  | some failure => .error failure
  | none => reply

/-- The given lookups find nothing. -/
def emptied (failures : Request → Option DriverFailure) : LookupChange :=
  fun _ request noRows reply =>
    match failures request with
    | some _ => .ok noRows
    | none => reply

def Postgres.Replies.withLookups (change : LookupChange) (replies : Postgres.Replies) :
    Postgres.Replies :=
  { replies with
    tableComment table := change _ (.tableComment table) none (replies.tableComment table)
    enumLabels type := change _ (.enumLabels type) [] (replies.enumLabels type) }

def MySql.Replies.withLookups (change : LookupChange) (replies : MySql.Replies) : MySql.Replies :=
  { replies with
    temporaryInfo object := change _ (.temporaryInfo object) [] (replies.temporaryInfo object) }

def Sqlite.Replies.withLookups (change : LookupChange) (replies : Sqlite.Replies) :
    Sqlite.Replies :=
  { replies with
    createText table := change _ (.createText table) none (replies.createText table) }

/-- The connection with the replies changed to just the lookups that are made at best. -/
def Connection.withLookups (change : LookupChange) : Connection → Connection
  | .postgres replies => .postgres (replies.withLookups change)
  | .mysql replies => .mysql (replies.withLookups change)
  | .sqlite replies => .sqlite (replies.withLookups change)

section
variable {α ρ : Type} {channel : Channel} {request : Request}

theorem lookUp_failing (failures : Request → Option DriverFailure) (default : α) (reply : Reply α) :
    Inspection.lookUp channel request default (failing failures α request default reply) =
      Inspection.lookUp channel request default (emptied failures α request default reply) := by
  unfold failing emptied
  cases failures request <;> rfl

theorem lookUp_rows_failing (failures : Request → Option DriverFailure) (read : ρ → Reply α)
    (reply : Reply (List ρ)) :
    Inspection.lookUp channel request []
        ((failing failures _ request [] reply).bind fun rows => rows.mapM read) =
      Inspection.lookUp channel request []
        ((emptied failures _ request [] reply).bind fun rows => rows.mapM read) := by
  unfold failing emptied
  cases failures request <;> rfl

end

variable {failures : Request → Option DriverFailure}

theorem Postgres.describeTable_failing (replies : Replies) (table : String) :
    describeTable (replies.withLookups (failing failures)) table =
      describeTable (replies.withLookups (emptied failures)) table := by
  have labels : readLabels (replies.withLookups (failing failures)) =
      readLabels (replies.withLookups (emptied failures)) :=
    funext fun type => lookUp_rows_failing failures (requireText 0) (replies.enumLabels type)
  have column : readColumn (replies.withLookups (failing failures)) =
      readColumn (replies.withLookups (emptied failures)) := by
    funext facts
    rw [readColumn, readColumn, labels]
  have comment : tableComment (replies.withLookups (failing failures)) table =
      tableComment (replies.withLookups (emptied failures)) table := by
    refine congrArg (· >>= _) ?_
    exact lookUp_failing failures none (replies.tableComment table)
  -- The reading depends on the changed replies only through these two.
  rw [describeTable, describeTable, comment, column]
  rfl

theorem MySql.describeQuery_failing (replies : Replies) (object query : String) :
    describeQuery (replies.withLookups (failing failures)) object query =
      describeQuery (replies.withLookups (emptied failures)) object query := by
  have columns (channel : Channel) : tableColumns (replies.withLookups (failing failures)) channel
      object = tableColumns (replies.withLookups (emptied failures)) channel object := by
    refine congrArg (_ >>= ·) (funext fun rows => congrArg (· >>= _) ?_)
    exact lookUp_rows_failing failures ColumnRow.read (replies.temporaryInfo object)
  rw [describeQuery, describeQuery, funext columns]
  rfl

theorem Sqlite.describeTable_failing (replies : Replies) (table : String) :
    describeTable (replies.withLookups (failing failures)) table =
      describeTable (replies.withLookups (emptied failures)) table := by
  have clauses : readClauses (replies.withLookups (failing failures)) table =
      readClauses (replies.withLookups (emptied failures)) table := by
    refine congrArg (· >>= _) ?_
    exact lookUp_failing failures none (replies.createText table)
  rw [describeTable, describeTable, clauses]
  rfl

section
variable {α : Type} (describer : Dialect) (connection : Connection)

theorem readWith_failing {postgres : Postgres.Replies → Inspection α}
    {mysql : MySql.Replies → Inspection α} {sqlite : Sqlite.Replies → Inspection α}
    (ofPostgres : ∀ replies : Postgres.Replies, postgres (replies.withLookups (failing failures)) =
      postgres (replies.withLookups (emptied failures)))
    (ofMysql : ∀ replies : MySql.Replies, mysql (replies.withLookups (failing failures)) =
      mysql (replies.withLookups (emptied failures)))
    (ofSqlite : ∀ replies : Sqlite.Replies, sqlite (replies.withLookups (failing failures)) =
      sqlite (replies.withLookups (emptied failures))) :
    readWith describer (connection.withLookups (failing failures)) postgres mysql sqlite =
      readWith describer (connection.withLookups (emptied failures)) postgres mysql sqlite := by
  cases describer <;> cases connection <;>
    first | exact ofPostgres _ | exact ofMysql _ | exact ofSqlite _ | rfl

theorem describeTable_failing (table : String) :
    describeTable describer (connection.withLookups (failing failures)) table =
      describeTable describer (connection.withLookups (emptied failures)) table :=
  readWith_failing describer connection (Postgres.describeTable_failing · table) (fun _ => rfl)
    (Sqlite.describeTable_failing · table)

theorem describeQuery_failing (stamp : Nat) (query : String) :
    describeQuery describer (connection.withLookups (failing failures)) stamp query =
      describeQuery describer (connection.withLookups (emptied failures)) stamp query := by
  by_cases blank : (Text.trimmed query).isEmpty = true
  · rw [describeQuery_of_blank blank, describeQuery_of_blank blank]
  · rw [describeQuery_of_text blank, describeQuery_of_text blank]
    exact readWith_failing describer connection (fun _ => rfl)
      (MySql.describeQuery_failing · _ _) (fun _ => rfl)

theorem listTablesWithColumns_failing :
    listTablesWithColumns describer (connection.withLookups (failing failures)) =
      listTablesWithColumns describer (connection.withLookups (emptied failures)) := by
  have tables : listTables describer (connection.withLookups (failing failures)) =
      listTables describer (connection.withLookups (emptied failures)) :=
    readWith_failing describer connection (fun _ => rfl) (fun _ => rfl) (fun _ => rfl)
  unfold listTablesWithColumns
  simp only [tables, describeTable_failing]

end

/-- It makes no difference whether lookups that are made at best fail or find nothing. Where MySQL
or PostgreSQL fail any other request, the removal of the temporary object excepted, the whole
reading fails. -/
theorem lookups_fail_as_empty (describer : Dialect) (connection : Connection) :
    (∀ failures,
      (∀ table, describeTable describer (connection.withLookups (failing failures)) table =
        describeTable describer (connection.withLookups (emptied failures)) table) ∧
      (∀ stamp query,
        describeQuery describer (connection.withLookups (failing failures)) stamp query =
          describeQuery describer (connection.withLookups (emptied failures)) stamp query) ∧
      listTablesWithColumns describer (connection.withLookups (failing failures)) =
        listTablesWithColumns describer (connection.withLookups (emptied failures))) ∧
    (describer ≠ .sqlite →
      (∀ table, (describeTable describer connection table).Propagates connection.failure?
        fun request => isBestEffort describer request = false) ∧
      (∀ stamp query, (describeQuery describer connection stamp query).Propagates
        connection.failure? fun request => isBestEffort describer request = false ∧
          request ≠ .statement (removal describer (temporaryName describer stamp))) ∧
      (listTablesWithColumns describer connection).Propagates connection.failure?
        fun request => isBestEffort describer request = false) :=
  ⟨fun _ => ⟨describeTable_failing describer connection, describeQuery_failing describer connection,
      listTablesWithColumns_failing describer connection⟩,
    fun notSqlite => ⟨describeTable_propagates notSqlite, describeQuery_propagates,
      listTablesWithColumns_propagates notSqlite⟩⟩

/-- A catalog that refuses its indexes. It knows a comment on the one column of the query. -/
def sealedReplies : MySql.Replies where
  statement _ := .ok ()
  tables := .ok [(some "pets", some "")]
  tableComment _ := .ok (some (some "Pets"))
  columns _ := .ok []
  indexes _ := .error .poolTimedOut
  temporaryColumns _ := .ok [⟨.text "mood", .text "text", .text ""⟩]
  temporaryInfo _ := .ok [⟨some "mood", some "text", some "", some "How it feels", some "text"⟩]

/-- The column that a query yields, with the given comment. -/
def moodWith (comment : String) : Column :=
  ⟨"mood", "text", "text", .text, .none, comment, 0, []⟩

theorem sealedReplies_fail :
    (describeQuery .mysql (.mysql sealedReplies) 7 "SELECT mood FROM pets").result =
      .ok [moodWith "How it feels"] ∧
    (describeQuery .mysql
        ((Connection.mysql sealedReplies).withLookups (failing fun _ => some .poolTimedOut)) 7
        "SELECT mood FROM pets").result = .ok [moodWith ""] ∧
    Dialect.mysql ≠ .sqlite ∧
    .indexes "pets" ∈ (describeTable .mysql (.mysql sealedReplies) "pets").sent ∧
    ∃ context, (describeTable .mysql (.mysql sealedReplies) "pets").result =
      .error (.query context .poolTimedOut) := by
  obtain ⟨alike, propagates⟩ := lookups_fail_as_empty .mysql (.mysql sealedReplies)
  have asked : .indexes "pets" ∈ (describeTable .mysql (.mysql sealedReplies) "pets").sent := by
    decide
  have plain : (describeQuery .mysql
      ((Connection.mysql sealedReplies).withLookups (emptied fun _ => some .poolTimedOut)) 7
      "SELECT mood FROM pets").result = .ok [moodWith ""] := by
    decide +kernel
  refine ⟨by decide +kernel, ?_, by decide, asked,
    (propagates (by decide)).1 "pets" _ asked rfl _ rfl⟩
  rw [(alike _).2.1 7 "SELECT mood FROM pets", plain]

end SqlMigrations.Catalog
