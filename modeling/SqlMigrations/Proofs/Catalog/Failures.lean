import SqlMigrations.Proofs.Catalog.Temporary

namespace SqlMigrations.Catalog

open Schema

variable {α β : Type}

/-- The lookups that are made at best. -/
def isBestEffort : Dialect → Request → Bool
  | .postgres, .tableComment _ | .postgres, .enumLabels _ => true
  | .mysql, .temporaryInfo _ => true
  | .sqlite, .createText _ => true
  | _, _ => false

def failureOf : Reply α → Option DriverFailure
  | .ok _ => none
  | .error failure => some failure

namespace Inspection

theorem mem_sent_append {γ : Type} {first : Inspection α} {last : Inspection β}
    {result : Except CatalogError γ} {request : Request} :
    request ∈ (Inspection.mk (first.sendings ++ last.sendings) result).sent ↔
      request ∈ first.sent ∨ request ∈ last.sent := by
  rw [sent, List.map_append, List.mem_append, sent, sent]

/-- A reading that fails with each of its essential requests that fails. -/
def Propagates (failure? : Request → Option DriverFailure) (essential : Request → Prop)
    (reading : Inspection α) : Prop :=
  ∀ request ∈ reading.sent, essential request → ∀ failure, failure? request = some failure →
    ∃ context, reading.result = .error (.query context failure)

namespace Propagates

variable {failure? : Request → Option DriverFailure} {essential : Request → Prop}
  {reading : Inspection α} {channel : Channel} {request : Request} {context : String}
  {reply : Reply α}

theorem of_silent (silent : reading.sendings = []) : reading.Propagates failure? essential := by
  intro request asked
  rw [sent, silent] at asked
  cases asked

theorem ask (same : failure? request = failureOf reply) :
    (ask channel request context reply).Propagates failure? essential := by
  intro asked member _ failure failed
  obtain rfl : asked = request := List.mem_singleton.mp member
  rw [same] at failed
  cases reply with
  | ok value => cases failed
  | error found =>
    obtain rfl : found = failure := Option.some.inj failed
    exact ⟨context, rfl⟩

theorem lookUp {default : α} (inessential : ¬ essential request) :
    (lookUp channel request default reply).Propagates failure? essential := by
  intro asked member isEssential
  obtain rfl : asked = request := List.mem_singleton.mp member
  exact absurd isEssential inessential

theorem bind {next : α → Inspection β} (first : reading.Propagates failure? essential)
    (later : ∀ value, (next value).Propagates failure? essential) :
    (reading >>= next).Propagates failure? essential := by
  intro request asked isEssential failure failed
  cases ended : reading.result with
  | error error =>
    rw [bind_of_error ended] at asked ⊢
    obtain ⟨context, same⟩ := first request asked isEssential failure failed
    exact ⟨context, congrArg Except.error (Except.error.inj (ended.symm.trans same))⟩
  | ok value =>
    -- A first part that came to a value has no failed essential request.
    rw [bind_of_ok ended] at asked ⊢
    obtain before | after := mem_sent_append.mp asked
    · obtain ⟨context, same⟩ := first request before isEssential failure failed
      cases ended.symm.trans same
    · exact later value request after isEssential failure failed

theorem each {read : α → Inspection β} (reads : ∀ item, (read item).Propagates failure? essential)
    (items : List α) : (Inspection.each read items).Propagates failure? essential := by
  induction items with
  | nil => exact of_silent rfl
  | cons item items induction =>
    exact bind (reads item) fun _ => bind induction fun _ => of_silent rfl

theorem closedBy {last : Inspection β} (first : reading.Propagates failure? essential)
    (inessential : ∀ request ∈ last.sent, ¬ essential request) :
    (reading.closedBy last).Propagates failure? essential := by
  intro request asked isEssential
  obtain before | after := mem_sent_append.mp asked
  · exact first request before isEssential
  · exact absurd isEssential (inessential request after)

theorem throughTemporary {acquired : Reply Nat} {statement : String → Reply Unit}
    {create drop : String} {read : Channel → Inspection α}
    (created : failure? (.statement create) = failureOf (statement create))
    (closing : ¬ essential (.statement drop))
    (reads : ∀ channel, (read channel).Propagates failure? essential) :
    (throughTemporary acquired statement create context drop read).Propagates failure?
      essential := by
  have last : ∀ request ∈ [Request.statement drop], ¬ essential request := by simpa using closing
  exact bind (of_silent rfl) fun connection => bind (ask created) fun _ =>
    closedBy (reads (.held connection)) last

end Propagates

end Inspection

open Inspection (Propagates)

namespace Postgres

variable {replies : Replies}

/-- The failure of a request: the driver's, or that of the first row that cannot be read. -/
def Replies.failure? (replies : Replies) : Request → Option DriverFailure
  | .statement sql => failureOf (replies.statement sql)
  | .tables => failureOf (replies.tables.bind fun rows => rows.mapM readTableRow)
  | .tableComment table => failureOf (replies.tableComment table)
  | .columns table => failureOf ((replies.columns table).bind fun rows => rows.mapM ColumnRow.read)
  | .indexes table => failureOf ((replies.indexes table).bind fun rows => rows.mapM IndexRow.read)
  | .enumLabels type =>
    failureOf ((replies.enumLabels type).bind fun rows => rows.mapM (requireText 0))
  | .temporaryColumns view =>
    failureOf ((replies.temporaryColumns view).bind fun rows => rows.mapM readViewRow)
  | _ => none

theorem listTables_propagates {essential : Request → Prop} :
    (listTables replies).Propagates replies.failure? essential :=
  .ask rfl

theorem viewColumns_propagates {essential : Request → Prop} {channel : Channel} {view : String} :
    (viewColumns replies channel view).Propagates replies.failure? essential :=
  .bind (.ask rfl) fun _ => .of_silent rfl

theorem describeTable_propagates {table : String} :
    (describeTable replies table).Propagates replies.failure?
      fun request => isBestEffort .postgres request = false := by
  have column (facts : ColumnFacts) : (readColumn replies facts).Propagates replies.failure?
      fun request => isBestEffort .postgres request = false :=
    .bind (.lookUp (by simp [isBestEffort])) fun _ => .of_silent rfl
  have comment : (tableComment replies table).Propagates replies.failure?
      fun request => isBestEffort .postgres request = false :=
    .bind (.lookUp (by simp [isBestEffort])) fun _ => .of_silent rfl
  refine comment.bind fun _ => .bind (.ask rfl) fun rows => ?_
  split
  · exact .of_silent rfl
  · exact .bind (.each column rows) fun _ => .bind (.ask rfl) fun _ => .of_silent rfl

end Postgres

namespace MySql

variable {replies : Replies}

def Replies.failure? (replies : Replies) : Request → Option DriverFailure
  | .statement sql => failureOf (replies.statement sql)
  | .tables => failureOf (replies.tables.bind fun rows => rows.mapM readTableRow)
  | .tableComment table =>
    failureOf ((replies.tableComment table).bind fun row => row.mapM (requireText 0))
  | .columns table => failureOf ((replies.columns table).bind fun rows => rows.mapM ColumnRow.read)
  | .indexes table => failureOf ((replies.indexes table).bind fun rows => rows.mapM IndexRow.read)
  | .temporaryColumns object => failureOf (replies.temporaryColumns object)
  | .temporaryInfo object =>
    failureOf ((replies.temporaryInfo object).bind fun rows => rows.mapM ColumnRow.read)
  | _ => none

theorem listTables_propagates {essential : Request → Prop} :
    (listTables replies).Propagates replies.failure? essential :=
  .ask rfl

theorem tableColumns_propagates {essential : Request → Prop} {channel : Channel} {object : String}
    (inessential : ¬ essential (.temporaryInfo object)) :
    (tableColumns replies channel object).Propagates replies.failure? essential :=
  .bind (.ask rfl) fun _ => .bind (.lookUp inessential) fun _ => .of_silent rfl

theorem describeTable_propagates {essential : Request → Prop} {table : String} :
    (describeTable replies table).Propagates replies.failure? essential := by
  have comment : (tableComment replies table).Propagates replies.failure? essential := by
    refine .bind (.ask rfl) fun found => ?_
    cases found <;> exact .of_silent rfl
  exact comment.bind fun _ => .bind (.ask rfl) fun _ => .bind (.ask rfl) fun _ => .of_silent rfl

end MySql

def Sqlite.Replies.failure? (replies : Sqlite.Replies) : Request → Option DriverFailure
  | .statement sql => failureOf (replies.statement sql)
  | .tables => failureOf replies.tables
  | .tableInfo table | .temporaryColumns table => failureOf (replies.tableInfo table)
  | .indexList table => failureOf (replies.indexList table)
  | .indexInfo index => failureOf (replies.indexInfo index)
  | .createText table => failureOf (replies.createText table)
  | _ => none

def Connection.failure? : Connection → Request → Option DriverFailure
  | .postgres replies => replies.failure?
  | .mysql replies => replies.failure?
  | .sqlite replies => replies.failure?

theorem Connection.failure?_statement (connection : Connection) (sql : String) :
    connection.failure? (.statement sql) = failureOf (connection.statement sql) := by
  cases connection <;> rfl

section
variable {describer : Dialect} {connection : Connection}

theorem Connection.temporaryColumns_propagates {essential : Request → Prop} {object : String}
    {channel : Channel} (inessential : ∀ object, connection.dialect = .mysql →
      ¬ essential (.temporaryInfo object)) :
    (connection.temporaryColumns object channel).Propagates connection.failure? essential := by
  cases connection with
  | postgres replies => exact Postgres.viewColumns_propagates
  | mysql replies => exact MySql.tableColumns_propagates (inessential object rfl)
  | sqlite replies => exact .bind (.ask rfl) fun _ => .of_silent rfl

theorem listTables_propagates {essential : Request → Prop} :
    (listTables describer connection).Propagates connection.failure? essential :=
  readWith_induction
    (motive := fun connection reading => reading.Propagates connection.failure? essential)
    (fun _ => Postgres.listTables_propagates) (fun _ => MySql.listTables_propagates)
    (fun _ => .bind (.ask rfl) fun _ => .of_silent rfl) (fun _ _ => .of_silent rfl)

theorem describeTable_propagates (notSqlite : describer ≠ .sqlite) (table : String) :
    (describeTable describer connection table).Propagates connection.failure?
      fun request => isBestEffort describer request = false := by
  unfold describeTable readWith
  split
  · exact Postgres.describeTable_propagates
  · exact MySql.describeTable_propagates
  · exact absurd rfl notSqlite
  · exact .of_silent rfl

theorem describeQuery_propagates (stamp : Nat) (query : String) :
    (describeQuery describer connection stamp query).Propagates connection.failure?
      fun request => isBestEffort describer request = false ∧
        request ≠ .statement (removal describer (temporaryName describer stamp)) := by
  by_cases blank : (Text.trimmed query).isEmpty = true
  · rw [describeQuery_of_blank blank]
    exact .of_silent rfl
  by_cases matching : describer = connection.dialect
  · rw [describeQuery_of_match blank matching]
    refine .throughTemporary (connection.failure?_statement _) (fun closing => closing.2 rfl) ?_
    refine fun channel => connection.temporaryColumns_propagates fun object isMysql essential => ?_
    rw [matching, isMysql] at essential
    exact Bool.noConfusion essential.1
  · rw [describeQuery_of_mismatch blank matching]
    exact .of_silent rfl

theorem listTablesWithColumns_propagates (notSqlite : describer ≠ .sqlite) :
    (listTablesWithColumns describer connection).Propagates connection.failure?
      fun request => isBestEffort describer request = false := by
  refine .bind listTables_propagates fun tables => .each (fun listed => ?_) tables
  exact (describeTable_propagates notSqlite listed.name).bind fun _ => .of_silent rfl

end

end SqlMigrations.Catalog
