import Mathlib.Logic.Function.Basic
import SqlMigrations.Proofs.Catalog.Courses

namespace SqlMigrations.Catalog

open Schema

def creation (describer : Dialect) (object query : String) : String :=
  match describer with
  | .mysql => "CREATE TEMPORARY TABLE `" ++ object ++ "` AS " ++ query ++ " LIMIT 0"
  | .postgres | .sqlite => "CREATE TEMPORARY VIEW " ++ object ++ " AS " ++ query

def creationContext : Dialect → String
  | .mysql => "create temporary table for query"
  | .postgres | .sqlite => "create temporary view for query"

def removal (describer : Dialect) (object : String) : String :=
  match describer with
  | .mysql => "DROP TEMPORARY TABLE IF EXISTS `" ++ object ++ "`"
  | .postgres | .sqlite => "DROP VIEW IF EXISTS " ++ object

theorem head_append {front rest : String} {first : Char}
    (head : front.toList.head? = some first) : (front ++ rest).toList.head? = some first := by
  rw [String.toList_append, List.head?_append, head]
  rfl

theorem creation_head (describer : Dialect) (object query : String) :
    (creation describer object query).toList.head? = some 'C' := by
  cases describer with
  | mysql => exact head_append (head_append (head_append (head_append (by decide))))
  | postgres | sqlite => exact head_append (head_append (head_append (by decide)))

theorem removal_head (describer : Dialect) (object : String) :
    (removal describer object).toList.head? = some 'D' := by
  cases describer with
  | mysql => exact head_append (head_append (by decide))
  | postgres | sqlite => exact head_append (by decide)

theorem creation_ne_removal (describer : Dialect) (object query : String) :
    creation describer object query ≠ removal describer object := by
  intro same
  -- Their first letters differ, whatever the object and the query are.
  have head := creation_head describer object query
  rw [same, removal_head] at head
  cases head

namespace Connection

def acquired : Connection → Reply Nat
  | .postgres replies => replies.acquired
  | .mysql replies => replies.acquired
  | .sqlite replies => replies.acquired

def statement : Connection → String → Reply Unit
  | .postgres replies => replies.statement
  | .mysql replies => replies.statement
  | .sqlite replies => replies.statement

/-- The same catalog with another reply to one statement. -/
def answering (connection : Connection) (sql : String) (answer : Reply Unit) : Connection :=
  match connection with
  | .postgres replies =>
    .postgres { replies with statement := Function.update replies.statement sql answer }
  | .mysql replies =>
    .mysql { replies with statement := Function.update replies.statement sql answer }
  | .sqlite replies =>
    .sqlite { replies with statement := Function.update replies.statement sql answer }

def temporaryColumns (connection : Connection) (object : String) (channel : Channel) :
    Inspection (List Column) :=
  match connection with
  | .postgres replies => Postgres.viewColumns replies channel object
  | .mysql replies => MySql.tableColumns replies channel object
  | .sqlite replies => Sqlite.viewColumns replies channel object

variable (connection : Connection) (sql : String) (answer : Reply Unit)

@[simp] theorem answering_dialect :
    (connection.answering sql answer).dialect = connection.dialect := by
  cases connection <;> rfl

@[simp] theorem answering_acquired :
    (connection.answering sql answer).acquired = connection.acquired := by
  cases connection <;> rfl

@[simp] theorem answering_statement :
    (connection.answering sql answer).statement =
      Function.update connection.statement sql answer := by
  cases connection <;> rfl

@[simp] theorem answering_temporaryColumns :
    (connection.answering sql answer).temporaryColumns = connection.temporaryColumns := by
  cases connection <;> rfl

end Connection

section
variable {describer : Dialect} {connection : Connection} {stamp : Nat} {query : String}

theorem describeQuery_of_match (text : ¬ (Text.trimmed query).isEmpty = true)
    (matching : describer = connection.dialect) :
    describeQuery describer connection stamp query =
      Inspection.throughTemporary connection.acquired connection.statement
        (creation describer (temporaryName describer stamp) (Text.trimmed query))
        (creationContext describer) (removal describer (temporaryName describer stamp))
        (connection.temporaryColumns (temporaryName describer stamp)) := by
  subst matching
  cases connection <;> exact describeQuery_of_text text

theorem describeQuery_of_mismatch (text : ¬ (Text.trimmed query).isEmpty = true)
    (different : describer ≠ connection.dialect) :
    describeQuery describer connection stamp query =
      Inspection.fail (.dialectMismatch describer connection.dialect) := by
  rw [describeQuery_of_text text]
  cases describer <;> cases connection <;> first | rfl | exact absurd rfl different

end

/-- A request on a connection for the columns of an object. -/
inductive Sending.AsksAbout (channel : Channel) (object : String) : Sending → Prop where
  | columns : AsksAbout channel object ⟨channel, .temporaryColumns object⟩
  | info : AsksAbout channel object ⟨channel, .temporaryInfo object⟩

namespace Inspection

variable {α β : Type} {channel : Channel} {object : String}

theorem forall_sendings_bind {allowed : Sending → Prop} {first : Inspection α}
    {next : α → Inspection β} (before : ∀ sending ∈ first.sendings, allowed sending)
    (after : ∀ value, ∀ sending ∈ (next value).sendings, allowed sending) :
    ∀ sending ∈ (first >>= next).sendings, allowed sending := by
  cases ended : first.result with
  | error error => rwa [bind_of_error ended]
  | ok value =>
    rw [bind_of_ok ended]
    exact List.forall_mem_append.mpr ⟨before, after value⟩

variable {acquired : Reply Nat} {statement : String → Reply Unit} {create context drop : String}
  {read : Channel → Inspection α} {held : Nat} {failure : DriverFailure}

theorem throughTemporary_of_unacquired (unacquired : acquired = .error failure) :
    throughTemporary acquired statement create context drop read =
      fail (.query "acquire connection" failure) := by
  rw [throughTemporary, unacquired]
  rfl

theorem throughTemporary_of_refused (taken : acquired = .ok held)
    (refused : statement create = .error failure) :
    throughTemporary acquired statement create context drop read =
      ⟨[⟨.held held, .statement create⟩], .error (.query context failure)⟩ := by
  rw [throughTemporary, taken, refused]
  rfl

theorem throughTemporary_of_created (taken : acquired = .ok held)
    (created : statement create = .ok ()) :
    throughTemporary acquired statement create context drop read =
      ⟨⟨.held held, .statement create⟩ :: (read (.held held)).sendings ++
        [⟨.held held, .statement drop⟩], (read (.held held)).result⟩ := by
  rw [throughTemporary, taken, created]
  rfl

theorem throughTemporary_update (different : create ≠ drop) (answer : Reply Unit) :
    throughTemporary acquired (Function.update statement drop answer) create context drop read =
      throughTemporary acquired statement create context drop read := by
  rw [throughTemporary, throughTemporary, Function.update_of_ne different]
  rfl

end Inspection

theorem Connection.temporaryColumns_sendings (connection : Connection) (object : String)
    (channel : Channel) :
    ∀ sending ∈ (connection.temporaryColumns object channel).sendings,
      sending.AsksAbout channel object := by
  have columns : ∀ sending ∈ [Sending.mk channel (.temporaryColumns object)],
      sending.AsksAbout channel object := by
    simpa using .columns
  have info : ∀ sending ∈ [Sending.mk channel (.temporaryInfo object)],
      sending.AsksAbout channel object := by
    simpa using .info
  cases connection with
  | postgres replies => exact Inspection.forall_sendings_bind columns fun _ _ none => nomatch none
  | sqlite replies => exact Inspection.forall_sendings_bind columns fun _ _ none => nomatch none
  | mysql replies =>
    exact Inspection.forall_sendings_bind columns fun _ =>
      Inspection.forall_sendings_bind info fun _ _ none => nomatch none

/-- The courses that describing a query through an object can take. -/
inductive QueryCourse (describer : Dialect) (connection : Connection) (object query : String) :
    Inspection (List Column) → Prop where
  | blank (empty : query.isEmpty = true) :
      QueryCourse describer connection object query ⟨[], .error .emptyQuery⟩
  | mismatched (text : ¬ query.isEmpty = true) (different : describer ≠ connection.dialect) :
      QueryCourse describer connection object query
        ⟨[], .error (.dialectMismatch describer connection.dialect)⟩
  | unacquired (text : ¬ query.isEmpty = true) (matching : describer = connection.dialect)
      (failure : DriverFailure) (unacquired : connection.acquired = .error failure) :
      QueryCourse describer connection object query
        ⟨[], .error (.query "acquire connection" failure)⟩
  | refused (text : ¬ query.isEmpty = true) (matching : describer = connection.dialect) (held : Nat)
      (taken : connection.acquired = .ok held) (failure : DriverFailure)
      (refused : connection.statement (creation describer object query) = .error failure) :
      QueryCourse describer connection object query
        ⟨[⟨.held held, .statement (creation describer object query)⟩],
          .error (.query (creationContext describer) failure)⟩
  | removed (text : ¬ query.isEmpty = true) (matching : describer = connection.dialect) (held : Nat)
      (taken : connection.acquired = .ok held)
      (created : connection.statement (creation describer object query) = .ok ())
      (about : ∀ sending ∈ (connection.temporaryColumns object (.held held)).sendings,
        sending.AsksAbout (.held held) object) :
      QueryCourse describer connection object query
        ⟨⟨.held held, .statement (creation describer object query)⟩ ::
            (connection.temporaryColumns object (.held held)).sendings ++
            [⟨.held held, .statement (removal describer object)⟩],
          (connection.temporaryColumns object (.held held)).result⟩

theorem describeQuery_course (describer : Dialect) (connection : Connection) (stamp : Nat)
    (query : String) :
    QueryCourse describer connection (temporaryName describer stamp) (Text.trimmed query)
      (describeQuery describer connection stamp query) := by
  by_cases blank : (Text.trimmed query).isEmpty = true
  · rw [describeQuery_of_blank blank]
    exact .blank blank
  by_cases matching : describer = connection.dialect
  · rw [describeQuery_of_match blank matching]
    cases taken : connection.acquired with
    | error failure =>
      rw [Inspection.throughTemporary_of_unacquired rfl]
      exact .unacquired blank matching failure taken
    | ok held =>
      cases created : connection.statement
          (creation describer (temporaryName describer stamp) (Text.trimmed query)) with
      | error failure =>
        rw [Inspection.throughTemporary_of_refused rfl created]
        exact .refused blank matching held taken failure created
      | ok =>
        rw [Inspection.throughTemporary_of_created rfl created]
        exact .removed blank matching held taken created (connection.temporaryColumns_sendings _ _)
  · rw [describeQuery_of_mismatch blank matching]
    exact .mismatched blank matching

theorem describeQuery_answering (describer : Dialect) (connection : Connection) (stamp : Nat)
    (query : String) (answer : Reply Unit) :
    describeQuery describer (connection.answering
        (removal describer (temporaryName describer stamp)) answer) stamp query =
      describeQuery describer connection stamp query := by
  have sameDialect := connection.answering_dialect
    (removal describer (temporaryName describer stamp)) answer
  by_cases blank : (Text.trimmed query).isEmpty = true
  · rw [describeQuery_of_blank blank, describeQuery_of_blank blank]
  by_cases matching : describer = connection.dialect
  · rw [describeQuery_of_match blank matching,
      describeQuery_of_match blank (matching.trans sameDialect.symm)]
    simp only [Connection.answering_acquired, Connection.answering_statement,
      Connection.answering_temporaryColumns]
    exact Inspection.throughTemporary_update (creation_ne_removal _ _ _) answer
  · rw [describeQuery_of_mismatch blank matching,
      describeQuery_of_mismatch blank (sameDialect ▸ matching), sameDialect]

/-- Whatever the catalog replies, describing a query takes one of these courses: an object that was
made is removed by the last request, on the same connection, and the reply to that request makes no
difference. -/
theorem temporary_object_removed (describer : Dialect) (connection : Connection) (stamp : Nat)
    (query : String) :
    QueryCourse describer connection (temporaryName describer stamp) (Text.trimmed query)
      (describeQuery describer connection stamp query) ∧
    ∀ answer, describeQuery describer (connection.answering
        (removal describer (temporaryName describer stamp)) answer) stamp query =
      describeQuery describer connection stamp query :=
  ⟨describeQuery_course describer connection stamp query,
    describeQuery_answering describer connection stamp query⟩

end SqlMigrations.Catalog
