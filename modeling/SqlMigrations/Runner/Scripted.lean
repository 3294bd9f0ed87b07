import SqlMigrations.Checkpoint.Amend
import SqlMigrations.Dialect
import SqlMigrations.Runner.Database

/-!
A database that keeps the checkpoint table and otherwise answers by a script: which texts it
refuses, how many rows a statement affects and what it returns for locks. A transaction works on a
copy of the table, which a commit puts in place; a statement may open or end one, too, and a refused
statement may have ended one.
-/

namespace SqlMigrations

/-- What a database answers. A refusal may depend on how often the text was sent before. -/
structure Script where
  refusal? : (text : String) → (before : Nat) → Option DriverFailure
  affected : String → Nat
  locked : Option Int

/-- The state of a scripted database: the committed table, the copy of an open transaction, and the
texts that it was sent. -/
structure ScriptState where
  committed : CheckpointTable
  working : Option CheckpointTable
  texts : List String

namespace ScriptState

/-- A database with a committed table. -/
def start (table : CheckpointTable) : ScriptState :=
  ⟨table, none, []⟩

def table (state : ScriptState) : CheckpointTable :=
  state.working.getD state.committed

def setTable (state : ScriptState) (table : CheckpointTable) : ScriptState :=
  match state.working with
  | some _ => { state with working := some table }
  | none => { state with committed := table }

end ScriptState

/-- The text that opens a transaction; SQLite takes the write lock at once. -/
def beginText : Dialect → String
  | .sqlite => "BEGIN IMMEDIATE"
  | .postgres | .mysql => "BEGIN"

/-- The text that a script knows a command by, if the database is sent anything. -/
def Command.text? (dialect : Dialect) : Command → Option String
  | .connect | .close => none
  | .statement sql => some sql
  | .savepoint move => some move.text
  | .begin => some (beginText dialect)
  | .commit => some "COMMIT"
  | .rollback => some "ROLLBACK"
  | .lock _ => some "lock"
  | .unlock _ => some "unlock"
  | .load _ _ => some "load"
  | .save _ => some "save"

def ScriptState.opened (state : ScriptState) : ScriptState :=
  { state with working := some state.committed }

def ScriptState.afterCommit (state : ScriptState) : ScriptState :=
  { state with committed := state.table, working := none }

def ScriptState.afterRollback (state : ScriptState) : ScriptState :=
  { state with working := none }

/-- The state after the only connection was closed; a SQLite database in memory ends with it. -/
def ScriptState.afterClose (dialect : Dialect) (state : ScriptState) : ScriptState :=
  match dialect with
  | .sqlite => ⟨.empty, none, state.texts⟩
  | .postgres | .mysql => state

/-- The statements that open a transaction, in lower case. -/
def openingStatements : List String :=
  ["begin", "begin transaction", "begin deferred", "begin immediate", "begin exclusive"]

/-- The statements that commit a transaction, in lower case. -/
def committingStatements : List String :=
  ["commit", "commit transaction", "end", "end transaction"]

/-- The statements that roll a transaction back, in lower case. -/
def undoingStatements : List String :=
  ["rollback", "rollback transaction"]

def ScriptState.afterStatement (state : ScriptState) (sql : String) : ScriptState :=
  let lowered := Text.lowered sql
  if openingStatements.contains lowered then state.opened
  else if committingStatements.contains lowered then state.afterCommit
  else if undoingStatements.contains lowered then state.afterRollback
  else
    match Amendment.read? sql with
    | some amendment => state.setTable (state.table.amend amendment)
    | none => state

def Script.answer (script : Script) (dialect : Dialect) (state : ScriptState) :
    (command : Command) → command.Answer × ScriptState
  | .connect | .savepoint _ | .unlock _ => ((), state)
  | .close => ((), state.afterClose dialect)
  | .statement sql => (script.affected sql, state.afterStatement sql)
  | .begin => ((), state.opened)
  | .commit => ((), state.afterCommit)
  | .rollback => ((), state.afterRollback)
  | .lock _ => (script.locked, state)
  | .load project filename =>
    (state.table.load dialect project filename, state)
  | .save checkpoint => ((), state.setTable (state.table.save dialect checkpoint))

/-- The refusal of a command, if the script has one. -/
def Script.refuses? (script : Script) (dialect : Dialect) (state : ScriptState)
    (command : Command) : Option DriverFailure :=
  (command.text? dialect).bind (fun text => script.refusal? text (state.texts.count text))

/-- What a database says to a commit when no transaction is open. -/
def nothingToCommit : String :=
  "cannot commit - no transaction is active"

/-- Whether the next commit finds no transaction. -/
def Script.hasNothingToCommit (script : Script) (dialect : Dialect) (state : ScriptState) : Bool :=
  match script.refuses? dialect state .commit with
  | some (.refused _ message) => message == nothingToCommit
  | _ => false

/-- The state after a refused command. A statement can be refused in such a way that the open
transaction is rolled back and ended; the next commit then finds none. -/
def Script.afterRefusal (script : Script) (dialect : Dialect) (state : ScriptState) :
    Command → ScriptState
  | .statement _ => if script.hasNothingToCommit dialect state then state.afterRollback else state
  | _ => state

def ScriptState.note (state : ScriptState) (dialect : Dialect) (command : Command) : ScriptState :=
  { state with texts := state.texts ++ (command.text? dialect).toList }

def Script.database (script : Script) (dialect : Dialect) : Database ScriptState where
  send command state :=
    let noted := state.note dialect command
    match script.refuses? dialect state command with
    | some failure => (.error failure, script.afterRefusal dialect noted command)
    | none =>
      let answered := script.answer dialect noted command
      (.ok answered.1, answered.2)

end SqlMigrations
