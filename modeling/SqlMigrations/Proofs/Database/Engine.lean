import SqlMigrations.Proofs.Checkpoint.Rows
import SqlMigrations.Proofs.Database.Faulty

/-!
Engines over any data. What a statement does to what is stored is given: it either changes it or
fails with a text. The engines differ in what a failure costs. On PostgreSQL it aborts the open
transaction, which then takes nothing but a rollback, be it to a savepoint; on the others a failing
statement has no effect.
-/

namespace SqlMigrations

/-- Some data, and the index and the status that are stored for each key. -/
structure Stored (δ : Type) where
  data : δ
  row : String → String → Option (Int × String)

/-- What statements do. -/
abbrev Behaviour (δ : Type) :=
  String → Stored δ → Except String (Stored δ)

structure Work (δ : Type) where
  stored : Stored δ
  savepoints : List (Stored δ)
  aborted : Bool

/-- What is kept for good, and what an open transaction made of it. -/
structure Engine (δ : Type) where
  durable : Stored δ
  work : Option (Work δ)

variable {keys : Collation} {δ : Type}

def Stored.checkpoint (stored : Stored δ) (project filename : String) : Checkpoint :=
  Runner.checkpointOfRow project filename (stored.row project filename)

def Stored.save (keys : Collation) (stored : Stored δ) (checkpoint : Checkpoint) : Stored δ :=
  { stored with
    row := fun project filename =>
      if keys.SameKey checkpoint.key (project, filename) then
        some (checkpoint.index, checkpoint.status)
      else stored.row project filename }

theorem Stored.row_save (stored : Stored δ) (project filename : String) (index : Int)
    (status : String) :
    (stored.save keys ⟨project, filename, index, status⟩).row project filename =
      some (index, status) :=
  if_pos (.refl keys _)

/-- The queries of every dialect load and save in this way. -/
theorem Stored.save_load (dialect : Dialect) (data : δ) (table : CheckpointRows keys)
    (checkpoint : Checkpoint) :
    Stored.save keys ⟨data, table.load dialect⟩ checkpoint =
      ⟨data, (table.save dialect checkpoint).load dialect⟩ := by
  refine congrArg (Stored.mk data) (funext fun project => funext fun filename => ?_)
  exact (table.load_save dialect checkpoint project filename).symm

def Work.move (work : Work δ) : SavepointMove → Option (Work δ)
  | .set => some { work with savepoints := work.stored :: work.savepoints }
  | .release => work.savepoints.tail?.map (fun outer => { work with savepoints := outer })
  | .rollBack =>
    work.savepoints.head?.map (fun kept => { work with stored := kept, aborted := false })

/-- Whether a command is taken in an aborted transaction, or is none to the server. -/
def Command.endsAbort : Command → Bool
  | .connect | .close | .rollback | .savepoint .rollBack => true
  | _ => false

namespace Engine

def isAborted (engine : Engine δ) : Bool :=
  engine.work.any Work.aborted

/-- What a command sees. -/
def stored (engine : Engine δ) : Stored δ :=
  match engine.work with
  | some work => work.stored
  | none => engine.durable

def put (engine : Engine δ) (stored : Stored δ) : Engine δ :=
  match engine.work with
  | some work => { engine with work := some { work with stored := stored } }
  | none => { engine with durable := stored }

def perform (keys : Collation) (behaviour : Behaviour δ) (engine : Engine δ) :
    (command : Command) → Except String (command.Answer × Engine δ)
  | .connect | .unlock _ => .ok ((), engine)
  | .close | .rollback => .ok ((), ⟨engine.durable, none⟩)
  | .begin =>
    match engine.work with
    | none => .ok ((), ⟨engine.durable, some ⟨engine.durable, [], false⟩⟩)
    | some _ => .error "there is already a transaction in progress"
  | .commit => .ok ((), ⟨engine.stored, none⟩)
  | .lock _ => .ok (some 1, engine)
  | .load project filename => .ok (engine.stored.row project filename, engine)
  | .save checkpoint => .ok ((), engine.put (engine.stored.save keys checkpoint))
  | .statement sql => (behaviour sql engine.stored).map (fun stored => (0, engine.put stored))
  | .savepoint move =>
    match engine.work.bind (fun work => work.move move) with
    | some moved => .ok ((), { engine with work := some moved })
    | none => .error "savepoint does not exist"

/-- What a failed command leaves. -/
def failed (dialect : Dialect) (engine : Engine δ) : Engine δ :=
  match dialect, engine.work with
  | .postgres, some work => { engine with work := some { work with aborted := true } }
  | _, _ => engine

end Engine

def refusalLabel : Dialect → RefusalLabel
  | .postgres => .postgres
  | .mysql => .mysql 1064 "42000"
  | .sqlite => .sqlite "1"

def engineDatabase (keys : Collation) (dialect : Dialect) (behaviour : Behaviour δ) :
    Database (Engine δ) where
  send command engine :=
    if engine.isAborted && !command.endsAbort then
      (.error inAbortedTransaction, engine)
    else
      match engine.perform keys behaviour command with
      | .ok (answer, after) => (.ok answer, after)
      | .error message =>
        (.error (.refused (refusalLabel dialect) message), engine.failed dialect)

section
variable (keys : Collation) (dialect : Dialect) (behaviour : Behaviour δ)
  (durable stored : Stored δ)
  (savepoints : List (Stored δ))

/-- An open transaction in which no failure is left. -/
def Engine.healthy : Engine δ :=
  ⟨durable, some ⟨stored, savepoints, false⟩⟩

def Engine.aborted : Engine δ :=
  ⟨durable, some ⟨stored, savepoints, true⟩⟩

theorem engine_set :
    (engineDatabase keys dialect behaviour).send (.savepoint .set)
        (Engine.healthy durable stored savepoints) =
      (.ok (), Engine.healthy durable stored (stored :: savepoints)) :=
  rfl

theorem engine_release (kept : Stored δ) :
    (engineDatabase keys dialect behaviour).send (.savepoint .release)
        (Engine.healthy durable stored (kept :: savepoints)) =
      (.ok (), Engine.healthy durable stored savepoints) :=
  rfl

theorem engine_rollBack (kept : Stored δ) :
    (engineDatabase keys dialect behaviour).send (.savepoint .rollBack)
        (Engine.aborted durable stored (kept :: savepoints)) =
      (.ok (), Engine.healthy durable kept (kept :: savepoints)) :=
  rfl

theorem engine_load (project filename : String) :
    (engineDatabase keys dialect behaviour).send (.load project filename)
        (Engine.healthy durable stored savepoints) =
      (.ok (stored.row project filename), Engine.healthy durable stored savepoints) :=
  rfl

theorem engine_save (checkpoint : Checkpoint) :
    (engineDatabase keys dialect behaviour).send (.save checkpoint)
        (Engine.healthy durable stored savepoints) =
      (.ok (), Engine.healthy durable (stored.save keys checkpoint) savepoints) :=
  rfl

theorem engine_commit :
    (engineDatabase keys dialect behaviour).send .commit
        (Engine.healthy durable stored savepoints) =
      (.ok (), ⟨stored, none⟩) :=
  rfl

variable {keys behaviour stored} {sql : String}

theorem engine_executes {next : Stored δ} (succeeds : behaviour sql stored = .ok next) :
    (engineDatabase keys dialect behaviour).send (.statement sql)
        (Engine.healthy durable stored savepoints) =
      (.ok 0, Engine.healthy durable next savepoints) := by
  have performed : (Engine.healthy durable stored savepoints).perform keys behaviour
      (.statement sql) =
      .ok (0, Engine.healthy durable next savepoints) :=
    congrArg (Except.map _) succeeds
  simp only [engineDatabase, performed]
  rfl

theorem engine_refuses {message : String} (fails : behaviour sql stored = .error message) :
    (engineDatabase keys dialect behaviour).send (.statement sql)
        (Engine.healthy durable stored savepoints) =
      (.error (.refused (refusalLabel dialect) message),
        (Engine.healthy durable stored savepoints).failed dialect) := by
  have performed : (Engine.healthy durable stored savepoints).perform keys behaviour
      (.statement sql) =
      .error message :=
    congrArg (Except.map _) fails
  simp only [engineDatabase, performed]
  rfl

end

end SqlMigrations
