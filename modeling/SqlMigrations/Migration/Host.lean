import SqlMigrations.Connection.Surroundings
import SqlMigrations.Migration.Migrate
import SqlMigrations.Runner.Scripted

/-!
Whole migrations on one host, one after the other. The files of the host and the checkpoint table in
a database file outlive each of them; a database in memory is new every time.
-/

namespace SqlMigrations

/-- A host: what attempts to connect meet, and the checkpoint table in the database file. -/
structure Host where
  around : Surroundings
  table : CheckpointTable

/-- The table that a database starts with. -/
def Host.tableOf (host : Host) (file : Option String) : CheckpointTable :=
  if file.isSome then host.table else .empty

/-- The host after a migration that opened a database file, if it did. -/
def Host.after (host : Host) (file : Option String) (table : CheckpointTable) : Host :=
  match file with
  | some path =>
    ⟨{ host.around with tree := host.around.tree.createDatabase path }, table⟩
  | none => host

/-- A migration on a host; `script` says what a database of a dialect answers. -/
def Host.migrate (host : Host) (connecting : ConnectOptions) (cancelAfter : Option Duration)
    (script : Dialect → Script) (options : MigrateOptions) (supply : Statement.Supply)
    (next : Nat) : Runner.Run ScriptState (Option Runner.RunReport) × Host :=
  let course := host.around.connect connecting cancelAfter
  let target :=
    if reachesDatabase host.around.tree.fileSystem options then course.settled.toOption else none
  let dialect := (target.map Target.dialect).getD .sqlite
  let file := target.bind Target.file?
  let run := SqlMigrations.migrate host.around.tree.fileSystem ((script dialect).database dialect)
    { course with outcome := course.outcome.map (fun outcome => outcome.map Target.dialect) }
    options supply next (.start (host.tableOf file))
  (run, host.after file run.state.committed)

end SqlMigrations
