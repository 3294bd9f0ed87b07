import SqlMigrations.Checkpoint.Table
import SqlMigrations.Runner.Apply
import SqlMigrations.Store.Load

namespace SqlMigrations.Runner

variable {σ : Type}

structure RunReport where
  project : String
  files : List FileOutcome
  deriving Repr, DecidableEq

/-- The number of statements that a run executed. -/
def RunReport.applied (report : RunReport) : Nat :=
  report.files.foldl (fun total file => total + file.applied) 0

/-- The number of files that were complete before a run. -/
def RunReport.skipped (report : RunReport) : Nat :=
  (report.files.filter FileOutcome.skipped).length

/-- A supply for texts without calls. -/
def noSupply : Statement.Supply :=
  fun _ => []

/-- The statements that create the checkpoint table. -/
def bootstrapStatements (dialect : Dialect) : List String :=
  (Statement.split noSupply 0 (bootstrapSql dialect)).1

/-- Sends statements outside of any transaction, from an index on, up to the first failure. -/
def sendAll (database : Database σ) (verbose : Bool) : Nat → List String → σ → Run σ Unit
  | _, [], state => ⟨.ok (), [], state⟩
  | index, sql :: rest, state =>
    match execute database sql state with
    | (.error problem, after) => ⟨.error (.connection problem), echo verbose index sql, after⟩
    | (.ok _, after) =>
      let later := sendAll database verbose (index + 1) rest after
      { later with lines := echo verbose index sql ++ later.lines }

def bootstrap (database : Database σ) (dialect : Dialect) (verbose : Bool) (state : σ) :
    Run σ Unit :=
  sendAll database verbose 0 (bootstrapStatements dialect) state

def applyFiles (database : Database σ) (dialect : Dialect) (verbose : Bool) (project : String) :
    List Store.PlannedFile → σ → Run σ (List FileOutcome)
  | [], state => ⟨.ok [], [], state⟩
  | file :: rest, state =>
    let first := applyFile database dialect verbose project file state
    match first.result with
    | .error problem => ⟨.error problem, first.lines, first.state⟩
    | .ok outcome =>
      let later := applyFiles database dialect verbose project rest first.state
      ⟨later.result.map (outcome :: ·), first.lines ++ later.lines, later.state⟩

def runPlan (database : Database σ) (dialect : Dialect) (verbose : Bool) (project : String)
    (plan : List Store.PlannedFile) (state : σ) : Run σ RunReport :=
  let prepared := bootstrap database dialect verbose state
  match prepared.result with
  | .error problem => ⟨.error problem, prepared.lines, prepared.state⟩
  | .ok () =>
    let applied := applyFiles database dialect verbose project plan prepared.state
    ⟨applied.result.map (fun files => ⟨project, files⟩), prepared.lines ++ applied.lines,
      applied.state⟩

/-- Runs the migrations of a project, with identifiers from number `next` on. -/
def run (database : Database σ) (dialect : Dialect) (projects : Store.Projects) (verbose : Bool)
    (supply : Statement.Supply) (next : Nat) (project : String) (state : σ) : Run σ RunReport :=
  match projects.find project with
  | .error problem => ⟨.error problem, [], state⟩
  | .ok files => runPlan database dialect verbose project (files.plan supply next).1 state

end SqlMigrations.Runner
