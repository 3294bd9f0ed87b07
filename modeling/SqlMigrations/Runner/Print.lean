import SqlMigrations.Checkpoint.Record
import SqlMigrations.Store.Load

namespace SqlMigrations.Runner

/-- The lines that show a statement, if the runner is verbose. -/
def echo (verbose : Bool) (index : Nat) (statement : String) : List String :=
  if verbose then ["", "-- Statement index: " ++ toString index, statement, ""] else []

/-- The line that says whether a statement was applied before, if the runner is verbose. -/
def echoApplied (verbose : Bool) (checkpoint : Checkpoint) (index : Nat) : List String :=
  if verbose then
    ["-- statement " ++ toString index ++ "/" ++ toString checkpoint.index ++ " is applied? " ++
      (if checkpoint.isApplied index then "true" else "false")]
  else []

def echoFile (name : String) : String :=
  "-- Migrations file: " ++ name

def render (lines : List String) : String :=
  String.join (lines.map (fun line => line ++ "\n"))

def echoStatements (verbose : Bool) (index : Nat) : List String → List String
  | [] => []
  | statement :: rest =>
    echo verbose index statement ++ echoStatements verbose (index + 1) rest

def echoPlanned (verbose : Bool) (file : Store.PlannedFile) : List String :=
  echoFile file.name :: echoStatements verbose 0 file.statements

/-- What printing yields: the names of the files, the printed lines, and the number of the next
identifier. -/
structure Printed where
  files : List String
  lines : List String
  next : Nat
  deriving Repr, DecidableEq

def print (projects : Store.Projects) (verbose : Bool) (supply : Statement.Supply) (next : Nat)
    (project : String) : Except MigrationError Printed :=
  match projects.find project with
  | .error problem => .error problem
  | .ok files =>
    let plan := files.plan supply next
    .ok ⟨plan.1.map Store.PlannedFile.name, plan.1.flatMap (echoPlanned verbose), plan.2⟩

end SqlMigrations.Runner
