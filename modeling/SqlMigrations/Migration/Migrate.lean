import SqlMigrations.Connection.Retry
import SqlMigrations.Runner.Print
import SqlMigrations.Runner.Run

namespace SqlMigrations

open SqlMigrations.Runner

variable {σ : Type}

/-- What connecting ends with; one that goes on for ever counts as cancelled. -/
def Course.settled {α : Type} (course : Course α) : Except ConnectionError α :=
  course.outcome.getD (.error .cancelled)

def applyProject (database : Database σ) (connection : Course Dialect) (projects : Store.Projects)
    (verbose : Bool) (supply : Statement.Supply) (next : Nat) (project : String) (state : σ) :
    Run σ (Option RunReport) :=
  match connection.settled with
  | .error problem => ⟨.error (.connection problem), [], state⟩
  | .ok dialect =>
    let applied := run database dialect projects verbose supply next project state
    { applied with result := applied.result.map some }

def printProject (projects : Store.Projects) (verbose : Bool) (supply : Statement.Supply)
    (next : Nat) (project : String) (state : σ) : Run σ (Option RunReport) :=
  match print projects verbose supply next project with
  | .error problem => ⟨.error problem, [], state⟩
  | .ok printed => ⟨.ok none, printed.lines, state⟩

/-- Whether a migration gets as far as connecting: it applies what could be loaded. -/
def reachesDatabase (system : Store.FileSystem) (options : MigrateOptions) : Bool :=
  options.apply && (Store.load system NameMap.empty options).result.isOk

/-- Loads migrations, then prints or applies them. -/
def migrate (system : Store.FileSystem) (database : Database σ) (connection : Course Dialect)
    (options : MigrateOptions) (supply : Statement.Supply) (next : Nat) (state : σ) :
    Run σ (Option RunReport) :=
  let loaded := Store.load system NameMap.empty options
  match loaded.result with
  | .error problem => ⟨.error problem, [], state⟩
  | .ok () =>
    if options.apply then
      applyProject database connection loaded.projects options.verbose supply next
        options.project state
    else printProject loaded.projects options.verbose supply next options.project state

end SqlMigrations
