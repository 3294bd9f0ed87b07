import SqlMigrations.Error
import SqlMigrations.NameMap
import SqlMigrations.Statement.Split
import SqlMigrations.Text.Search

namespace SqlMigrations.Store

/-- The files of a project with their contents. -/
abbrev FileSet :=
  NameMap String

/-- The ending of the files that are applied. -/
def upSuffix : String :=
  ".up.sql"

/-- The fewest bytes that a file needs to count. -/
def minimumSize : Nat :=
  2

/-- Whether a name is that of a file to apply: something before the ending and no slash. -/
def isUpName (name : String) : Bool :=
  match Text.stripEnd? upSuffix.toList name.toList with
  | some (c :: stem) => !(c :: stem).contains '/'
  | _ => false

def isEligible (entry : String × String) : Bool :=
  decide (minimumSize ≤ entry.2.utf8ByteSize) && isUpName entry.1

/-- The files to apply, in ascending order of their names. -/
def FileSet.eligible (files : FileSet) : List (String × String) :=
  files.entries.filter isEligible

def FileSet.migrations (files : FileSet) : List String :=
  files.eligible.map Prod.fst

def FileSet.readText (files : FileSet) (name : String) : Except MigrationError String :=
  match files.get? name with
  | some contents => .ok contents
  | none => .error (.notFound name)

structure PlannedFile where
  name : String
  statements : List String
  deriving Repr, DecidableEq

/-- Splits files one after the other, with identifiers from number `next` on. -/
def planFiles (supply : Statement.Supply) (next : Nat) :
    List (String × String) → List PlannedFile × Nat
  | [] => ([], next)
  | entry :: rest =>
    let first := Statement.split supply next entry.2
    let others := planFiles supply first.2 rest
    (⟨entry.1, first.1⟩ :: others.1, others.2)

/-- The files to apply with their statements, and the number of the next identifier. -/
def FileSet.plan (files : FileSet) (supply : Statement.Supply) (next : Nat) :
    List PlannedFile × Nat :=
  planFiles supply next files.eligible

end SqlMigrations.Store
