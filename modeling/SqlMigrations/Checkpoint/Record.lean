namespace SqlMigrations

def statusOk : String :=
  "ok"

/-- Progress of one migration file; the index is -1 when no statement was applied. -/
structure Checkpoint where
  project : String
  filename : String
  index : Int
  status : String
  deriving Repr, DecidableEq

def Checkpoint.fresh (project filename : String) : Checkpoint :=
  ⟨project, filename, -1, ""⟩

def Checkpoint.isComplete (checkpoint : Checkpoint) : Bool :=
  checkpoint.status == statusOk

/-- The least index that is beyond every stored one. -/
def indexBound : Nat :=
  0x8000000000000000

/-- Whether the statement at an index was applied by an earlier run. -/
def Checkpoint.isApplied (checkpoint : Checkpoint) (index : Nat) : Bool :=
  decide (index < indexBound) && decide (Int.ofNat index ≤ checkpoint.index)

/-- What a column holds and a parameter gives. -/
inductive SqlValue where
  | text (value : String)
  | number (value : Int)
  deriving Repr, DecidableEq

def SqlValue.shown : SqlValue → String
  | .text value => value
  | .number value => toString value

namespace Checkpoint

inductive Column where
  | project
  | filename
  | index
  | status
  deriving Repr, DecidableEq

def Column.name : Column → String
  | .project => "project"
  | .filename => "filename"
  | .index => "statement_index"
  | .status => "status"

def primaryKey : List Column :=
  [.project, .filename]

def key (row : Checkpoint) : String × String :=
  (row.project, row.filename)

def value (row : Checkpoint) : Column → SqlValue
  | .project => .text row.project
  | .filename => .text row.filename
  | .index => .number row.index
  | .status => .text row.status

def ofValues? (given : List (Column × SqlValue)) : Option Checkpoint :=
  match given.lookup .project, given.lookup .filename, given.lookup .index,
      given.lookup .status with
  | some (.text project), some (.text filename), some (.number index), some (.text status) =>
    some ⟨project, filename, index, status⟩
  | _, _, _, _ => none

def take (row : Checkpoint) (changed : List Column) (other : Checkpoint) : Checkpoint where
  project := if .project ∈ changed then other.project else row.project
  filename := if .filename ∈ changed then other.filename else row.filename
  index := if .index ∈ changed then other.index else row.index
  status := if .status ∈ changed then other.status else row.status

end Checkpoint

def columnList (columns : List Checkpoint.Column) : String :=
  String.intercalate ", " (columns.map Checkpoint.Column.name)

end SqlMigrations
