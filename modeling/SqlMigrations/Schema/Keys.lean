import SqlMigrations.Schema.TypeClass

namespace SqlMigrations.Schema

/-- The columns of all secondary indexes, in lower case. -/
def indexedNames (indexes : List Index) : List String :=
  (indexes.filter (fun index => !index.primary)).flatMap (fun index =>
    index.columns.map Text.lowered)

/-- Whether a name in lower case ends like a reference to another table. -/
def namesReference (name : String) : Bool :=
  (Text.stripEnd? ['_', 'i', 'd'] name.toList).isSome

def Column.withKeyFrom (names : List String) (column : Column) : Column :=
  if column.key = .primary then column
  else if names.contains (Text.lowered column.name) ||
      namesReference (Text.lowered column.name) then
    { column with key := .multiple }
  else column

def enrichKeys (indexes : List Index) (columns : List Column) : List Column :=
  columns.map (Column.withKeyFrom (indexedNames indexes))

/-- The columns of an index, separated by commas. -/
def Index.joined (index : Index) : String :=
  ",".intercalate index.columns

/-- Whether an index may stand before another: primary ones first, then by their columns. -/
def Index.before (left right : Index) : Bool :=
  if left.primary = right.primary then decide (left.joined ≤ right.joined) else left.primary

/-- The indexes in order; equal ones keep their places. -/
def sortIndexes (indexes : List Index) : List Index :=
  indexes.mergeSort Index.before

/-- The table with its columns classified and marked in view of its indexes, which are sorted. -/
def Table.enriched (table : Table) : Table :=
  { table with
    columns := enrichKeys table.indexes (table.columns.map Column.normalized)
    indexes := sortIndexes table.indexes }

end SqlMigrations.Schema
