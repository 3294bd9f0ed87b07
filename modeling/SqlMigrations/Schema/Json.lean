import SqlMigrations.Schema.Model

/-!
The serialized form of the schema model. Writing leaves out empty and default fields; reading
takes the fields of an object in any order, ignores unknown ones, gives the default for a missing
field that has one, and also takes an array of the fields in order.
-/

namespace SqlMigrations.Schema

/-- A JSON value. Numbers that are not written as integers are kept apart and not told apart. -/
inductive Json where
  | null
  | bool (value : Bool)
  | integer (value : Int)
  | fraction
  | string (value : String)
  | array (items : List Json)
  | object (fields : List (String × Json))
  deriving Repr, Inhabited

/-- The fields of a record: its names in order and the values found for them. -/
abbrev Json.Fields :=
  List (String × Json)

def Json.Fields.get? (fields : Json.Fields) (name : String) : Option Json :=
  (List.find? (fun field => field.1 == name) fields).map Prod.snd

/-- The fields of an object, or of an array that lists them in order without any beyond. -/
def Json.fields? (names : List String) : Json → Option Json.Fields
  | .object fields => some fields
  | .array items => if items.length ≤ names.length then some (names.zip items) else none
  | _ => none

def Json.Fields.required? {α : Type} (fields : Json.Fields) (name : String)
    (read : Json → Option α) : Option α :=
  (fields.get? name).bind read

def Json.Fields.optional? {α : Type} (fields : Json.Fields) (name : String) (default : α)
    (read : Json → Option α) : Option α :=
  match fields.get? name with
  | some value => read value
  | none => some default

def Json.string? : Json → Option String
  | .string value => some value
  | _ => none

def Json.bool? : Json → Option Bool
  | .bool value => some value
  | _ => none

/-- Reads an unsigned 32-bit integer. -/
def Json.size? : Json → Option UInt32
  | .integer value =>
    if 0 ≤ value ∧ value < UInt32.size then some (UInt32.ofNat value.toNat) else none
  | _ => none

def Json.list? {α : Type} (read : Json → Option α) : Json → Option (List α)
  | .array items => items.mapM read
  | _ => none

/-- Reads the name of a variant: a string, or an object of that one name with null. -/
def Json.variant? : Json → Option String
  | .string value => some value
  | .object [(value, .null)] => some value
  | _ => none

def CanonicalType.ofJson? (json : Json) : Option CanonicalType :=
  json.variant?.bind (fun word => CanonicalType.all.find? (fun type => type.name == word))

/-- Reads a key marker by its exact spelling. -/
def ColumnKey.ofJson? (json : Json) : Option ColumnKey :=
  json.variant?.bind (fun word => ColumnKey.all.find? (fun key => key.name == word))

/-- The fields of a column, in order. -/
def Column.fieldNames : List String :=
  ["name", "type", "datatype", "normalized_type", "key", "comment", "size", "values"]

/-- The fields of an index, in order. -/
def Index.fieldNames : List String :=
  ["name", "columns", "primary", "unique"]

/-- The fields of a table, in order. -/
def Table.fieldNames : List String :=
  ["name", "comment", "columns", "indexes"]

def Column.ofFields? (fields : Json.Fields) : Option Column := do
  let name ← fields.required? "name" Json.string?
  let type ← fields.required? "type" Json.string?
  let dataType ← fields.required? "datatype" Json.string?
  let canonicalType ← fields.optional? "normalized_type" .unknown CanonicalType.ofJson?
  let key ← fields.optional? "key" .none ColumnKey.ofJson?
  let comment ← fields.required? "comment" Json.string?
  let size ← fields.optional? "size" 0 Json.size?
  let values ← fields.optional? "values" [] (Json.list? Json.string?)
  return ⟨name, type, dataType, canonicalType, key, comment, size, values⟩

def Column.ofJson? (json : Json) : Option Column :=
  (json.fields? Column.fieldNames).bind Column.ofFields?

def Index.ofFields? (fields : Json.Fields) : Option Index := do
  let name ← fields.optional? "name" "" Json.string?
  let columns ← fields.required? "columns" (Json.list? Json.string?)
  let primary ← fields.optional? "primary" false Json.bool?
  let unique ← fields.optional? "unique" false Json.bool?
  return ⟨name, columns, primary, unique⟩

def Index.ofJson? (json : Json) : Option Index :=
  (json.fields? Index.fieldNames).bind Index.ofFields?

def Table.ofFields? (fields : Json.Fields) : Option Table := do
  let name ← fields.required? "name" Json.string?
  let comment ← fields.required? "comment" Json.string?
  let columns ← fields.optional? "columns" [] (Json.list? Column.ofJson?)
  let indexes ← fields.optional? "indexes" [] (Json.list? Index.ofJson?)
  return ⟨name, comment, columns, indexes⟩

def Table.ofJson? (json : Json) : Option Table :=
  (json.fields? Table.fieldNames).bind Table.ofFields?

def stringsToJson (values : List String) : Json :=
  .array (values.map Json.string)

/-- A field, or nothing where it is left out. -/
def fieldUnless (omitted : Bool) (name : String) (value : Json) : Json.Fields :=
  if omitted then [] else [(name, value)]

def Column.toFields (column : Column) : Json.Fields :=
  [("name", .string column.name), ("type", .string column.type),
      ("datatype", .string column.dataType),
      ("normalized_type", .string column.canonicalType.name)] ++
    fieldUnless (column.key == .none) "key" (.string column.key.name) ++
    [("comment", .string column.comment)] ++
    fieldUnless (column.size == 0) "size" (.integer column.size.toNat) ++
    fieldUnless column.values.isEmpty "values" (stringsToJson column.values)

def Column.toJson (column : Column) : Json :=
  .object column.toFields

def Index.toFields (index : Index) : Json.Fields :=
  [("name", .string index.name), ("columns", stringsToJson index.columns),
    ("primary", .bool index.primary), ("unique", .bool index.unique)]

def Index.toJson (index : Index) : Json :=
  .object index.toFields

def Table.toFields (table : Table) : Json.Fields :=
  [("name", .string table.name), ("comment", .string table.comment),
      ("columns", .array (table.columns.map Column.toJson))] ++
    fieldUnless table.indexes.isEmpty "indexes" (.array (table.indexes.map Index.toJson))

def Table.toJson (table : Table) : Json :=
  .object table.toFields

end SqlMigrations.Schema
