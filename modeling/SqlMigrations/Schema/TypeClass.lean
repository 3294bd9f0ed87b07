import SqlMigrations.Schema.Model

namespace SqlMigrations.Schema

def mentionsAny (parts : List String) (text : List Char) : Bool :=
  parts.any (fun part => Text.occursIn part.toList text)

/-- The runs of ASCII letters and digits, with an empty run between neighbouring other
characters. -/
def words : List Char → List (List Char)
  | [] => [[]]
  | c :: rest =>
    if Text.isAsciiAlphanumeric c then
      match words rest with
      | [] => [[c]]
      | word :: more => (c :: word) :: more
    else [] :: words rest

def integerWords : List String :=
  ["int", "integer", "int2", "int4", "int8", "tinyint", "smallint", "mediumint", "bigint",
    "serial", "smallserial", "bigserial", "serial2", "serial4", "serial8", "long", "short"]

def hasIntegerWord (text : List Char) : Bool :=
  (words text).any (fun word => integerWords.contains (String.ofList word))

/-- The classes recognised by a part of the raw type, in order. -/
def partClasses : List (List String × CanonicalType) :=
  [(["bool", "bit"], .boolean), (["timestamp", "datetime"], .timestamp), (["date"], .date),
    (["decimal", "numeric", "float", "double"], .decimal),
    (["varchar", "char", "string", "text", "json"], .text),
    (["blob", "binary", "bytea"], .blob)]

/-- Whether a type is an enumeration: raw type or hint say so, or values are known. -/
def isEnumeration (raw hint : List Char) (values : List String) : Bool :=
  Text.occursIn "enum".toList raw || Text.occursIn "enum".toList hint || !values.isEmpty

def classifyPlain (raw hint : List Char) : CanonicalType :=
  match partClasses.find? (fun entry => mentionsAny entry.1 raw) with
  | some entry => entry.2
  | none =>
    if Text.occursIn "blob".toList hint then .blob
    else if hasIntegerWord raw then .integer
    else .unknown

/-- The canonical type of a raw type, its hint and its known values. -/
def classify (raw hint : String) (values : List String) : CanonicalType :=
  if isEnumeration (Text.lower raw.toList) (Text.lower hint.toList) values then .enum
  else classifyPlain (Text.lower raw.toList) (Text.lower hint.toList)

def sortValues (values : List String) : List String :=
  values.mergeSort (fun left right => decide (left ≤ right))

/-- The column with its canonical type; the values of an enumeration are sorted. -/
def Column.normalized (column : Column) : Column :=
  let type := classify column.type column.dataType column.values
  { column with
    canonicalType := type
    values := if type = .enum then sortValues column.values else column.values }

end SqlMigrations.Schema
