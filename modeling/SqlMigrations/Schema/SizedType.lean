import SqlMigrations.Schema.TypeClass
import SqlMigrations.Text.Number

namespace SqlMigrations.Schema

def skipBlanks (text : List Char) : List Char :=
  text.dropWhile Text.isAsciiBlank

def readMark? (mark : Char) (text : List Char) : Option (List Char) :=
  match skipBlanks text with
  | [] => none
  | c :: rest => if c = mark then some rest else none

/-- One or more digits after blanks, and what follows them. -/
def readNumber? (text : List Char) : Option (List Char × List Char) :=
  match (skipBlanks text).takeWhile Text.isDigit with
  | [] => none
  | digits => some (digits, (skipBlanks text).dropWhile Text.isDigit)

/-- A number in parentheses, and what follows it. -/
def readWidth? (text : List Char) : Option (List Char × List Char) := do
  let opened ← readMark? '(' text
  let (digits, after) ← readNumber? opened
  let rest ← readMark? ')' after
  return (digits, rest)

/-- Two numbers in parentheses; the first one and what follows. -/
def readPrecision? (text : List Char) : Option (List Char × List Char) := do
  let opened ← readMark? '(' text
  let (digits, after) ← readNumber? opened
  let second ← readMark? ',' after
  let (_, last) ← readNumber? second
  let rest ← readMark? ')' last
  return (digits, rest)

def sizedAtStart? (names : List String) (readSize : List Char → Option (List Char × List Char))
    (text : List Char) : Option (String × List Char) :=
  names.findSome? (fun name =>
    (Text.stripStart? name.toList text).bind (fun rest =>
      (readSize rest).map (fun size => (name, size.1))))

/-- The first place where one of the names stands with a size. -/
def findSized? (names : List String) (readSize : List Char → Option (List Char × List Char)) :
    List Char → Option (String × List Char)
  | [] => sizedAtStart? names readSize []
  | c :: rest =>
    match sizedAtStart? names readSize (c :: rest) with
    | some found => some found
    | none => findSized? names readSize rest

/-- A letter, a digit or an underscore of ASCII. -/
def isWordChar (c : Char) : Bool :=
  Text.isAsciiAlphanumeric c || c == '_'

/-- Whether a word, given backwards, ends like the name of an integer type. -/
def endsAsInteger (word : List Char) : Bool :=
  (Text.stripStart? "int".toList.reverse word).isSome ||
    (Text.stripStart? "serial".toList.reverse word).isSome

/-- Drops every width in parentheses that follows an integer word. `word` is the word that ends
here, backwards, and `skip` the number of characters of a width that are still to be dropped. -/
def dropWidthsFrom (word : List Char) (skip : Nat) : List Char → List Char
  | [] => []
  | c :: rest =>
    match skip with
    | more + 1 => dropWidthsFrom [] more rest
    | 0 =>
      match (if endsAsInteger word then readWidth? (c :: rest) else none) with
      | some (_, after) => dropWidthsFrom [] (rest.length - after.length) rest
      | none => c :: dropWidthsFrom (if isWordChar c then c :: word else []) 0 rest

/-- The text without the display widths of its integer types. -/
def dropWidths (text : List Char) : List Char :=
  dropWidthsFrom [] 0 text

/-- A size, or zero where it does not fit 32 bits. -/
def readSize (digits : List Char) : UInt32 :=
  match Text.readUnsigned (UInt32.size - 1) digits with
  | .ok value => UInt32.ofNat value
  | .error _ => 0

def splitSize (raw : String) : String × UInt32 :=
  let lower := Text.lower (Text.trim raw.toList)
  match findSized? ["varchar", "char"] readWidth? lower with
  | some (name, digits) => (name, readSize digits)
  | none =>
    match findSized? ["numeric", "decimal"] readPrecision? lower with
    | some (name, digits) => (name, readSize digits)
    | none => (String.ofList (dropWidths lower), 0)

/-- The base of a PostgreSQL type and, for integers, the width in bytes. -/
def splitPostgresWidth (raw : String) : String × UInt32 :=
  match String.ofList (Text.lower (Text.trim raw.toList)) with
  | "int2" | "smallint" => ("integer", 2)
  | "int4" | "integer" | "int" => ("integer", 4)
  | "int8" | "bigint" => ("integer", 8)
  | other => (other, 0)

end SqlMigrations.Schema
