import SqlMigrations.Toml.Number

/-!
TOML documents. A document is read into its lines first: headers that open tables, and keys with
values, which may span several lines. The lines are then put together into the entries of the root.
-/

namespace SqlMigrations.Toml

/-- How deep values may be nested, and how many parts a key may have. -/
def maxDepth : Nat :=
  79

def readScalar? (text : List Char) : Reading Value :=
  match afterWord? "true" text, afterWord? "false" text, readString? text with
  | some rest, _, _ => some (.boolean true, rest)
  | none, some rest, _ => some (.boolean false, rest)
  | none, none, some (string, rest) => some (.string string, rest)
  | none, none, none => readNumber? text

/-- Reads the values of an array whose bracket was passed; a comma may end them. -/
def readItems? (value : List Char → Reading Value) (fuel : Nat) (text : List Char) :
    Reading (List Value) :=
  match fuel, skipLines? false text with
  | _, none => none
  | _, some (']' :: rest) => some ([], rest)
  | 0, some _ => none
  | more + 1, some opened =>
    match value opened with
    | none => none
    | some (item, after) =>
      match skipLines? false after with
      | some (',' :: rest) =>
        (readItems? value more rest).map (fun items => (item :: items.1, items.2))
      | some (']' :: rest) => some ([item], rest)
      | _ => none

/-- Reads a key, its equals sign and its value. -/
def readEntry? (value : List Char → Reading Value) (text : List Char) :
    Option ((List String × Value) × List Char) := do
  let (key, afterKey) ← readKey? maxDepth text
  let opened ← readMark? '=' afterKey
  let (read, rest) ← value (skipSpaces opened)
  return ((key, read), rest)

/-- Reads the entries of an inline table whose brace was passed; all stand on one line. -/
def readPairs? (value : List Char → Reading Value) (fuel : Nat) (entries : Entries)
    (text : List Char) : Reading Entries :=
  match fuel with
  | 0 => none
  | more + 1 =>
    match readEntry? value text with
    | none => none
    | some ((key, read), after) =>
      match entries.insert? read key, skipSpaces after with
      | some extended, ',' :: rest => readPairs? value more extended rest
      | some extended, '\x7d' :: rest => some (extended, rest)
      | _, _ => none

def readValue? (depth : Nat) (text : List Char) : Reading Value :=
  match depth, text with
  | inner + 1, '[' :: rest =>
    (readItems? (readValue? inner) rest.length rest).map (fun read => (.array read.1, read.2))
  | inner + 1, '\x7b' :: rest =>
    match readMark? '\x7d' rest with
    | some after => some (.table .inline [], after)
    | none =>
      (readPairs? (readValue? inner) rest.length [] rest).map (fun read =>
        (.table .inline read.1, read.2))
  | _, _ => readScalar? text

inductive Line where
  | table (path : List String)
  | item (path : List String)
  | entry (key : List String) (value : Value)

/-- Reads a line that is not blank; what follows it on its line is left. -/
def readLineContent? (text : List Char) : Option (Line × List Char) :=
  match text with
  | '[' :: '[' :: rest => do
    let (path, after) ← readKey? maxDepth rest
    let closed ← afterWord? "]]" after
    return (.item path, closed)
  | '[' :: rest => do
    let (path, after) ← readKey? maxDepth rest
    let closed ← afterWord? "]" after
    return (.table path, closed)
  | _ => do
    let ((key, value), rest) ← readEntry? (readValue? maxDepth) text
    return (.entry key value, rest)

def readDocumentLines? (fuel : Nat) (text : List Char) : Option (List Line) :=
  match fuel, endLine? text with
  | _, some [] => some []
  | 0, _ => none
  | more + 1, some rest => readDocumentLines? more rest
  | more + 1, none =>
    match readLineContent? (skipSpaces text) with
    | none => none
    | some (line, after) =>
      match endLine? after with
      | some rest => (readDocumentLines? more rest).map (line :: ·)
      | none => none

/-- Opens what the last part of a header's path names, below the tables of the parts before it. -/
def openAt? (change : String → Entries → Option Entries) (path : List String) (root : Entries) :
    Option Entries :=
  match path.getLast? with
  | some key => Entries.within? (change key) path.dropLast root
  | none => none

/-- Puts lines into the root; `opened` is the path of the table that is open. -/
def assemble? (opened : List String) (root : Entries) : List Line → Option Entries
  | [] => some root
  | .table path :: lines => (openAt? Entries.openTable? path root).bind (assemble? path · lines)
  | .item path :: lines => (openAt? Entries.openItem? path root).bind (assemble? path · lines)
  | .entry key value :: lines =>
    (Entries.within? (Entries.insert? value key) opened root).bind (assemble? opened · lines)

def dropMark (text : List Char) : List Char :=
  (Text.stripStart? [Char.ofNat 0xFEFF] text).getD text

def readDocument? (text : String) : Option Entries :=
  let characters := dropMark (unifyBreaks text.toList)
  (readDocumentLines? (characters.length + 1) characters).bind (assemble? [] [])

end SqlMigrations.Toml
