import SqlMigrations.Checkpoint.Table
import SqlMigrations.Text.Blank
import SqlMigrations.Text.Case
import SqlMigrations.Text.Number
import SqlMigrations.Text.Search

/-!
Statements that amend every row of the checkpoint table by hand, as an operator writes them:
`UPDATE migrations SET` and new values for the status, the index or both.
-/

namespace SqlMigrations

/-- A change of rows: the values that are set. -/
structure Amendment where
  index : Option Int
  status : Option String
  deriving Repr, DecidableEq

def Amendment.apply (amendment : Amendment) (row : Checkpoint) : Checkpoint :=
  { row with
    index := amendment.index.getD row.index
    status := amendment.status.getD row.status }

/-- Reads the rest of a text in single quotes, in which a quote is written twice. -/
def readQuotedText? : List Char → Option (List Char × List Char)
  | [] => none
  | '\'' :: '\'' :: rest => (readQuotedText? rest).map (fun read => ('\'' :: read.1, read.2))
  | '\'' :: rest => some ([], rest)
  | c :: rest => (readQuotedText? rest).map (fun read => (c :: read.1, read.2))

def readIndex? (text : List Char) : Option (Int × List Char) :=
  let sign := Text.stripStart? ['-'] text
  let unsigned := sign.getD text
  match Text.readUnsigned indexBound (unsigned.takeWhile Text.isDigit) with
  | .ok value =>
    some (if sign.isSome then -Int.ofNat value else Int.ofNat value,
      unsigned.dropWhile Text.isDigit)
  | .error _ => none

/-- What follows the name of a column and an equals sign. -/
def afterColumn? (column : String) (text : List Char) : Option (List Char) :=
  ((Text.stripStart? column.toList (Text.trimStart text)).bind (fun rest =>
    Text.stripStart? ['='] (Text.trimStart rest))).map Text.trimStart

def readAssignment? (amendment : Amendment) (text : List Char) :
    Option (Amendment × List Char) :=
  match afterColumn? "status" text, afterColumn? "statement_index" text with
  | some value, _ =>
    ((Text.stripStart? ['\''] value).bind readQuotedText?).map (fun read =>
      ({ amendment with status := some (String.ofList read.1) }, read.2))
  | none, some value =>
    (readIndex? value).map (fun read => ({ amendment with index := some read.1 }, read.2))
  | none, none => none

/-- Reads assignments between commas up to the end of the text, which a semicolon may mark. -/
def readAssignments? (fuel : Nat) (amendment : Amendment) (text : List Char) : Option Amendment :=
  match fuel, readAssignment? amendment text with
  | more + 1, some (changed, after) =>
    match Text.trimStart after with
    | [] | [';'] => some changed
    | ',' :: rest => readAssignments? more changed rest
    | _ => none
  | _, _ => none

/-- The amendment that a statement makes, if it is one. -/
def Amendment.read? (sql : String) : Option Amendment :=
  (Text.stripStart? "UPDATE migrations SET ".toList sql.toList).bind (fun rest =>
    readAssignments? rest.length ⟨none, none⟩ rest)

def CheckpointRows.amend {keys : Collation} (table : CheckpointRows keys) (amendment : Amendment) :
    CheckpointRows keys :=
  ⟨table.entries.map amendment.apply⟩

end SqlMigrations
