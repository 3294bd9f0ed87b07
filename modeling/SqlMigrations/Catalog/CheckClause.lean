import SqlMigrations.Schema.EnumType

namespace SqlMigrations.Catalog

/-- The parts before and after the first occurrence of a word, in any case of its letters. -/
def splitWord? (word : List Char) : List Char → Option (List Char × List Char)
  | [] => (Text.stripWord? word []).map (fun rest => ([], rest))
  | c :: text =>
    match Text.stripWord? word (c :: text) with
    | some rest => some ([], rest)
    | none => (splitWord? word text).map (fun parts => (c :: parts.1, parts.2))

/-- The word that marks a constraint. -/
def checkWord : List Char :=
  "check".toList

def splitCheck? (line : List Char) : Option (List Char × List Char) :=
  match splitWord? checkWord line with
  | some (before, after) =>
    if (splitWord? checkWord after).isSome then none else some (before, after)
  | none => none

def firstWord (text : List Char) : List Char :=
  (Text.trimStart text).takeWhile (fun c => !Text.isBlank c)

def isNameQuote (c : Char) : Bool :=
  c == '"' || c == '`' || c == '[' || c == ']'

/-- A name without the marks that enclose it. -/
def unwrapName (name : List Char) : List Char :=
  Text.dropEndWhile isNameQuote (name.dropWhile isNameQuote)

def dropComma (text : List Char) : List Char :=
  (Text.stripEnd? [','] text).getD text

/-- The column that a line constrains, and the constraint. -/
def readCheckLine? (line : List Char) : Option (String × String) :=
  match splitCheck? (Text.trim line) with
  | some (before, after) =>
    match unwrapName (firstWord before) with
    | [] => none
    | name => some (String.ofList name, String.ofList (dropComma (Text.trim after)))
  | none => none

/-- The constraints of a table definition with their columns, line by line. -/
def checkClauses (definition : String) : List (String × String) :=
  (Text.splitAll '\n' definition.toList).filterMap readCheckLine?

/-- The constraints of one column, in order. -/
def clausesOf (column : String) (clauses : List (String × String)) : List String :=
  (clauses.filter (fun clause => clause.1 == column)).map Prod.snd

/-- What follows the first `IN (` whose word starts there; `inWord` says that a word goes on. -/
def afterIn? (inWord : Bool) : List Char → Option (List Char)
  | [] => none
  | c :: rest =>
    match (if inWord then none
      else (Text.stripWord? "in".toList (c :: rest)).bind (Schema.readMark? '(')) with
    | some list => some list
    | none => afterIn? (Schema.isWordChar c) rest

/-- What stands before the parenthesis that closes `depth` open ones. -/
def balanced? (depth : Nat) : List Char → Option (List Char)
  | [] => none
  | c :: rest =>
    if c = '(' then (balanced? (depth + 1) rest).map (c :: ·)
    else if c = ')' then
      match depth with
      | 0 | 1 => some []
      | deeper + 2 => (balanced? (deeper + 1) rest).map (c :: ·)
    else (balanced? depth rest).map (c :: ·)

def unquote? (part : List Char) : Option (List Char) :=
  (Text.stripStart? ['\''] part).bind (Text.stripEnd? ['\''])

/-- The quoted labels of the first list after `IN` in a constraint. -/
def labelsOfCheck (constraint : String) : List String :=
  match (afterIn? false constraint.toList).bind (balanced? 1) with
  | some list =>
    ((Text.splitAll ',' list).filterMap (fun part => unquote? (Text.trim part))).map String.ofList
  | none => []

end SqlMigrations.Catalog
