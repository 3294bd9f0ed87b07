import SqlMigrations.Text.Case
import SqlMigrations.Text.Search

/-!
The characters, blanks and strings of a TOML document. Line breaks are line feeds here: a carriage
return before a line feed was dropped before, and no other control character is allowed besides the
tabulator. Every reader returns what it read and the text that follows.
-/

namespace SqlMigrations.Toml

/-- What a reader yields: a value and the text after it. -/
abbrev Reading (α : Type) :=
  Option (α × List Char)

/-- The text with every pair of carriage return and line feed as one line feed. -/
def unifyBreaks : List Char → List Char
  | [] => []
  | c :: rest => if c = '\r' ∧ rest.head? = some '\n' then unifyBreaks rest
      else c :: unifyBreaks rest

def isSpace (c : Char) : Bool :=
  c == ' ' || c == '\t'

/-- A character that may stand in a comment or in a string. -/
def isPlain (c : Char) : Bool :=
  c == '\t' || (0x20 ≤ c.toNat && c.toNat != 0x7F)

/-- The text without the blanks at its start. -/
def skipSpaces (text : List Char) : List Char :=
  text.dropWhile isSpace

/-- What follows a mark after blanks. -/
def readMark? (mark : Char) (text : List Char) : Option (List Char) :=
  match skipSpaces text with
  | [] => none
  | c :: rest => if c = mark then some rest else none

/-- What follows a line break, or the end of the text. -/
def endBreak? : List Char → Option (List Char)
  | [] => some []
  | c :: rest => if c = '\n' then some rest else none

/-- What follows the rest of a line that holds nothing but blanks and a comment. -/
def endLine? (text : List Char) : Option (List Char) :=
  match skipSpaces text with
  | '#' :: comment => endBreak? (comment.dropWhile isPlain)
  | rest => endBreak? rest

/-- Skips blanks, line breaks and comments, which must end with their line. -/
def skipLines? (inComment : Bool) : List Char → Option (List Char)
  | [] => if inComment then none else some []
  | c :: rest =>
    if c = '\n' then skipLines? false rest
    else if inComment then if isPlain c then skipLines? true rest else none
    else if isSpace c then skipLines? false rest
    else if c = '#' then skipLines? true rest
    else some (c :: rest)

/-- The value of a hexadecimal digit in either case. -/
def hexValue? (c : Char) : Option Nat :=
  if '0' ≤ c ∧ c ≤ '9' then some (c.toNat - 48)
  else if 'a' ≤ c ∧ c ≤ 'f' then some (c.toNat - 87)
  else if 'A' ≤ c ∧ c ≤ 'F' then some (c.toNat - 55)
  else none

/-- What is due in an escape: nothing, its letter, hexadecimal digits, the line break after blanks,
or anything after blanks and line breaks that are skipped. -/
inductive Escape where
  | idle
  | letter
  | digits (left value : Nat)
  | lineBreak
  | folding
  deriving Repr, DecidableEq

/-- The character that a letter after a backslash stands for. -/
def escapedChar? (c : Char) : Option Char :=
  match c with
  | 'b' => some (Char.ofNat 8)
  | 't' => some '\t'
  | 'n' => some '\n'
  | 'f' => some (Char.ofNat 12)
  | 'r' => some '\r'
  | '"' => some '"'
  | '\\' => some '\\'
  | _ => none

/-- The character of a number, unless it is a surrogate or too large. -/
def scalar? (value : Nat) : Option Char :=
  if value.isValidChar then some (Char.ofNat value) else none

/-- One step inside an escape: the characters that it yields and what is due then. `folds` says
that a backslash may fold the end of its line. -/
def Escape.step? (folds : Bool) (c : Char) : Escape → Option (List Char × Escape)
  | .idle => some ([c], .idle)
  | .letter =>
    match escapedChar? c with
    | some char => some ([char], .idle)
    | none =>
      if c = 'u' then some ([], .digits 3 0)
      else if c = 'U' then some ([], .digits 7 0)
      else if folds && c == '\n' then some ([], .folding)
      else if folds && isSpace c then some ([], .lineBreak)
      else none
  | .digits left value =>
    match hexValue? c, left with
    | some digit, more + 1 => some ([], .digits more (16 * value + digit))
    | some digit, 0 => (scalar? (16 * value + digit)).map (fun char => ([char], .idle))
    | none, _ => none
  | .lineBreak =>
    if c = '\n' then some ([], .folding)
    else if isSpace c then some ([], .lineBreak)
    else none
  | .folding => some ([], .folding)

def prepend (chars : List Char) (reading : Reading (List Char)) : Reading (List Char) :=
  reading.map (fun read => (chars ++ read.1, read.2))

def readLine? (quote : Char) (escape : Escape) : List Char → Reading (List Char)
  | [] => none
  | c :: rest =>
    if escape = .idle ∧ c = quote then some ([], rest)
    else if escape = .idle ∧ quote = '"' ∧ c = '\\' then readLine? quote .letter rest
    else if isPlain c then
      match escape.step? false c with
      | some (chars, next) => prepend chars (readLine? quote next rest)
      | none => none
    else none

/-- Reads a string of several lines whose three quotes were passed. `quotes` counts the quotes that
were just passed: three of them close the string, and up to two more before those belong to it. -/
def readLines? (quote : Char) (quotes : Nat) (escape : Escape) : List Char → Reading (List Char)
  | [] => if 3 ≤ quotes then some (List.replicate (quotes - 3) quote, []) else none
  | c :: rest =>
    if escape = .folding ∧ (isSpace c ∨ c = '\n') then readLines? quote 0 .folding rest
    else if escape = .idle ∨ escape = .folding then
      if c = quote then
        if quotes = 5 then none else readLines? quote (quotes + 1) .idle rest
      else if 3 ≤ quotes then some (List.replicate (quotes - 3) quote, c :: rest)
      else if quote = '"' ∧ c = '\\' then
        prepend (List.replicate quotes quote) (readLines? quote 0 .letter rest)
      else if isPlain c ∨ c = '\n' then
        prepend (List.replicate quotes quote ++ [c]) (readLines? quote 0 .idle rest)
      else none
    else
      match escape.step? true c with
      | some (chars, next) => prepend chars (readLines? quote 0 next rest)
      | none => none

def dropBreak (text : List Char) : List Char :=
  (Text.stripStart? ['\n'] text).getD text

/-- Reads a string, from its opening quote on. -/
def readString? (text : List Char) : Reading String :=
  let read :=
    match text with
    | '"' :: '"' :: '"' :: rest => readLines? '"' 0 .idle (dropBreak rest)
    | '\'' :: '\'' :: '\'' :: rest => readLines? '\'' 0 .idle (dropBreak rest)
    | '"' :: rest => readLine? '"' .idle rest
    | '\'' :: rest => readLine? '\'' .idle rest
    | _ => none
  read.map (fun string => (String.ofList string.1, string.2))

def isBare (c : Char) : Bool :=
  Text.isAsciiAlphanumeric c || c == '-' || c == '_'

/-- Reads one part of a key: bare, or a string of one line. -/
def readKeyPart? (text : List Char) : Reading String :=
  match text with
  | [] => none
  | c :: rest =>
    if c = '"' ∨ c = '\'' then
      (readLine? c .idle rest).map (fun part => (String.ofList part.1, part.2))
    else
      match text.takeWhile isBare with
      | [] => none
      | part => some (String.ofList part, text.dropWhile isBare)

/-- Reads a dotted key of at most `parts` parts with blanks around them. -/
def readKey? (parts : Nat) (text : List Char) : Reading (List String) :=
  match parts with
  | 0 => none
  | more + 1 =>
    match readKeyPart? (skipSpaces text) with
    | none => none
    | some (part, rest) =>
      match readMark? '.' rest with
      | some next => (readKey? more next).map (fun key => (part :: key.1, key.2))
      | none => some ([part], skipSpaces rest)

end SqlMigrations.Toml
