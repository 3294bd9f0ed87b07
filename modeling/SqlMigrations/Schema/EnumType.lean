import SqlMigrations.Schema.SizedType

namespace SqlMigrations.Schema

/-- What follows a quoted run after blanks. -/
def readQuoted? (text : List Char) : Option (List Char) :=
  (readMark? '\'' text).bind (fun opened => (Text.splitFirst? '\'' opened).map Prod.snd)

/-- Whether the text continues a list of quoted labels up to its closing parenthesis. -/
def closesLabels (fuel : Nat) (text : List Char) : Bool :=
  match fuel with
  | 0 => false
  | more + 1 =>
    match readMark? ',' text with
    | some next =>
      match readQuoted? next with
      | some rest => closesLabels more rest
      | none => false
    | none => (readMark? ')' text).isSome

def startsLabels (text : List Char) : Bool :=
  match (readMark? '(' text).bind readQuoted? with
  | some rest => closesLabels text.length rest
  | none => false

/-- Whether the text somewhere has `enum` with a list of labels. -/
def hasEnumType : List Char → Bool
  | [] => false
  | c :: rest =>
    (match Text.stripWord? "enum".toList (c :: rest) with
      | some after => startsLabels after
      | none => false) || hasEnumType rest

/-- The labels between alternating quotes; `label` is the open one, backwards. -/
def quotedRuns (label : Option (List Char)) : List Char → List (List Char)
  | [] => []
  | c :: rest =>
    match label with
    | none => quotedRuns (if c = '\'' then some [] else none) rest
    | some chars =>
      if c = '\'' then chars.reverse :: quotedRuns none rest
      else quotedRuns (some (c :: chars)) rest

/-- The labels of an enumeration type, or none if the text is no such type. -/
def enumLabels (type : String) : List String :=
  if hasEnumType type.toList then (quotedRuns none type.toList).map String.ofList else []

end SqlMigrations.Schema
