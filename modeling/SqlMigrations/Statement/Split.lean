import SqlMigrations.Text.Blank
import SqlMigrations.Text.Case

/-!
Splitting the contents of a migration file into statements. Comments run from two dashes to the end
of the line, wherever they stand; a statement ends at a semicolon that closes its line. Calls of
`uuid()` are replaced by identifiers from a supply, one for each call.
-/

namespace SqlMigrations.Statement

/-- Removes comments together with the blanks before them. `pending` holds the blanks passed so
far, backwards, and `inComment` says that the line is a comment from here on. -/
def dropCommentsFrom (pending : List Char) (inComment : Bool) : List Char → List Char
  | [] => pending.reverse
  | c :: rest =>
    if inComment then
      if c = '\n' then dropCommentsFrom [c] false rest else dropCommentsFrom [] true rest
    else if Text.isAsciiBlank c then dropCommentsFrom (c :: pending) false rest
    else if c = '-' ∧ rest.head? = some '-' then dropCommentsFrom [] true rest
    else pending.reverse ++ c :: dropCommentsFrom [] false rest

def dropComments (contents : List Char) : List Char :=
  dropCommentsFrom [] false contents

/-- A character that may follow the last semicolon of a line. -/
def isLineFiller (c : Char) : Bool :=
  c == ' ' || c == '\t' || c == '\r'

/-- Whether nothing but filler follows up to the end of the line. -/
def closesLine (rest : List Char) : Bool :=
  match rest.dropWhile isLineFiller with
  | [] => true
  | c :: _ => c == '\n'

def splitEnds : List Char → List (List Char)
  | [] => [[]]
  | c :: rest =>
    if c = ';' ∧ closesLine rest = true then [] :: splitEnds rest
    else
      match splitEnds rest with
      | [] => [[c]]
      | part :: parts => (c :: part) :: parts

/-- The statements of a text, before identifiers are put in. -/
def pieces (contents : List Char) : List (List Char) :=
  ((splitEnds (dropComments contents)).map Text.trim).filter (fun piece => !piece.isEmpty)

/-- An unending supply of identifiers. -/
abbrev Supply :=
  Nat → List Char

/-- The call that an identifier replaces. -/
def uuidCall : List Char :=
  "uuid()".toList

/-- Puts identifiers in place of the calls, from number `next` on; returns the next number too. -/
def expand (supply : Supply) (next : Nat) : List Char → List Char × Nat
  | [] => ([], next)
  | c :: text =>
    match _ : Text.stripWord? uuidCall (c :: text) with
    | some rest =>
      let (chars, after) := expand supply (next + 1) rest
      ('\'' :: supply next ++ '\'' :: chars, after)
    | none =>
      let (chars, after) := expand supply next text
      (c :: chars, after)
  termination_by text => text.length
  decreasing_by
    · rename_i found
      have shorter := Text.stripWord?_length found
      have six : uuidCall.length = 6 := by decide
      simp only [List.length_cons] at shorter ⊢
      omega
    · simp

/-- Puts identifiers into a list of texts, one after the other. -/
def expandAll (supply : Supply) (next : Nat) : List (List Char) → List String × Nat
  | [] => ([], next)
  | piece :: rest =>
    let first := expand supply next piece
    let others := expandAll supply first.2 rest
    (String.ofList first.1 :: others.1, others.2)

/-- The statements of a migration file, with identifiers from number `next` on, and the number of
the next identifier. -/
def split (supply : Supply) (next : Nat) (contents : String) : List String × Nat :=
  expandAll supply next (pieces contents.toList)

end SqlMigrations.Statement
