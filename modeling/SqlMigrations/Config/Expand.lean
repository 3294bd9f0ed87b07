import SqlMigrations.Text.Search

namespace SqlMigrations

/-- Variables with their values. -/
structure Environment where
  bindings : List (String × String)
  deriving Repr, DecidableEq

/-- An environment without variables. -/
def Environment.empty : Environment :=
  ⟨[]⟩

/-- The value of a variable, if it is set; the last entry of a name counts. -/
def Environment.get? (environment : Environment) (name : String) : Option String :=
  (environment.bindings.reverse.find? (fun entry => entry.1 == name)).map Prod.snd

end SqlMigrations

namespace SqlMigrations.Config

def opening : List Char :=
  ['$', '\x7b']

def closing : Char :=
  '\x7d'

/-- The name of the reference at the start of a text, and what follows the reference. -/
def readReference? (text : List Char) : Option (List Char × List Char) :=
  match (Text.stripStart? opening text).bind (Text.splitFirst? closing) with
  | some ([], _) => none
  | found => found

theorem readReference?_eq_some_iff {text name rest : List Char} :
    readReference? text = some (name, rest) ↔
      text = opening ++ name ++ closing :: rest ∧ name ≠ [] ∧ closing ∉ name := by
  have found : (Text.stripStart? opening text).bind (Text.splitFirst? closing) = some (name, rest) ↔
      text = opening ++ name ++ closing :: rest ∧ closing ∉ name := by
    simp only [Option.bind_eq_some_iff, Text.stripStart?_eq_some_iff,
      Text.splitFirst?_eq_some_iff]
    constructor
    · rintro ⟨opened, rfl, rfl, absent⟩
      exact ⟨by simp, absent⟩
    · rintro ⟨rfl, absent⟩
      exact ⟨name ++ closing :: rest, by simp, rfl, absent⟩
  simp only [readReference?]
  split
  · rename_i after empty
    constructor
    · intro impossible
      contradiction
    · rintro ⟨shape, nonempty, absent⟩
      have equal := empty.symm.trans (found.2 ⟨shape, absent⟩)
      simp only [Option.some.injEq, Prod.mk.injEq] at equal
      exact absurd equal.1.symm nonempty
  · rename_i other
    rw [found]
    constructor
    · rintro ⟨shape, absent⟩
      refine ⟨shape, fun empty => ?_, absent⟩
      subst empty
      exact other rest (found.2 ⟨shape, absent⟩)
    · rintro ⟨shape, _, absent⟩
      exact ⟨shape, absent⟩

def substitute (environment : Environment) (name : List Char) : List Char :=
  match environment.get? (String.ofList name) with
  | some value => value.toList
  | none => opening ++ name ++ [closing]

def expandText (environment : Environment) : List Char → List Char
  | [] => []
  | c :: text =>
    match _ : readReference? (c :: text) with
    | some (name, rest) => substitute environment name ++ expandText environment rest
    | none => c :: expandText environment text
  termination_by text => text.length
  decreasing_by
    · rename_i found
      have shape := congrArg List.length (readReference?_eq_some_iff.1 found).1
      simp only [opening, List.length_cons, List.length_append, List.length_nil] at shape ⊢
      omega
    · simp

/-- The string with every reference replaced. -/
def expand (environment : Environment) (text : String) : String :=
  String.ofList (expandText environment text.toList)

end SqlMigrations.Config
