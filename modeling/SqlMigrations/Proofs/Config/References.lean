import Mathlib.Data.List.Infix
import SqlMigrations.Config.Expand

namespace SqlMigrations.Config

variable {c : Char} {name front rest : List Char}

/-- A reference, by the name in it, and the plain text behind it. The name may hold what opens a
reference, but not what closes one. -/
structure Reference where
  name : List Char
  behind : List Char
  nonempty : name ≠ []
  unclosed : closing ∉ name
  plain : ¬ opening <:+: behind

/-- Plain text with references behind it. -/
structure Template where
  front : List Char
  references : List Reference
  plain : ¬ opening <:+: front

def Reference.text (reference : Reference) : List Char :=
  opening ++ reference.name ++ [closing]

/-- What stands for the reference: the value of the variable, or the reference itself where the
variable is not set. -/
def Reference.value (environment : Environment) (reference : Reference) : List Char :=
  ((environment.get? (String.ofList reference.name)).map String.toList).getD reference.text

def Template.text (template : Template) : List Char :=
  template.front ++ template.references.flatMap fun reference => reference.text ++ reference.behind

def Template.filled (environment : Environment) (template : Template) : List Char :=
  template.front ++ template.references.flatMap fun reference =>
    reference.value environment ++ reference.behind

theorem Reference.substitute_name (environment : Environment) (reference : Reference) :
    substitute environment reference.name = reference.value environment := by
  rw [substitute, value]
  cases environment.get? (String.ofList reference.name) <;> rfl

theorem expandText_of_reference (environment : Environment)
    (found : readReference? front = some (name, rest)) :
    expandText environment front = substitute environment name ++ expandText environment rest := by
  cases front with
  | nil => cases found
  | cons c front =>
    rw [expandText]
    split
    · rename_i found'
      rw [found, Option.some.injEq, Prod.mk.injEq] at found'
      rw [found'.1, found'.2]
    · rename_i absent
      rw [absent] at found
      contradiction

theorem expandText_of_char (environment : Environment)
    (absent : readReference? (c :: rest) = none) :
    expandText environment (c :: rest) = c :: expandText environment rest := by
  rw [expandText]
  split
  · rename_i found
    rw [absent] at found
    contradiction
  · rfl

/-- A reference starts with both characters that open one. -/
theorem readReference?_of_unopened (unopened : ¬ opening <+: front) :
    readReference? front = none := by
  rw [Option.eq_none_iff_forall_ne_some]
  rintro ⟨name, rest⟩ found
  obtain ⟨shape, -⟩ := readReference?_eq_some_iff.mp found
  apply unopened
  rw [shape, List.append_assoc]
  exact List.prefix_append opening _

/-- Plain text is kept if what follows does not complete a dollar sign at its end. -/
theorem expandText_plain (environment : Environment) (plain : ¬ opening <:+: front)
    (apart : rest.head? ≠ some '\x7b') :
    expandText environment (front ++ rest) = front ++ expandText environment rest := by
  induction front with
  | nil => rfl
  | cons c front induction =>
    obtain ⟨here, later⟩ := not_or.mp (mt List.infix_cons_iff.mpr plain)
    have unopened : ¬ opening <+: c :: (front ++ rest) := by
      intro opened
      obtain ⟨rfl, second⟩ := List.cons_prefix_cons.mp opened
      cases front with
      | nil =>
        obtain ⟨after, whole⟩ := second
        exact apart (by rw [← List.nil_append rest, ← whole]; rfl)
      | cons d front =>
        obtain ⟨rfl, -⟩ := List.cons_prefix_cons.mp second
        exact here (List.prefix_append opening front)
    rw [List.cons_append, expandText_of_char environment (readReference?_of_unopened unopened),
      induction later, List.cons_append]

theorem Reference.expandText_text (environment : Environment) (reference : Reference)
    (rest : List Char) :
    expandText environment (reference.text ++ rest) =
      reference.value environment ++ expandText environment rest := by
  have shape : reference.text ++ rest = opening ++ reference.name ++ closing :: rest := by
    simp [text]
  rw [shape, ← reference.substitute_name]
  apply expandText_of_reference
  exact readReference?_eq_some_iff.mpr ⟨rfl, reference.nonempty, reference.unclosed⟩

/-- References begin with a dollar sign, so none is opened by the plain text in front of them. -/
theorem head?_references (references : List Reference) :
    (references.flatMap fun reference => reference.text ++ reference.behind).head? ≠
      some '\x7b' := by
  cases references with
  | nil => decide
  | cons reference references =>
    rw [List.flatMap_cons, Reference.text, opening]
    simp

theorem expandText_references (environment : Environment) (references : List Reference) :
    expandText environment
        (references.flatMap fun reference => reference.text ++ reference.behind) =
      references.flatMap fun reference => reference.value environment ++ reference.behind := by
  induction references with
  | nil => rw [List.flatMap_nil, expandText, List.flatMap_nil]
  | cons reference references induction =>
    rw [List.flatMap_cons, List.append_assoc, reference.expandText_text,
      expandText_plain environment reference.plain (head?_references references), induction,
      List.flatMap_cons, List.append_assoc]

/-- Expanding replaces every reference once, all at the same time: no value is searched again, alone
or together with the text around it, and all else is kept. -/
theorem expand_fills_references (environment : Environment) (template : Template) :
    expand environment (String.ofList template.text) =
      String.ofList (template.filled environment) := by
  rw [expand, String.toList_ofList, Template.text,
    expandText_plain environment template.plain (head?_references template.references),
    expandText_references, Template.filled]

/-- A dollar sign in front of a reference, one in a name, and a brace behind a reference. -/
def nestedTemplate : Template where
  front := ['$']
  references :=
    [⟨['A'], ['\x7d', ' '], by decide, by decide, by decide⟩,
      ⟨"$\x7bC".toList, [], by decide, by decide, by decide⟩,
      ⟨['B'], [], by decide, by decide, by decide⟩]
  plain := by decide

/-- The value of `A` forms a reference to `B` with the brace behind it, and it is none. -/
theorem nestedTemplate_filled :
    expand ⟨[("A", "$\x7bB"), ("B", "1")]⟩ "$$\x7bA\x7d\x7d $\x7b$\x7bC\x7d$\x7bB\x7d" =
      "$$\x7bB\x7d $\x7b$\x7bC\x7d1" := by
  have written : String.ofList nestedTemplate.text =
      "$$\x7bA\x7d\x7d $\x7b$\x7bC\x7d$\x7bB\x7d" := by
    decide +kernel
  have filled : String.ofList
      (nestedTemplate.filled ⟨[("A", "$\x7bB"), ("B", "1")]⟩) =
        "$$\x7bB\x7d $\x7b$\x7bC\x7d1" := by
    decide +kernel
  rw [← written, expand_fills_references, filled]

end SqlMigrations.Config
