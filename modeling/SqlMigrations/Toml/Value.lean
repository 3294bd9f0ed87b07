/-!
The values of a TOML document. Fractions and moments of time are recognised, but no setting takes
one, so what they denote is not kept.
-/

namespace SqlMigrations.Toml

/-- How a table was written: inline, under a header, as a parent of a header only, or by a dotted
key. -/
inductive TableForm where
  | inline
  | header
  | implied
  | dotted
  deriving Repr, DecidableEq

inductive Value where
  | string (text : String)
  | integer (value : Int)
  | boolean (value : Bool)
  | fraction
  | moment
  | array (items : List Value)
  | table (form : TableForm) (entries : List (String × Value))
  | tables (items : List (List (String × Value)))

/-- The entries of a table, in the order in which they were written. -/
abbrev Entries :=
  List (String × Value)

namespace Entries

def get? (entries : Entries) (key : String) : Option Value :=
  (List.find? (fun entry => entry.1 == key) entries).map Prod.snd

def replace (entries : Entries) (key : String) (value : Value) : Entries :=
  List.map (fun entry => if entry.1 = key then (key, value) else entry) entries

/-- The entries with a new key, which must not be there yet. -/
def add? (entries : Entries) (key : String) (value : Value) : Option Entries :=
  match entries.get? key with
  | some _ => none
  | none => some (entries ++ [(key, value)])

def changeLast? (change : Entries → Option Entries) : List Entries → Option (List Entries)
  | [] => none
  | [last] => (change last).map (fun changed => [changed])
  | first :: next :: more => (changeLast? change (next :: more)).map (first :: ·)

/-- The entries with a value put at a dotted key. The tables on the way must come from dotted keys;
a table that only a header implies can be passed through, but gets no key of its own. -/
def insert? (value : Value) : List String → Entries → Option Entries
  | [], _ => none
  | [key], entries => entries.add? key value
  | key :: next :: more, entries =>
    match entries.get? key with
    | none =>
      (insert? value (next :: more) []).bind (fun inner => entries.add? key (.table .dotted inner))
    | some (.table form inner) =>
      if form = .dotted ∨ (form = .implied ∧ more ≠ []) then
        (insert? value (next :: more) inner).map (fun changed =>
          entries.replace key (.table form changed))
      else none
    | some (.tables items) =>
      if more = [] then none
      else
        (changeLast? (insert? value (next :: more)) items).map (fun changed =>
          entries.replace key (.tables changed))
    | some _ => none

/-- The entries with those at the end of a header's path changed; tables on the way that are not
there yet are implied by the header. -/
def within? (change : Entries → Option Entries) : List String → Entries → Option Entries
  | [], entries => change entries
  | key :: more, entries =>
    match entries.get? key with
    | none =>
      (within? change more []).bind (fun inner => entries.add? key (.table .implied inner))
    | some (.table form inner) =>
      if form = .inline then none
      else
        (within? change more inner).map (fun changed => entries.replace key (.table form changed))
    | some (.tables items) =>
      (changeLast? (within? change more) items).map (fun changed =>
        entries.replace key (.tables changed))
    | some _ => none

/-- The entries with a table opened at a key by its own header, which happens at most once. -/
def openTable? (key : String) (entries : Entries) : Option Entries :=
  match entries.get? key with
  | none => entries.add? key (.table .header [])
  | some (.table .implied inner) => some (entries.replace key (.table .header inner))
  | some _ => none

def openItem? (key : String) (entries : Entries) : Option Entries :=
  match entries.get? key with
  | none => entries.add? key (.tables [[]])
  | some (.tables items) => some (entries.replace key (.tables (items ++ [[]])))
  | some _ => none

end Entries

end SqlMigrations.Toml
