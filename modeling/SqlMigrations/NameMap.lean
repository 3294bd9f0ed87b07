namespace SqlMigrations

/-- The entries with a value put at a name; entries of other names stay. -/
def putEntry {α : Type} (name : String) (value : α) : List (String × α) → List (String × α)
  | [] => [(name, value)]
  | entry :: rest =>
    if name < entry.1 then (name, value) :: entry :: rest
    else if name = entry.1 then (name, value) :: rest
    else entry :: putEntry name value rest

def NamesAscend {α : Type} (entries : List (String × α)) : Prop :=
  entries.Pairwise (fun left right => left.1 < right.1)

theorem mem_putEntry {α : Type} {name : String} {value : α} {entries : List (String × α)}
    {entry : String × α} (member : entry ∈ putEntry name value entries) :
    entry = (name, value) ∨ entry ∈ entries := by
  induction entries with
  | nil => simpa [putEntry] using member
  | cons head rest induction =>
    simp only [putEntry] at member
    split at member
    · simpa using member
    · split at member
      · rcases List.mem_cons.mp member with same | below
        · exact .inl same
        · exact .inr (List.mem_cons_of_mem _ below)
      · rcases List.mem_cons.mp member with same | below
        · exact .inr (by simp [same])
        · rcases induction below with same | inside
          · exact .inl same
          · exact .inr (List.mem_cons_of_mem _ inside)

theorem namesAscend_putEntry {α : Type} {name : String} {value : α} {entries : List (String × α)}
    (ascend : NamesAscend entries) : NamesAscend (putEntry name value entries) := by
  induction entries with
  | nil => simp [putEntry, NamesAscend]
  | cons head rest induction =>
    obtain ⟨above, rests⟩ := List.pairwise_cons.mp ascend
    simp only [putEntry]
    split
    · rename_i before
      refine List.pairwise_cons.mpr ⟨fun entry member => ?_, ascend⟩
      rcases List.mem_cons.mp member with same | inside
      · simpa [same] using before
      · exact String.lt_trans before (above entry inside)
    · rename_i notBefore
      split
      · rename_i same
        exact List.pairwise_cons.mpr ⟨fun entry member => by simpa [same] using above entry member,
          rests⟩
      · rename_i other
        refine List.pairwise_cons.mpr ⟨fun entry member => ?_, induction rests⟩
        rcases mem_putEntry member with same | inside
        · rw [same]
          exact Std.lt_of_le_of_ne (String.not_lt.mp notBefore) (fun equal => other equal.symm)
        · exact above entry inside

structure NameMap (α : Type) where
  entries : List (String × α)
  ascend : NamesAscend entries

namespace NameMap

variable {α : Type}

def empty : NameMap α :=
  ⟨[], .nil⟩

def insert (map : NameMap α) (name : String) (value : α) : NameMap α :=
  ⟨putEntry name value map.entries, namesAscend_putEntry map.ascend⟩

def get? (map : NameMap α) (name : String) : Option α :=
  (map.entries.find? (fun entry => entry.1 == name)).map Prod.snd

/-- The names, in ascending order. -/
def names (map : NameMap α) : List String :=
  map.entries.map Prod.fst

def size (map : NameMap α) : Nat :=
  map.entries.length

def isEmpty (map : NameMap α) : Bool :=
  map.entries.isEmpty

/-- The map of a list of entries; the last entry of a name counts. -/
def ofList (entries : List (String × α)) : NameMap α :=
  entries.foldl (fun map entry => map.insert entry.1 entry.2) empty

end NameMap

end SqlMigrations
