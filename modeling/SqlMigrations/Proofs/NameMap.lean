import Mathlib.Data.List.Induction
import Mathlib.Data.List.Nodup
import SqlMigrations.NameMap

namespace SqlMigrations

variable {α : Type}

theorem find?_putEntry_same (name : String) (value : α) (entries : List (String × α)) :
    (putEntry name value entries).find? (fun entry => entry.1 == name) = some (name, value) := by
  induction entries with
  | nil => simp [putEntry]
  | cons head rest induction =>
    simp only [putEntry]
    split
    · simp
    · split
      · simp
      · rename_i different
        have skipped : (head.1 == name) = false := by simpa using Ne.symm different
        simp only [List.find?_cons, skipped, induction]

theorem find?_putEntry_other {name other : String} (different : other ≠ name) (value : α)
    (entries : List (String × α)) :
    (putEntry name value entries).find? (fun entry => entry.1 == other) =
      entries.find? (fun entry => entry.1 == other) := by
  have skipped : (name == other) = false := by simpa using Ne.symm different
  induction entries with
  | nil => simp [putEntry, skipped]
  | cons head rest induction =>
    simp only [putEntry]
    split
    · simp [List.find?_cons, skipped]
    · split
      · rename_i same
        simp [← same, skipped]
      · simp only [List.find?_cons, induction]

/-- Where the names are distinct, a look-up finds every entry. -/
theorem lookup_eq_some_iff {entries : List (String × α)} (distinct : (entries.map Prod.fst).Nodup)
    {name : String} {value : α} :
    (entries.find? fun entry => entry.1 == name).map Prod.snd = some value ↔
      (name, value) ∈ entries := by
  constructor
  · intro found
    obtain ⟨entry, first, rfl⟩ := Option.map_eq_some_iff.mp found
    obtain rfl : entry.1 = name := by simpa using List.find?_some first
    exact List.mem_of_find?_eq_some first
  · intro member
    cases first : entries.find? fun entry => entry.1 == name with
    | none => exact absurd (List.find?_eq_none.mp first _ member) (by simp)
    | some entry =>
      have same : entry.1 = (name, value).1 := by simpa using List.find?_some first
      rw [List.inj_on_of_nodup_map distinct (List.mem_of_find?_eq_some first) member same]
      rfl

namespace NameMap

@[simp] theorem get?_empty (name : String) : (empty : NameMap α).get? name = none :=
  rfl

@[simp] theorem get?_insert_same (map : NameMap α) (name : String) (value : α) :
    (map.insert name value).get? name = some value := by
  simp [get?, insert, find?_putEntry_same]

theorem get?_insert_other (map : NameMap α) {name other : String} (different : other ≠ name)
    (value : α) : (map.insert name value).get? other = map.get? other := by
  simp [get?, insert, find?_putEntry_other different]

/-- As the names ascend, no other entry has the name of an entry. -/
theorem get?_of_mem {map : NameMap α} {name : String} {value : α}
    (member : (name, value) ∈ map.entries) : map.get? name = some value := by
  obtain ⟨entries, ascend⟩ := map
  simp only [get?] at member ⊢
  induction entries with
  | nil => cases member
  | cons head rest induction =>
    obtain ⟨above, rests⟩ := List.pairwise_cons.mp ascend
    rcases List.mem_cons.mp member with rfl | inside
    · simp
    · have before : head.1 < name := above (name, value) inside
      have skipped : (head.1 == name) = false := by
        simpa using fun same : head.1 = name => String.lt_irrefl name (same ▸ before)
      simpa only [List.find?_cons, skipped] using induction rests inside

theorem mem_entries_iff {map : NameMap α} {name : String} {value : α} :
    (name, value) ∈ map.entries ↔ map.get? name = some value := by
  refine ⟨get?_of_mem, fun found => ?_⟩
  obtain ⟨entry, first, rfl⟩ := Option.map_eq_some_iff.mp found
  have named : entry.1 = name := by simpa using List.find?_some first
  have member := List.mem_of_find?_eq_some first
  rwa [← named]

theorem mem_names_iff {map : NameMap α} {name : String} :
    name ∈ map.names ↔ ∃ value, map.get? name = some value := by
  rw [names, List.mem_map]
  constructor
  · rintro ⟨entry, member, rfl⟩
    exact ⟨entry.2, get?_of_mem member⟩
  · rintro ⟨value, found⟩
    exact ⟨(name, value), mem_entries_iff.mpr found, rfl⟩

theorem names_nodup (map : NameMap α) : map.names.Nodup := by
  refine List.pairwise_map.mpr (map.ascend.imp fun before same => ?_)
  rw [same] at before
  exact String.lt_irrefl _ before

/-- A map is determined by its look-ups. -/
theorem ext_get? {first second : NameMap α} (same : ∀ name, first.get? name = second.get? name) :
    first = second := by
  have unique (map : NameMap α) : map.entries.Nodup :=
    List.Nodup.of_map Prod.fst map.names_nodup
  have perm : first.entries.Perm second.entries := by
    rw [List.perm_ext_iff_of_nodup (unique first) (unique second)]
    rintro ⟨name, value⟩
    rw [mem_entries_iff, mem_entries_iff, same]
  have equal : first.entries = second.entries :=
    perm.eq_of_pairwise (fun _ _ _ _ before after => absurd after (String.lt_asymm before))
      first.ascend second.ascend
  cases first
  cases second
  rwa [mk.injEq]

theorem isEmpty_iff {map : NameMap α} : map.isEmpty = true ↔ ∀ name, map.get? name = none := by
  rw [isEmpty, List.isEmpty_iff]
  constructor
  · intro empty name
    rw [get?, empty]
    rfl
  · intro absent
    refine List.eq_nil_iff_forall_not_mem.mpr fun entry member => ?_
    have found := get?_of_mem (show (entry.1, entry.2) ∈ map.entries from member)
    rw [absent] at found
    cases found

/-- The last entry of a name counts. -/
theorem get?_ofList (entries : List (String × α)) (name : String) :
    (ofList entries).get? name =
      (entries.reverse.find? fun entry => entry.1 == name).map Prod.snd := by
  induction entries using List.reverseRecOn with
  | nil => rfl
  | append_singleton entries entry induction =>
    have added : ofList (entries ++ [entry]) = (ofList entries).insert entry.1 entry.2 := by
      rw [ofList, List.foldl_append]
      rfl
    rw [added, List.reverse_concat, List.find?_cons]
    by_cases same : entry.1 = name
    · subst same
      simp
    · have skipped : (entry.1 == name) = false := by simpa using same
      rw [get?_insert_other _ (Ne.symm same), induction, skipped]

theorem get?_ofList_eq_some_iff {entries : List (String × α)}
    (distinct : (entries.map Prod.fst).Nodup) {name : String} {value : α} :
    (ofList entries).get? name = some value ↔ (name, value) ∈ entries := by
  have reversed : (entries.reverse.map Prod.fst).Nodup := by
    rwa [List.map_reverse, List.nodup_reverse]
  rw [get?_ofList, lookup_eq_some_iff reversed, List.mem_reverse]

end NameMap

end SqlMigrations
