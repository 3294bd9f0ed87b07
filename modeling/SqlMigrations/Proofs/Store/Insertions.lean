import Mathlib.Data.List.Dedup
import SqlMigrations.Proofs.Store.Plan
import SqlMigrations.Proofs.Text.ByteOrder

namespace SqlMigrations.Store

variable {inserts others : List (String × String)} {name contents : String} {files : FileSet}

/-- Whether a name was inserted, the last time with these contents. -/
def LastInserted (inserts : List (String × String)) (name contents : String) : Prop :=
  ∃ before after, inserts = before ++ (name, contents) :: after ∧
    ∀ entry ∈ after, entry.1 ≠ name

theorem lastInserted_iff : LastInserted inserts name contents ↔
    (NameMap.ofList inserts).get? name = some contents := by
  rw [NameMap.get?_ofList, Option.map_eq_some_iff]
  constructor
  · rintro ⟨before, after, rfl, others⟩
    refine ⟨(name, contents), ?_, rfl⟩
    rw [List.find?_eq_some_iff_append]
    exact ⟨by simp, after.reverse, before.reverse, by simp, by simpa using others⟩
  · rintro ⟨entry, found, rfl⟩
    obtain ⟨named, after, before, reversed, others⟩ := List.find?_eq_some_iff_append.mp found
    obtain rfl : entry.1 = name := by simpa using named
    refine ⟨before.reverse, after.reverse, ?_, by simpa using others⟩
    rw [← List.reverse_inj, reversed]
    simp

theorem exists_lastInserted_iff :
    (∃ contents, LastInserted inserts name contents) ↔ name ∈ inserts.map Prod.fst := by
  constructor
  · rintro ⟨contents, before, after, rfl, -⟩
    simp
  · intro member
    obtain ⟨entry, inserted, named⟩ := List.mem_map.mp member
    have found : (inserts.reverse.find? fun entry => entry.1 == name).isSome := by
      rw [List.find?_isSome]
      exact ⟨entry, List.mem_reverse.mpr inserted, by simpa using named⟩
    obtain ⟨last, found⟩ := Option.isSome_iff_exists.mp found
    refine ⟨last.2, lastInserted_iff.mpr ?_⟩
    rw [NameMap.get?_ofList, found, Option.map_some]

theorem readText_eq_ok_iff : files.readText name = .ok contents ↔
    files.get? name = some contents := by
  rw [FileSet.readText]
  cases files.get? name <;> simp

/-- The size is the number of different names. -/
theorem size_ofList (inserts : List (String × String)) :
    (NameMap.ofList inserts).size = (inserts.map Prod.fst).dedup.length := by
  have members (name : String) :
      name ∈ (NameMap.ofList inserts).names ↔ name ∈ (inserts.map Prod.fst).dedup := by
    simp only [NameMap.mem_names_iff, List.mem_dedup, ← lastInserted_iff, exists_lastInserted_iff]
  have perm : (NameMap.ofList inserts).names.Perm (inserts.map Prod.fst).dedup :=
    (List.perm_ext_iff_of_nodup (NameMap.names_nodup _) (List.nodup_dedup _)).mpr members
  rw [← perm.length_eq, NameMap.names, List.length_map, NameMap.size]

/-- The name of a file to apply: something before the ending, and no slash. -/
structure NamesMigration (name : String) : Prop where
  ended : ∃ stem, stem ≠ "" ∧ name = stem ++ ".up.sql"
  flat : '/' ∉ name.toList

theorem isUpName_iff : isUpName name = true ↔ NamesMigration name := by
  have noSlash : '/' ∉ upSuffix.toList := by decide
  rw [isUpName]
  split
  · rename_i c stem found
    have whole := Text.stripEnd?_eq_some_iff.mp found
    have slashes : '/' ∈ name.toList ↔ '/' ∈ c :: stem := by
      rw [whole, List.mem_append, or_iff_left noSlash]
    rw [Bool.not_eq_true', ← Bool.not_eq_true, List.contains_iff_mem, ← slashes]
    refine ⟨fun flat => ⟨⟨String.ofList (c :: stem), ?_, ?_⟩, flat⟩, NamesMigration.flat⟩
    · intro empty
      have chars := congrArg String.toList empty
      rw [String.toList_ofList] at chars
      cases chars
    · rw [← String.toList_inj, whole, String.toList_append, String.toList_ofList, upSuffix]
  · rename_i other
    refine iff_of_false Bool.false_ne_true ?_
    rintro ⟨⟨stem, nonempty, rfl⟩, -⟩
    cases chars : stem.toList with
    | nil => exact nonempty (String.toList_eq_nil_iff.mp chars)
    | cons c rest =>
      apply other c rest
      rw [Text.stripEnd?_eq_some_iff, String.toList_append, chars, upSuffix]

theorem isEligible_iff {entry : String × String} :
    isEligible entry = true ↔ 2 ≤ entry.2.utf8ByteSize ∧ NamesMigration entry.1 := by
  rw [isEligible, Bool.and_eq_true, decide_eq_true_iff, isUpName_iff, minimumSize]

theorem mem_migrations_iff : name ∈ files.migrations ↔
    NamesMigration name ∧ ∃ contents, files.get? name = some contents ∧
      2 ≤ contents.utf8ByteSize := by
  simp only [FileSet.migrations, FileSet.eligible, List.mem_map, List.mem_filter, isEligible_iff]
  constructor
  · rintro ⟨entry, ⟨member, long, named⟩, rfl⟩
    exact ⟨named, entry.2, NameMap.get?_of_mem member, long⟩
  · rintro ⟨named, contents, found, long⟩
    exact ⟨(name, contents), ⟨NameMap.mem_entries_iff.mpr found, long, named⟩, rfl⟩

/-- The names are in the order of their bytes, each of them once. -/
theorem migrations_bytewise (files : FileSet) : files.migrations.Pairwise fun before after =>
    Text.Utf8.encode before.toList < Text.Utf8.encode after.toList :=
  files.migrations_ascending.imp fun less => Text.Utf8.encode_lt_encode less

theorem ofList_congr (same : ∀ name contents,
    LastInserted inserts name contents ↔ LastInserted others name contents) :
    NameMap.ofList inserts = NameMap.ofList others := by
  apply NameMap.ext_get?
  intro name
  refine Option.ext fun contents => ?_
  rw [← lastInserted_iff, ← lastInserted_iff, same]

end SqlMigrations.Store
