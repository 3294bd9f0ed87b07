import SqlMigrations.Proofs.Catalog.Courses
import SqlMigrations.Proofs.Schema.IndexOrder

namespace SqlMigrations.Catalog

open Schema

variable {α β : Type}

namespace Inspection

def FailsFirst (read : α → Inspection β) (items : List α) (error : CatalogError) : Prop :=
  ∃ before item after, items = before ++ item :: after ∧
    (∀ earlier ∈ before, ∃ value, (read earlier).result = .ok value) ∧
    (read item).result = .error error

theorem bind_eq_error_iff {first : Inspection α} {next : α → Inspection β} {error : CatalogError} :
    (first >>= next).result = .error error ↔ first.result = .error error ∨
      ∃ value, first.result = .ok value ∧ (next value).result = .error error := by
  cases ended : first.result with
  | error found => simp [bind_of_error ended]
  | ok value => simp [bind_of_ok ended]

theorem failsFirst_cons {read : α → Inspection β} {item : α} {items : List α}
    {error : CatalogError} : FailsFirst read (item :: items) error ↔
      (read item).result = .error error ∨
        ∃ value, (read item).result = .ok value ∧ FailsFirst read items error := by
  constructor
  · rintro ⟨before, failing, after, split, succeed, failed⟩
    cases before with
    | nil =>
      obtain ⟨rfl, rfl⟩ := List.cons.inj split
      exact .inl failed
    | cons first before =>
      obtain ⟨rfl, rfl⟩ := List.cons.inj split
      obtain ⟨⟨value, ended⟩, others⟩ := List.forall_mem_cons.mp succeed
      exact .inr ⟨value, ended, before, failing, after, rfl, others, failed⟩
  · rintro (failed | ⟨value, ended, before, failing, after, rfl, succeed, failed⟩)
    · exact ⟨[], item, items, rfl, List.forall_mem_nil _, failed⟩
    · exact ⟨item :: before, failing, after, rfl,
        List.forall_mem_cons.mpr ⟨⟨value, ended⟩, succeed⟩, failed⟩

theorem each_eq_error_iff {read : α → Inspection β} {items : List α} {error : CatalogError} :
    (each read items).result = .error error ↔ FailsFirst read items error := by
  induction items with
  | nil =>
    refine iff_of_false nofun ?_
    rintro ⟨before, item, after, split, -⟩
    cases before <;> cases split
  | cons item items induction =>
    have unfolded : each read (item :: items) = read item >>= fun value =>
      each read items >>= fun values => done (value :: values) := rfl
    have last (value : β) : (each read items >>= fun values => done (value :: values)).result =
        .error error ↔ (each read items).result = .error error := by
      simp [bind_eq_error_iff, done]
    simp only [unfolded, bind_eq_error_iff, last, induction, failsFirst_cons]

theorem bind_done_result {first : Inspection α} {f : α → β} :
    (first >>= fun value => done (f value)).result = first.result.map f := by
  cases ended : first.result with
  | error error => rw [bind_of_error ended]; rfl
  | ok value => rw [bind_of_ok ended]; rfl

/-- What is made of the values afterwards has no part in the first failure. -/
theorem failsFirst_map {read : α → Inspection β} {γ : Type} {f : α → β → γ} {items : List α}
    {error : CatalogError} :
    FailsFirst (fun item => read item >>= fun value => done (f item value)) items error ↔
      FailsFirst read items error := by
  have succeeds (item : α) :
      (∃ value, (read item).result.map (f item) = .ok value) ↔
        ∃ value, (read item).result = .ok value := by
    cases (read item).result <;> simp [Except.map]
  have fails (item : α) : (read item).result.map (f item) = .error error ↔
      (read item).result = .error error := by
    cases (read item).result <;> simp [Except.map]
  simp only [FailsFirst, bind_done_result, succeeds, fails]

end Inspection

open Inspection (FailsFirst bind_eq_ok bind_of_ok each_eq_ok each_eq_error_iff)

/-- Whether a table is the listed one with what the description of its name adds. -/
structure Completed (describer : Dialect) (connection : Connection) (listed table : Table) :
    Prop where
  named : table.name = listed.name
  commented : listed.comment ≠ "" → table.comment = listed.comment
  titled : listed.comment = "" → table.comment = title listed.name
  described : ∃ described, (describeTable describer connection listed.name).result = .ok described ∧
    table.columns = described.columns ∧ InOrder described.indexes table.indexes

variable {describer : Dialect} {connection : Connection} {listed described : Table}

theorem completeTable_completed
    (done : (describeTable describer connection listed.name).result = .ok described) :
    Completed describer connection listed (completeTable listed described) where
  named := rfl
  commented present := if_neg (by simpa using present)
  titled absent := if_pos (by simpa using absent)
  described := ⟨described, done, rfl, sortIndexes_inOrder described.indexes⟩

/-- A full listing has the listed tables, each completed, and it fails with the first description
that does. -/
theorem full_listing (describer : Dialect) (connection : Connection) :
    (∀ tables, (listTablesWithColumns describer connection).result = .ok tables →
      ∃ listed, (listTables describer connection).result = .ok listed ∧
        tables.map Table.name = listed.map Table.name ∧
        List.Forall₂ (Completed describer connection) listed tables) ∧
    ∀ listed, (listTables describer connection).result = .ok listed → ∀ error,
      (listTablesWithColumns describer connection).result = .error error ↔
        FailsFirst (fun table => describeTable describer connection table.name) listed error := by
  constructor
  · intro tables done
    obtain ⟨listed, asked, each⟩ := bind_eq_ok done
    have completed : List.Forall₂ (Completed describer connection) listed tables := by
      refine (each_eq_ok each).imp fun table completed finished => ?_
      obtain ⟨described, ended, later⟩ := bind_eq_ok finished
      obtain rfl := Except.ok.inj later
      exact completeTable_completed ended
    have names := map_eq_map_of_forall₂ completed fun _ _ both => both.named.symm
    exact ⟨listed, asked, names.symm, completed⟩
  · intro listed asked error
    rw [listTablesWithColumns, bind_of_ok asked]
    exact each_eq_error_iff.trans Inspection.failsFirst_map

/-- A database with two tables, one of them with two secondary indexes on one column and a primary
key that is listed after them. -/
def clinicReplies : Sqlite.Replies where
  statement _ := .ok ()
  tables := .ok ["pets", "visits"]
  tableInfo table := .ok (if table = "ghosts" then [] else
    [⟨"id", "INTEGER", 1⟩, ⟨"pet_id", "INTEGER", 0⟩])
  indexList table := .ok (if table = "visits" then
    [⟨"visits_two", 0, "c"⟩, ⟨"visits_one", 0, "c"⟩, ⟨"visits_key", 1, "pk"⟩] else [])
  indexInfo index := .ok [some (if index = "visits_key" then "id" else "pet_id")]
  createText _ := .ok none

theorem clinicReplies_listed :
    (∃ tables, (listTablesWithColumns .sqlite (.sqlite clinicReplies)).result = .ok tables ∧
      tables.map Table.name = ["pets", "visits"] ∧
      List.Forall₂ (Completed .sqlite (.sqlite clinicReplies))
        [Table.named "pets" "", Table.named "visits" ""] tables) ∧
    (listTablesWithColumns .sqlite (.sqlite
      { clinicReplies with tables := .ok ["pets", "ghosts", "visits"] })).result =
        .error (.tableNotFound "ghosts") := by
  constructor
  · have done : ∃ tables, (listTablesWithColumns .sqlite (.sqlite clinicReplies)).result =
        .ok tables := ⟨_, rfl⟩
    obtain ⟨tables, ended⟩ := done
    obtain ⟨listed, asked, names, completed⟩ :=
      (full_listing .sqlite (.sqlite clinicReplies)).1 tables ended
    obtain rfl := Except.ok.inj asked
    exact ⟨tables, ended, names, completed⟩
  · refine ((full_listing .sqlite _).2 _ rfl _).mpr ?_
    refine ⟨[Table.named "pets" ""], Table.named "ghosts" "", [Table.named "visits" ""], rfl, ?_,
      rfl⟩
    exact List.forall_mem_singleton.mpr ⟨_, rfl⟩

end SqlMigrations.Catalog
