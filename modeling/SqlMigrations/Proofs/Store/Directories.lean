import SqlMigrations.Proofs.NameMap
import SqlMigrations.Proofs.Store.Walk
import SqlMigrations.Proofs.Text.Utf8
import SqlMigrations.Store.Load

namespace SqlMigrations.Store

open Text (Utf8.encode Utf8.decode Utf8.encode_of_decode)

variable {tree : Tree} {path : String} {entries : List (String × Node)} {files : FileSet}

def listingOf (entries : List (String × Node)) : List DirectoryEntry :=
  entries.map fun entry => ⟨entry.1, entry.2.kind⟩

/-- The contents of the SQL file with a name that a directory holds. -/
def sqlBytes? (entries : List (String × Node)) (name : String) : Option (List UInt8) :=
  match Node.entry? (.directory entries) name with
  | some (.file bytes) => if extension? name = some "sql" then some bytes else none
  | _ => none

/-- Whether files are exactly the SQL files of a directory with their contents. -/
def HoldsSql (files : FileSet) (entries : List (String × Node)) : Prop :=
  ∀ name, (files.get? name).map (fun text => Utf8.encode text.toList) = sqlBytes? entries name

theorem sqlBytes?_eq_some_iff (distinct : (entries.map Prod.fst).Nodup) {name : String}
    {bytes : List UInt8} : sqlBytes? entries name = some bytes ↔
      (name, .file bytes) ∈ entries ∧ extension? name = some "sql" := by
  rw [← Node.entry?_eq_some_iff distinct, sqlBytes?]
  split
  · rename_i found
    simp [found, and_comm]
  · rename_i noFile
    exact iff_of_false (by simp) fun both => noFile bytes both.1

theorem map_eq_ok {α β ε : Type} {f : α → β} {result : Except ε α} {value : β}
    (mapped : result.map f = .ok value) : ∃ inner, result = .ok inner ∧ f inner = value := by
  cases result with
  | error problem => cases mapped
  | ok inner => exact ⟨inner, rfl, Except.ok.inj mapped⟩

theorem list_eq_ok {listing : List DirectoryEntry}
    (listed : tree.fileSystem.list path = .ok listing) :
    ∃ entries, tree.find path = .ok (.directory entries) ∧
      listing = listingOf entries := by
  simp only [Tree.fileSystem, Except.bind] at listed
  cases found : tree.find path with
  | error problem => simp [found] at listed
  | ok node =>
    cases node with
    | directory entries =>
      simp only [found, Node.listing, Except.ok.injEq] at listed
      exact ⟨entries, rfl, listed.symm⟩
    | file | link | socket => simp [found, Node.listing] at listed

theorem read_eq_ok {bytes : List UInt8} (read : tree.fileSystem.read path = .ok bytes) :
    tree.find path = .ok (.file bytes) := by
  simp only [Tree.fileSystem, Except.bind] at read
  cases found : tree.find path with
  | error problem => simp [found] at read
  | ok node =>
    cases node with
    | file contents =>
      simp only [found, Node.contents, Except.ok.injEq] at read
      rw [read]
    | directory | link | socket => simp [found, Node.contents] at read

theorem Node.kind_eq_file {node : Node} : node.kind = .file ↔ ∃ bytes, node = .file bytes := by
  cases node <;> simp [Node.kind]

theorem Node.kind_eq_directory {node : Node} :
    node.kind = .directory ↔ ∃ inner, node = .directory inner := by
  cases node <;> simp [Node.kind]

/-- The names that are read in a directory. -/
theorem mem_sqlNames {name : String} :
    name ∈ ((listingOf entries).filter isSqlFile).map DirectoryEntry.name ↔
      ∃ bytes, (name, .file bytes) ∈ entries ∧ extension? name = some "sql" := by
  simp only [listingOf, List.mem_map, List.mem_filter, isSqlFile, Bool.and_eq_true, beq_iff_eq]
  constructor
  · rintro ⟨_, ⟨⟨entry, member, rfl⟩, isFile, isSql⟩, rfl⟩
    obtain ⟨bytes, file⟩ := Node.kind_eq_file.mp isFile
    exact ⟨bytes, file ▸ member, isSql⟩
  · rintro ⟨bytes, member, isSql⟩
    exact ⟨⟨name, .file⟩, ⟨⟨_, member, rfl⟩, rfl, isSql⟩, rfl⟩

theorem readSql_eq_ok {system : FileSystem} {text : String}
    (read : readSql system path = .ok text) :
    system.read path = .ok (Utf8.encode text.toList) := by
  rw [readSql] at read
  cases contents : system.read path with
  | error problem => simp [contents] at read
  | ok bytes =>
    simp only [contents] at read
    cases decoded : Utf8.decode bytes with
    | error fault => simp [decoded] at read
    | ok chars =>
      simp only [decoded, Except.ok.injEq] at read
      rw [← read, String.toList_ofList, Utf8.encode_of_decode decoded]

theorem readNamed_eq_ok {system : FileSystem} {names : List String} {pairs : List (String × String)}
    (read : readNamed system path names = .ok pairs) :
    pairs.map Prod.fst = names ∧
      ∀ pair ∈ pairs, readSql system (joinPath path pair.1) = .ok pair.2 := by
  induction names generalizing pairs with
  | nil =>
    obtain rfl : [] = pairs := Except.ok.inj read
    simp
  | cons name names induction =>
    rw [readNamed] at read
    cases first : readSql system (joinPath path name) with
    | error problem => simp [first] at read
    | ok contents =>
      simp only [first] at read
      obtain ⟨later, others, rfl⟩ := map_eq_ok read
      obtain ⟨sameNames, eachRead⟩ := induction others
      exact ⟨congrArg (name :: ·) sameNames, List.forall_mem_cons.mpr ⟨first, eachRead⟩⟩

theorem list_of_find (listed : tree.find path = .ok (.directory entries)) :
    tree.fileSystem.list path = .ok (listingOf entries) := by
  simp only [Tree.fileSystem, listed]
  rfl

theorem read_of_find {bytes : List UInt8} (found : tree.find path = .ok (.file bytes)) :
    tree.fileSystem.read path = .ok bytes := by
  simp only [Tree.fileSystem, found]
  rfl

theorem readDirectory_single {system : FileSystem} {listing : List DirectoryEntry}
    {name text : String} {bytes : List UInt8} (listed : system.list path = .ok listing)
    (only : (listing.filter isSqlFile).map DirectoryEntry.name = [name])
    (read : system.read (joinPath path name) = .ok bytes)
    (decoded : Utf8.decode bytes = .ok text.toList) :
    readDirectory system path = .ok (.ofList [(name, text)]) := by
  simp only [readDirectory, listed, only, readNamed, readSql, read, decoded, String.ofList_toList]
  rfl

/-- What is read from a directory is what stands in it. -/
theorem readDirectory_holds (named : tree.root.WellNamed)
    (listed : tree.find path = .ok (.directory entries))
    (read : readDirectory tree.fileSystem path = .ok files) : HoldsSql files entries := by
  have distinct := (tree.wellNamed_of_find named listed).distinct
  rw [readDirectory, list_of_find listed] at read
  obtain ⟨pairs, readPairs, rfl⟩ := map_eq_ok read
  obtain ⟨names, eachRead⟩ := readNamed_eq_ok readPairs
  have member_iff {name : String} : name ∈ pairs.map Prod.fst ↔
      ∃ bytes, (name, .file bytes) ∈ entries ∧ extension? name = some "sql" :=
    names ▸ mem_sqlNames
  have distinctNames : (pairs.map Prod.fst).Nodup := by
    rw [names]
    refine List.Nodup.sublist (List.filter_sublist.map DirectoryEntry.name) ?_
    rwa [listingOf, List.map_map]
  -- each text that was read is that of the entry of its name
  have exact {name text : String} (member : (name, text) ∈ pairs) :
      (name, .file (Utf8.encode text.toList)) ∈ entries ∧ extension? name = some "sql" := by
    obtain ⟨bytes, entry, isSql⟩ := member_iff.mp (List.mem_map_of_mem member)
    have there := read_eq_ok (readSql_eq_ok (eachRead _ member))
    rw [tree.find_entry named listed entry (by simp) there]
    exact ⟨entry, isSql⟩
  intro name
  refine Option.ext fun bytes => ?_
  simp only [sqlBytes?_eq_some_iff distinct, Option.map_eq_some_iff,
    NameMap.get?_ofList_eq_some_iff distinctNames]
  constructor
  · rintro ⟨text, member, rfl⟩
    exact exact member
  · rintro ⟨entry, isSql⟩
    obtain ⟨pair, member, rfl⟩ := List.mem_map.mp (member_iff.mpr ⟨bytes, entry, isSql⟩)
    have same := List.inj_on_of_nodup_map distinct (exact member).1 entry rfl
    exact ⟨pair.2, member, Node.file.inj (Prod.mk.inj same).2⟩

end SqlMigrations.Store
