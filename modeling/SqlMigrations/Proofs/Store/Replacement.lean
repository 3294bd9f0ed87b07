import SqlMigrations.Proofs.Store.Reach

/-!
What a load leaves in the store if it fails. A project is replaced after its whole directory was
read and not before, so at every moment each project has either what it had before the load or all
SQL files of a directory. The file system may refuse any request on a tree that it otherwise shows.
-/

namespace SqlMigrations.Store

variable {system : FileSystem} {tree : Tree} {root path : String} {projects after : Projects}
  {names : List String} {entries : List (String × Node)} {problem : MigrationError}

/-- Whether a file system replies with what stands in a tree wherever it does not fail. -/
structure FileSystem.Shows (system : FileSystem) (tree : Tree) : Prop where
  isDirectory : ∀ {path answer}, system.isDirectory path = .ok answer →
    tree.fileSystem.isDirectory path = .ok answer
  list : ∀ {path listing}, system.list path = .ok listing →
    tree.fileSystem.list path = .ok listing
  read : ∀ {path bytes}, system.read path = .ok bytes → tree.fileSystem.read path = .ok bytes

theorem FileSystem.Shows.readSql (shows : system.Shows tree) {text : String}
    (read : readSql system path = .ok text) : Store.readSql tree.fileSystem path = .ok text := by
  rw [Store.readSql] at read ⊢
  cases contents : system.read path with
  | error problem => simp [contents] at read
  | ok bytes =>
    rw [contents] at read
    rw [shows.read contents]
    exact read

theorem FileSystem.Shows.readNamed (shows : system.Shows tree) {pairs : List (String × String)}
    (read : readNamed system path names = .ok pairs) :
    Store.readNamed tree.fileSystem path names = .ok pairs := by
  induction names generalizing pairs with
  | nil => exact read
  | cons name names induction =>
    rw [Store.readNamed] at read ⊢
    cases first : Store.readSql system (joinPath path name) with
    | error problem => simp [first] at read
    | ok contents =>
      simp only [first] at read
      obtain ⟨later, others, rfl⟩ := map_eq_ok read
      simp only [shows.readSql first, induction others]
      rfl

theorem FileSystem.Shows.readDirectory (shows : system.Shows tree) {files : FileSet}
    (read : readDirectory system path = .ok files) :
    Store.readDirectory tree.fileSystem path = .ok files := by
  rw [Store.readDirectory] at read ⊢
  cases listed : system.list path with
  | error problem => simp [listed] at read
  | ok listing =>
    simp only [listed] at read
    obtain ⟨pairs, contents, rfl⟩ := map_eq_ok read
    simp only [shows.list listed, shows.readNamed contents]
    rfl

/-- Loading fails at the first subdirectory that cannot be read, with the ones before it loaded. -/
theorem loadSubdirectories_eq_error
    (failed : (loadSubdirectories system root projects names).result = .error problem) :
    ∃ complete name later, names = complete ++ name :: later ∧
      readDirectory system (joinPath root name) = .error problem ∧
      loadSubdirectories system root projects complete =
        ⟨(loadSubdirectories system root projects names).projects, .ok ()⟩ := by
  induction names generalizing projects with
  | nil => cases failed
  | cons name names induction =>
    rw [loadSubdirectories] at failed ⊢
    cases read : readDirectory system (joinPath root name) with
    | error other =>
      simp only [read, Except.error.injEq] at failed
      exact ⟨[], name, names, rfl, failed ▸ read, rfl⟩
    | ok files =>
      simp only [read] at failed ⊢
      obtain ⟨complete, failing, later, split, unreadable, before⟩ := induction failed
      refine ⟨name :: complete, failing, later, by rw [split, List.cons_append], unreadable, ?_⟩
      rw [loadSubdirectories, read]
      exact before

/-- Why the files directly in the root do not become a project. -/
def OwnFilesFail (system : FileSystem) (root : String) (problem : MigrationError) : Prop :=
  readDirectory system root = .error problem ∨
    ∃ files, readDirectory system root = .ok files ∧ files.isEmpty = false ∧
      baseName root = .error problem

theorem loadTopLevel_eq_error
    (failed : (loadTopLevel system root projects).result = .error problem) :
    OwnFilesFail system root problem ∧ (loadTopLevel system root projects).projects = projects := by
  rw [loadTopLevel] at failed ⊢
  cases read : readDirectory system root with
  | error other =>
    simp only [read, Except.error.injEq] at failed
    exact ⟨.inl (failed ▸ read), rfl⟩
  | ok files =>
    simp only [read] at failed ⊢
    cases empty : files.isEmpty with
    | true => simp [empty] at failed
    | false =>
      simp only [empty, Bool.false_eq_true, if_false] at failed ⊢
      cases own : baseName root with
      | ok name => simp [own] at failed
      | error other =>
        simp only [own, Except.error.injEq] at failed
        exact ⟨.inr ⟨files, read, empty, failed ▸ own⟩, rfl⟩

def Unopened (system : FileSystem) (root : String) : Prop :=
  system.isDirectory root ≠ .ok true ∨ ∃ problem, system.list root = .error problem

/-- A load opens the root, goes through its subdirectories and ends with its own files. -/
theorem loadDirectory_cases (system : FileSystem) (projects : Projects) (root : String) :
    (Unopened system root ∧
      ∃ problem, loadDirectory system projects root = ⟨projects, .error problem⟩) ∨
    ∃ listing, system.list root = .ok listing ∧
      ∃ below, below = loadSubdirectories system root projects (subdirectories listing) ∧
        ((∃ problem, below.result = .error problem) ∧
            loadDirectory system projects root = below ∨
          below.result = .ok () ∧
            loadDirectory system projects root = loadTopLevel system root below.projects) := by
  rw [loadDirectory]
  cases isDirectory : system.isDirectory root with
  | error other => exact .inl ⟨.inl (by simp [isDirectory]), _, rfl⟩
  | ok answer =>
    cases answer with
    | false => exact .inl ⟨.inl (by simp [isDirectory]), _, rfl⟩
    | true =>
      cases listed : system.list root with
      | error other => exact .inl ⟨.inr ⟨other, listed⟩, _, rfl⟩
      | ok listing =>
        refine .inr ⟨listing, rfl, _, rfl, ?_⟩
        dsimp only
        generalize loadSubdirectories system root projects (subdirectories listing) = below
        obtain ⟨loaded, other | done⟩ := below
        · exact .inl ⟨⟨other, rfl⟩, rfl⟩
        · exact .inr ⟨rfl, rfl⟩

/-- Whether names are those of the subdirectories among entries, in ascending order. -/
def SubdirectoryNames (entries : List (String × Node)) (names : List String) : Prop :=
  names.Pairwise (· < ·) ∧ ∀ name, name ∈ names ↔ ∃ inner, (name, .directory inner) ∈ entries

/-- Whether the projects of the named directories hold all SQL files of theirs, and every other
project is as it was. -/
structure Replaced (entries : List (String × Node)) (names : List String)
    (projects after : Projects) : Prop where
  whole : ∀ name ∈ names, ∃ inner files, (name, .directory inner) ∈ entries ∧
    after.get? name = some files ∧ HoldsSql files inner
  kept : ∀ other ∉ names, after.get? other = projects.get? other

/-- Whether what is held for a project is all SQL files of a directory: of the subdirectory with its
name, or of the root that is named so itself. -/
def HoldsDirectory (tree : Tree) (root project : String) (held : Option FileSet) : Prop :=
  ∃ entries files, tree.find root = .ok (.directory entries) ∧ held = some files ∧
    ((∃ inner, (project, .directory inner) ∈ entries ∧ HoldsSql files inner) ∨
      fileName? root = some project ∧ HoldsSql files entries)

theorem subdirectories_names (distinct : (entries.map Prod.fst).Nodup) :
    SubdirectoryNames entries (subdirectories (listingOf entries)) := by
  refine ⟨?_, fun name => mem_subdirectories⟩
  have sorted : (subdirectories (listingOf entries)).Pairwise fun left right =>
      decide (left ≤ right) = true :=
    List.pairwise_mergeSort (fun _ _ _ => by simpa using String.le_trans)
      (fun left right => by simpa using String.le_total left right) _
  have nodup : (subdirectories (listingOf entries)).Nodup := by
    rw [subdirectories, (List.mergeSort_perm _ _).nodup_iff]
    refine List.Nodup.sublist (List.filter_sublist.map DirectoryEntry.name) ?_
    rwa [listingOf, List.map_map]
  exact sorted.imp₂ (fun _ _ below other => Std.lt_of_le_of_ne (by simpa using below) other) nodup

theorem SubdirectoryNames.unique {others : List String} (left : SubdirectoryNames entries names)
    (right : SubdirectoryNames entries others) : names = others := by
  have nodup {list : List String} (ascending : list.Pairwise (· < ·)) : list.Nodup :=
    ascending.imp fun before => by
      rintro rfl
      exact String.lt_irrefl _ before
  refine List.Perm.eq_of_pairwise (fun a b _ _ below above => ?_) left.1 right.1
    ((List.perm_ext_iff_of_nodup (nodup left.1) (nodup right.1)).mpr fun name => ?_)
  · exact absurd (String.lt_trans below above) (String.lt_irrefl a)
  · rw [left.2, right.2]

theorem loadSubdirectories_replaced (named : tree.root.WellNamed) (shows : system.Shows tree)
    (listed : tree.find root = .ok (.directory entries))
    (inside : ∀ name ∈ names, ∃ inner, (name, .directory inner) ∈ entries)
    (loaded : loadSubdirectories system root projects names = ⟨after, .ok ()⟩) :
    Replaced entries names projects after := by
  obtain ⟨each, others⟩ := loadSubdirectories_eq_ok (congrArg Loaded.result loaded)
  rw [loaded] at each others
  refine ⟨fun name member => ?_, others⟩
  obtain ⟨inner, entry⟩ := inside name member
  obtain ⟨files, read, put⟩ := each name member
  exact ⟨inner, files, entry, put,
    readDirectory_entry_holds named listed entry (shows.readDirectory read)⟩

theorem loadFile_eq_error {project : String}
    (failed : (loadFile system projects project path).result = .error problem) :
    loadFile system projects project path = ⟨projects, .error problem⟩ := by
  rw [loadFile] at failed ⊢
  cases named : baseName path with
  | error other =>
    simp only [named] at failed ⊢
    rw [failed]
  | ok name =>
    cases read : readSql system path with
    | error other =>
      simp only [named, read] at failed ⊢
      rw [failed]
    | ok contents => simp [named, read] at failed

/-- How a load ends, with what it has replaced until then. -/
theorem loadDirectory_course (named : tree.root.WellNamed) (shows : system.Shows tree)
    (projects : Projects) (root : String) :
    (Unopened system root ∧
      ∃ problem, loadDirectory system projects root = ⟨projects, .error problem⟩) ∨
    ∃ entries names between, tree.find root = .ok (.directory entries) ∧
      SubdirectoryNames entries names ∧
      ((∃ complete name later problem, names = complete ++ name :: later ∧
          readDirectory system (joinPath root name) = .error problem ∧
          Replaced entries complete projects between ∧
          loadDirectory system projects root = ⟨between, .error problem⟩) ∨
        Replaced entries names projects between ∧
          loadDirectory system projects root = loadTopLevel system root between) := by
  rcases loadDirectory_cases system projects root with
    unopened | ⟨listing, reply, below, ran, ⟨⟨problem, failed⟩, ended⟩ | ⟨loaded, ended⟩⟩
  · exact .inl unopened
  all_goals
    obtain ⟨entries, listed, rfl⟩ := list_eq_ok (shows.list reply)
    have ordered := subdirectories_names (tree.wellNamed_of_find named listed).distinct
    refine .inr ⟨entries, _, below.projects, listed, ordered, ?_⟩
  · obtain ⟨complete, name, later, split, unreadable, before⟩ :=
      loadSubdirectories_eq_error (ran ▸ failed)
    have inside : ∀ name ∈ complete, ∃ inner, (name, .directory inner) ∈ entries :=
      fun name member => mem_subdirectories.mp (split ▸ List.mem_append_left _ member)
    rw [← ran] at before
    refine .inl ⟨complete, name, later, problem, split, unreadable,
      loadSubdirectories_replaced named shows listed inside before, ?_⟩
    rw [ended, ← failed]
  · refine .inr ⟨loadSubdirectories_replaced named shows listed
      (fun name member => mem_subdirectories.mp member) ?_, ended⟩
    rw [← ran, ← loaded]

theorem Replaced.holds (replaced : Replaced entries names projects after)
    (listed : tree.find root = .ok (.directory entries)) (project : String) :
    after.get? project = projects.get? project ∨
      HoldsDirectory tree root project (after.get? project) := by
  by_cases member : project ∈ names
  · obtain ⟨inner, files, entry, found, holds⟩ := replaced.whole project member
    exact .inr ⟨entries, files, listed, found, .inl ⟨inner, entry, holds⟩⟩
  · exact .inl (replaced.kept project member)

theorem loadTopLevel_holds (named : tree.root.WellNamed) (shows : system.Shows tree)
    (listed : tree.find root = .ok (.directory entries)) (project : String) :
    (loadTopLevel system root projects).projects.get? project = projects.get? project ∨
      HoldsDirectory tree root project
        ((loadTopLevel system root projects).projects.get? project) := by
  cases ended : (loadTopLevel system root projects).result with
  | error problem => exact .inl (by rw [(loadTopLevel_eq_error ended).2])
  | ok done =>
    obtain ⟨files, read, ⟨-, kept⟩ | ⟨-, own, isOwn, put⟩⟩ := loadTopLevel_eq_ok ended
    · exact .inl (by rw [kept])
    · rw [put]
      by_cases same : project = own
      · subst same
        exact .inr ⟨entries, files, listed, NameMap.get?_insert_same _ _ _,
          .inr ⟨isOwn, readDirectory_holds named listed (shows.readDirectory read)⟩⟩
      · exact .inl (NameMap.get?_insert_other _ same _)

theorem loadDirectory_holds (named : tree.root.WellNamed) (shows : system.Shows tree)
    (projects : Projects) (root project : String) :
    (loadDirectory system projects root).projects.get? project = projects.get? project ∨
      HoldsDirectory tree root project
        ((loadDirectory system projects root).projects.get? project) := by
  rcases loadDirectory_course named shows projects root with
    ⟨-, problem, ended⟩ | ⟨entries, names, between, listed, -,
      ⟨complete, _, _, _, -, -, replaced, ended⟩ | ⟨replaced, ended⟩⟩
  · exact .inl (by rw [ended])
  · rw [ended]
    exact replaced.holds listed project
  · rw [ended]
    rcases loadTopLevel_holds named shows listed project with same | whole
    · rw [same]
      exact replaced.holds listed project
    · exact .inr whole

/-- A load that fails replaces whole projects or nothing. It fails before the first subdirectory and
changes nothing; or at a subdirectory, with exactly the ones before it loaded; or at the files of
the root, with all subdirectories loaded. After every load each project is as it was or has all SQL
files of a directory, and a single file that is not loaded changes nothing. -/
theorem failing_load_replaces_whole (named : tree.root.WellNamed) (shows : system.Shows tree) :
    (∀ root projects after problem,
      loadDirectory system projects root = ⟨after, .error problem⟩ →
      Unopened system root ∧ after = projects ∨
      ∃ entries names, tree.find root = .ok (.directory entries) ∧
        SubdirectoryNames entries names ∧
        ((∃ complete name later, names = complete ++ name :: later ∧
            readDirectory system (joinPath root name) = .error problem ∧
            Replaced entries complete projects after) ∨
          OwnFilesFail system root problem ∧ Replaced entries names projects after)) ∧
    (∀ root projects project,
      (loadDirectory system projects root).projects.get? project = projects.get? project ∨
        HoldsDirectory tree root project
          ((loadDirectory system projects root).projects.get? project)) ∧
    ∀ projects project path problem,
      (loadFile system projects project path).result = .error problem →
        (loadFile system projects project path).projects = projects := by
  refine ⟨fun root projects after problem failed => ?_,
    fun root projects => loadDirectory_holds named shows projects root,
    fun projects project path problem failed => congrArg Loaded.projects (loadFile_eq_error failed)⟩
  rcases loadDirectory_course named shows projects root with
    ⟨unopened, other, ended⟩ | ⟨entries, names, between, listed, ordered,
      ⟨complete, name, later, other, split, unreadable, replaced, ended⟩ | ⟨replaced, ended⟩⟩
  · exact .inl ⟨unopened, (congrArg Loaded.projects (ended.symm.trans failed)).symm⟩
  · obtain ⟨rfl, same⟩ := Loaded.mk.inj (ended.symm.trans failed)
    exact .inr ⟨entries, names, listed, ordered,
      .inl ⟨complete, name, later, split, Except.error.inj same ▸ unreadable, replaced⟩⟩
  · have last := ended.symm.trans failed
    obtain ⟨own, kept⟩ := loadTopLevel_eq_error (congrArg Loaded.result last)
    obtain rfl : after = between := (congrArg Loaded.projects last).symm.trans kept
    exact .inr ⟨entries, names, listed, ordered, .inr ⟨own, replaced⟩⟩

/-- The file system of a tree that does not list one of its directories. -/
def statsRefused : FileSystem :=
  { schemaTree.fileSystem with
    list := fun path =>
      if path = "/db/stats" then .error .permissionDenied else schemaTree.fileSystem.list path }

/-- A store that has other files for both subdirectories. -/
def earlierProjects : Projects :=
  (NameMap.empty.insert "db" (.ofList [("0.up.sql", "Z")])).insert "stats"
    (.ofList [("9.up.sql", "Y")])

theorem statsRefused_shows : statsRefused.Shows schemaTree where
  isDirectory answered := answered
  list {path listing} listed := by
    by_cases refused : path = "/db/stats"
    · simp [statsRefused, refused] at listed
    · simpa [statsRefused, refused] using listed
  read contents := contents

theorem statsRefused_reads :
    statsRefused.isDirectory "/db" = .ok true ∧
      statsRefused.list "/db" = .ok (listingOf schemaEntries) ∧
      readDirectory statsRefused "/db" = .ok (.ofList [("2.up.sql", "B")]) ∧
      readDirectory statsRefused (joinPath "/db" "db") = .ok (.ofList [("1.up.sql", "A")]) ∧
      readDirectory statsRefused (joinPath "/db" "stats") = .error (.io .permissionDenied) := by
  obtain ⟨root, two, db, one, -, -⟩ := schemaTree_finds
  have isDirectory : statsRefused.isDirectory "/db" = .ok true := by
    simp only [statsRefused, Tree.fileSystem, root]
    rfl
  have listed : statsRefused.list "/db" = .ok (listingOf schemaEntries) := list_of_find root
  have listedDb : statsRefused.list (joinPath "/db" "db") =
      .ok (listingOf [("1.up.sql", .file [0x41])]) := list_of_find db
  exact ⟨isDirectory, listed,
    readDirectory_single listed (by decide +kernel) (read_of_find two) (by decide +kernel),
    readDirectory_single listedDb (by decide +kernel) (read_of_find one) (by decide +kernel), rfl⟩

theorem statsRefused_loaded :
    loadDirectory statsRefused earlierProjects "/db" =
      ⟨earlierProjects.insert "db" (.ofList [("1.up.sql", "A")]),
        .error (.io .permissionDenied)⟩ := by
  obtain ⟨isDirectory, listed, -, readDb, refused⟩ := statsRefused_reads
  simp only [loadDirectory, isDirectory, listed, schemaEntries_subdirectories, loadSubdirectories,
    readDb, refused]

/-- The subdirectory before it replaces its project, and every other project stays. -/
theorem statsRefused_replaces_db :
    loadDirectory statsRefused earlierProjects "/db" =
        ⟨earlierProjects.insert "db" (.ofList [("1.up.sql", "A")]),
          .error (.io .permissionDenied)⟩ ∧
      Replaced schemaEntries ["db"] earlierProjects
        (earlierProjects.insert "db" (.ofList [("1.up.sql", "A")])) := by
  refine ⟨statsRefused_loaded, ?_⟩
  obtain ⟨isDirectory, list, readRoot, readDb, -⟩ := statsRefused_reads
  rcases (failing_load_replaces_whole schemaTree_wellNamed statsRefused_shows).1 _ _ _ _
      statsRefused_loaded with
    ⟨unopened, -⟩ | ⟨entries, names, listed, ordered, course⟩
  · rcases unopened with noDirectory | ⟨problem, noListing⟩
    · exact absurd isDirectory noDirectory
    · exact nomatch list.symm.trans noListing
  · obtain rfl : schemaEntries = entries :=
      Node.directory.inj (Except.ok.inj (schemaTree_finds.1.symm.trans listed))
    have distinct := (schemaTree.wellNamed_of_find schemaTree_wellNamed listed).distinct
    have both : names = ["db", "stats"] :=
      (ordered.unique (subdirectories_names distinct)).trans schemaEntries_subdirectories
    rcases course with ⟨complete, name, later, split, unreadable, replaced⟩ | ⟨ownFails, -⟩
    · match complete, both.symm.trans split with
      | [], same =>
        obtain ⟨rfl, -⟩ := List.cons.inj same
        exact nomatch readDb.symm.trans unreadable
      | [first], same =>
        obtain ⟨rfl, -⟩ := List.cons.inj same
        exact replaced
      | _ :: _ :: more, same => simp at same
    · have own : baseName "/db" = .ok "db" := by decide +kernel
      rcases ownFails with failed | ⟨-, -, -, noName⟩
      · exact nomatch readRoot.symm.trans failed
      · exact nomatch own.symm.trans noName

end SqlMigrations.Store
