import SqlMigrations.Proofs.Store.Directories

/-!
What a successful load of a directory leaves in the store. Each subdirectory is read into the
project of its name, then the files directly in the root into the project of the root's own name;
where a subdirectory has that name, the files of the root take the place of its files.
-/

namespace SqlMigrations.Store

variable {tree : Tree} {root : String} {projects : Projects} {entries : List (String × Node)}

/-- Whether a directory holds SQL files. -/
def HasSql (entries : List (String × Node)) : Prop :=
  ∃ name, sqlBytes? entries name ≠ none

/-- Whether the files directly in the root take the place of those of a subdirectory. -/
def Shadowed (root : String) (entries : List (String × Node)) (name : String)
    (inner : List (String × Node)) : Prop :=
  HasSql entries ∧ fileName? root = some name ∧ sqlBytes? inner ≠ sqlBytes? entries

theorem HoldsSql.isEmpty_iff {files : FileSet} (holds : HoldsSql files entries) :
    files.isEmpty = true ↔ ¬ HasSql entries := by
  simp only [NameMap.isEmpty_iff, HasSql, not_exists, not_not, ← holds _, Option.map_eq_none_iff]

theorem mem_subdirectories {name : String} :
    name ∈ subdirectories (listingOf entries) ↔
      ∃ inner, (name, .directory inner) ∈ entries := by
  simp only [subdirectories, listingOf, List.mem_mergeSort, List.mem_map, List.mem_filter,
    beq_iff_eq]
  constructor
  · rintro ⟨_, ⟨⟨entry, member, rfl⟩, isDirectory⟩, rfl⟩
    obtain ⟨inner, directory⟩ := Node.kind_eq_directory.mp isDirectory
    exact ⟨inner, directory ▸ member⟩
  · rintro ⟨inner, member⟩
    exact ⟨⟨name, .directory⟩, ⟨⟨_, member, rfl⟩, rfl⟩, rfl⟩

/-- The project of a subdirectory is what was read from it, and no other project changes. -/
theorem loadSubdirectories_eq_ok {system : FileSystem} {names : List String}
    (loaded : (loadSubdirectories system root projects names).result = .ok ()) :
    (∀ name ∈ names, ∃ files, readDirectory system (joinPath root name) = .ok files ∧
      (loadSubdirectories system root projects names).projects.get? name = some files) ∧
    ∀ other ∉ names,
      (loadSubdirectories system root projects names).projects.get? other =
        projects.get? other := by
  induction names generalizing projects with
  | nil => exact ⟨by simp, fun _ _ => rfl⟩
  | cons name names induction =>
    rw [loadSubdirectories] at loaded ⊢
    cases read : readDirectory system (joinPath root name) with
    | error problem => simp [read] at loaded
    | ok files =>
      simp only [read] at loaded ⊢
      obtain ⟨each, others⟩ := induction loaded
      constructor
      · refine List.forall_mem_cons.mpr ⟨?_, each⟩
        by_cases again : name ∈ names
        · exact each name again
        · exact ⟨files, read, by rw [others name again, NameMap.get?_insert_same]⟩
      · intro other absent
        obtain ⟨different, later⟩ := List.ne_and_not_mem_of_not_mem_cons absent
        rw [others other later, NameMap.get?_insert_other _ different]

theorem readDirectory_entry_holds (named : tree.root.WellNamed)
    (listed : tree.find root = .ok (.directory entries)) {name : String}
    {inner : List (String × Node)} (member : (name, .directory inner) ∈ entries) {files : FileSet}
    (read : readDirectory tree.fileSystem (joinPath root name) = .ok files) :
    HoldsSql files inner := by
  obtain ⟨found, there⟩ : ∃ found, tree.find (joinPath root name) = .ok (.directory found) := by
    rw [readDirectory] at read
    cases listing : tree.fileSystem.list (joinPath root name) with
    | error problem => simp [listing] at read
    | ok reply =>
      obtain ⟨found, there, _⟩ := list_eq_ok listing
      exact ⟨found, there⟩
  have same := tree.find_entry named listed member (by simp) there
  exact readDirectory_holds named (same ▸ there) read

theorem loadTopLevel_eq_ok {system : FileSystem}
    (loaded : (loadTopLevel system root projects).result = .ok ()) :
    ∃ files, readDirectory system root = .ok files ∧
      (files.isEmpty = true ∧ (loadTopLevel system root projects).projects = projects ∨
        files.isEmpty = false ∧ ∃ own, fileName? root = some own ∧
          (loadTopLevel system root projects).projects = projects.insert own files) := by
  rw [loadTopLevel] at loaded ⊢
  cases read : readDirectory system root with
  | error problem => simp [read] at loaded
  | ok files =>
    refine ⟨files, rfl, ?_⟩
    simp only [read] at loaded ⊢
    cases empty : files.isEmpty with
    | true => exact .inl ⟨rfl, rfl⟩
    | false =>
      refine .inr ⟨rfl, ?_⟩
      simp only [empty, Bool.false_eq_true, if_false, baseName] at loaded ⊢
      cases own : fileName? root with
      | none => simp [own] at loaded
      | some name => exact ⟨name, rfl, rfl⟩

theorem loadDirectory_eq_ok
    (loaded : (loadDirectory tree.fileSystem projects root).result = .ok ()) :
    ∃ entries, tree.find root = .ok (.directory entries) ∧
      ∃ below, below = loadSubdirectories tree.fileSystem root projects
          (subdirectories (listingOf entries)) ∧
        below.result = .ok () ∧
        loadDirectory tree.fileSystem projects root =
          loadTopLevel tree.fileSystem root below.projects := by
  rw [loadDirectory] at loaded ⊢
  cases isDirectory : tree.fileSystem.isDirectory root with
  | error problem => simp [isDirectory] at loaded
  | ok answer =>
    cases answer with
    | false => simp [isDirectory] at loaded
    | true =>
      simp only [isDirectory] at loaded ⊢
      cases listing : tree.fileSystem.list root with
      | error problem => simp [listing] at loaded
      | ok reply =>
        obtain ⟨entries, listed, rfl⟩ := list_eq_ok listing
        refine ⟨entries, listed, _, rfl, ?_⟩
        simp only [listing] at loaded ⊢
        cases below : (loadSubdirectories tree.fileSystem root projects
          (subdirectories (listingOf entries))).result with
        | error problem => simp [below] at loaded
        | ok done => exact ⟨rfl, rfl⟩

/-- After a successful load the project of a subdirectory has exactly the SQL files that stand
there, unless the files directly in the root take their place; the project named after the root has
those, if there are any; and every other project is as it was. -/
theorem loaded_projects (named : tree.root.WellNamed) {after : Projects}
    (loaded : loadDirectory tree.fileSystem projects root = ⟨after, .ok ()⟩) :
    ∃ entries, tree.find root = .ok (.directory entries) ∧
      (∀ name inner, (name, .directory inner) ∈ entries →
        ((∃ files, after.get? name = some files ∧ HoldsSql files inner) ↔
          ¬ Shadowed root entries name inner)) ∧
      (HasSql entries → ∃ own files, fileName? root = some own ∧ after.get? own = some files ∧
        HoldsSql files entries) ∧
      ∀ project, (∀ inner, (project, .directory inner) ∉ entries) →
        ¬ (HasSql entries ∧ fileName? root = some project) →
        after.get? project = projects.get? project := by
  obtain ⟨entries, listed, below, ran, belowLoaded, last⟩ :=
    loadDirectory_eq_ok (congrArg Loaded.result loaded)
  rw [last] at loaded
  obtain ⟨files, read, outcome⟩ := loadTopLevel_eq_ok (congrArg Loaded.result loaded)
  have holds := readDirectory_holds named listed read
  obtain ⟨each, others⟩ := loadSubdirectories_eq_ok (ran ▸ belowLoaded)
  rw [← ran] at each others
  have inside {name : String} {inner : List (String × Node)}
      (member : (name, .directory inner) ∈ entries) :
      ∃ files, below.projects.get? name = some files ∧ HoldsSql files inner := by
    obtain ⟨files, read, put⟩ := each name (mem_subdirectories.mpr ⟨inner, member⟩)
    exact ⟨files, put, readDirectory_entry_holds named listed member read⟩
  have outside {project : String} (absent : ∀ inner, (project, .directory inner) ∉ entries) :
      below.projects.get? project = projects.get? project :=
    others project fun member => (mem_subdirectories.mp member).elim absent
  refine ⟨entries, listed, ?_⟩
  rcases outcome with ⟨empty, kept⟩ | ⟨some, own, isOwn, put⟩
  · -- the root holds no SQL files
    have none := holds.isEmpty_iff.mp empty
    obtain rfl : after = below.projects := by rw [← kept, loaded]
    exact ⟨fun name inner member => iff_of_true (inside member) fun shadowed => none shadowed.1,
      fun has => absurd has none, fun project absent _ => outside absent⟩
  · have has : HasSql entries := by
      by_contra none
      rw [holds.isEmpty_iff.mpr none] at some
      cases some
    obtain rfl : after = below.projects.insert own files := by rw [← put, loaded]
    refine ⟨fun name inner member => ?_, fun _ => ?_, fun project absent notOwn => ?_⟩
    · by_cases same : name = own
      · subst same
        simp only [NameMap.get?_insert_same, Option.some.injEq, exists_eq_left', Shadowed, has,
          isOwn, true_and, not_not]
        exact ⟨fun holdsInner => funext fun name => (holdsInner name).symm.trans (holds name),
          fun alike name => (holds name).trans (congrFun alike name).symm⟩
      · rw [NameMap.get?_insert_other _ same]
        refine iff_of_true (inside member) fun shadowed => same ?_
        exact Option.some.inj (shadowed.2.1.symm.trans isOwn)
    · exact ⟨own, files, isOwn, NameMap.get?_insert_same _ _ _, holds⟩
    · have different : project ≠ own := fun same => notOwn ⟨has, same ▸ isOwn⟩
      rw [NameMap.get?_insert_other _ different, outside absent]

/-- A directory with a file of its own and two subdirectories, one of them of its name. -/
def schemaEntries : List (String × Node) :=
  [("2.up.sql", .file [0x42]), ("db", .directory [("1.up.sql", .file [0x41])]),
    ("stats", .directory [("1.up.sql", .file [0x43])])]

/-- The tree with that directory at `/db`. -/
def schemaTree : Tree :=
  ⟨.directory [("db", .directory schemaEntries)], []⟩

/-- What loading it into an empty store leaves there. -/
def schemaProjects : Projects :=
  ((NameMap.empty.insert "db" (.ofList [("1.up.sql", "A")])).insert "stats"
    (.ofList [("1.up.sql", "C")])).insert "db" (.ofList [("2.up.sql", "B")])

theorem schemaTree_finds :
    schemaTree.find "/db" = .ok (.directory schemaEntries) ∧
      schemaTree.find "/db/2.up.sql" = .ok (.file [0x42]) ∧
      schemaTree.find "/db/db" = .ok (.directory [("1.up.sql", .file [0x41])]) ∧
      schemaTree.find "/db/db/1.up.sql" = .ok (.file [0x41]) ∧
      schemaTree.find "/db/stats" = .ok (.directory [("1.up.sql", .file [0x43])]) ∧
      schemaTree.find "/db/stats/1.up.sql" = .ok (.file [0x43]) := by
  have parts : segments "/db" = ["", "db"] ∧ segments "/db/2.up.sql" = ["", "db", "2.up.sql"] ∧
      segments "/db/db" = ["", "db", "db"] ∧
      segments "/db/db/1.up.sql" = ["", "db", "db", "1.up.sql"] ∧
      segments "/db/stats" = ["", "db", "stats"] ∧
      segments "/db/stats/1.up.sql" = ["", "db", "stats", "1.up.sql"] := by decide +kernel
  have short : ∀ name ∈ ["db", "stats", "1.up.sql", "2.up.sql"], isTooLong name = false := by
    decide +kernel
  have fits : ∀ path ∈ ["/db", "/db/2.up.sql", "/db/db", "/db/db/1.up.sql", "/db/stats",
      "/db/stats/1.up.sql"], ¬ maxPathLength < path.utf8ByteSize := by
    decide +kernel
  simp only [List.forall_mem_cons] at short fits
  simp [Tree.find, Tree.resolve, Tree.start, Tree.walk, Node.hasDirectory, Node.at?, Node.entry?,
    isAbsolute, parts, short, fits, schemaTree, schemaEntries]

theorem schemaEntries_subdirectories :
    subdirectories (listingOf schemaEntries) = ["db", "stats"] := by
  rw [subdirectories]
  exact List.mergeSort_of_pairwise (l := ["db", "stats"]) (by decide +kernel)

theorem schemaTree_loaded :
    loadDirectory schemaTree.fileSystem NameMap.empty "/db" = ⟨schemaProjects, .ok ()⟩ := by
  obtain ⟨root, two, db, one, stats, three⟩ := schemaTree_finds
  have readRoot : readDirectory schemaTree.fileSystem "/db" = .ok (.ofList [("2.up.sql", "B")]) :=
    readDirectory_single (list_of_find root) (by decide +kernel) (read_of_find two)
      (by decide +kernel)
  have readDb : readDirectory schemaTree.fileSystem (joinPath "/db" "db") =
      .ok (.ofList [("1.up.sql", "A")]) :=
    readDirectory_single (list_of_find db) (by decide +kernel) (read_of_find one)
      (by decide +kernel)
  have readStats : readDirectory schemaTree.fileSystem (joinPath "/db" "stats") =
      .ok (.ofList [("1.up.sql", "C")]) :=
    readDirectory_single (list_of_find stats) (by decide +kernel) (read_of_find three)
      (by decide +kernel)
  have isDirectory : schemaTree.fileSystem.isDirectory "/db" = .ok true := by
    simp only [Tree.fileSystem, root]
    rfl
  have own : fileName? "/db" = some "db" := by decide +kernel
  simp only [loadDirectory, isDirectory, list_of_find root, schemaEntries_subdirectories,
    loadSubdirectories, readDb, readStats, loadTopLevel, readRoot, baseName, own]
  rfl

theorem schemaTree_wellNamed : schemaTree.root.WellNamed := by
  have project {name : String} {bytes : List UInt8} (isName : IsName name) :
      (Node.directory [(name, .file bytes)]).WellNamed :=
    .directory (List.nodup_singleton _) (by simpa using isName) (by simpa using Node.WellNamed.file)
  refine .directory (List.nodup_singleton _) (by decide +kernel) ?_
  simp only [List.map_cons, List.map_nil, List.mem_singleton, forall_eq]
  refine .directory (by decide +kernel) (by decide +kernel) ?_
  simp only [schemaEntries, List.map_cons, List.map_nil, List.forall_mem_cons]
  exact ⟨.file, project (by decide +kernel), project (by decide +kernel), by simp⟩

/-- The other subdirectory is reached. -/
theorem statsProject_reached :
    loadDirectory schemaTree.fileSystem NameMap.empty "/db" = ⟨schemaProjects, .ok ()⟩ ∧
      ∃ files, schemaProjects.get? "stats" = some files ∧
        HoldsSql files [("1.up.sql", .file [0x43])] := by
  obtain ⟨entries, listed, each, _⟩ := loaded_projects schemaTree_wellNamed schemaTree_loaded
  obtain rfl : schemaEntries = entries :=
    Node.directory.inj (Except.ok.inj (schemaTree_finds.1.symm.trans listed))
  have other : fileName? "/db" ≠ some "stats" := by decide +kernel
  exact ⟨schemaTree_loaded, (each "stats" _ (by simp [schemaEntries])).mpr fun shadowed =>
    other shadowed.2.1⟩

/-- The files of the subdirectory with the root's name are not. -/
theorem ownName_not_reached :
    schemaTree.root.WellNamed ∧ schemaTree.find "/db" = .ok (.directory schemaEntries) ∧
      loadDirectory schemaTree.fileSystem NameMap.empty "/db" = ⟨schemaProjects, .ok ()⟩ ∧
      ("db", .directory [("1.up.sql", .file [0x41])]) ∈ schemaEntries ∧
      ¬ ∃ files, schemaProjects.get? "db" = some files ∧
        HoldsSql files [("1.up.sql", .file [0x41])] := by
  refine ⟨schemaTree_wellNamed, schemaTree_finds.1, schemaTree_loaded, by simp [schemaEntries], ?_⟩
  rintro ⟨files, found, holds⟩
  rw [schemaProjects, NameMap.get?_insert_same, Option.some.injEq] at found
  have lost : files.get? "1.up.sql" = none := by
    rw [← found]
    decide +kernel
  have there : sqlBytes? [("1.up.sql", .file [0x41])] "1.up.sql" = some [0x41] := by decide +kernel
  have same := holds "1.up.sql"
  rw [lost, there] at same
  cases same

end SqlMigrations.Store
