import SqlMigrations.Proofs.Runner.RunErrors
import SqlMigrations.Proofs.Store.Insertions
import SqlMigrations.Runner.Print

namespace SqlMigrations.Runner

open Store (FileSet LastInserted NamesMigration PlannedFile Projects planFiles)

variable {σ : Type} {files : FileSet}

def planNamed (files : FileSet) (supply : Statement.Supply) (next : Nat) :
    List String → Except MigrationError (List PlannedFile × Nat)
  | [] => .ok ([], next)
  | name :: rest =>
    match files.readText name with
    | .error problem => .error problem
    | .ok contents =>
      let first := Statement.split supply next contents
      (planNamed files supply first.2 rest).map fun others =>
        (⟨name, first.1⟩ :: others.1, others.2)

def printNamed (projects : Projects) (verbose : Bool) (supply : Statement.Supply) (next : Nat)
    (project : String) : Except MigrationError Printed :=
  match projects.find project with
  | .error problem => .error problem
  | .ok files =>
    (planNamed files supply next files.migrations).map fun plan =>
      ⟨files.migrations, plan.1.flatMap (echoPlanned verbose), plan.2⟩

/-- Applies the named files in order up to the first error; a file that is not found is one. -/
def applyNamed (database : Database σ) (dialect : Dialect) (verbose : Bool) (project : String)
    (files : FileSet) (supply : Statement.Supply) :
    (next : Nat) → List String → σ → Run σ (List FileOutcome)
  | _, [], state => ⟨.ok [], [], state⟩
  | next, name :: rest, state =>
    match files.readText name with
    | .error problem => ⟨.error problem, [], state⟩
    | .ok contents =>
      let split := Statement.split supply next contents
      let first := applyFile database dialect verbose project ⟨name, split.1⟩ state
      match first.result with
      | .error problem => ⟨.error problem, first.lines, first.state⟩
      | .ok outcome =>
        let later := applyNamed database dialect verbose project files supply split.2 rest
          first.state
        ⟨later.result.map (outcome :: ·), first.lines ++ later.lines, later.state⟩

def runNamed (database : Database σ) (dialect : Dialect) (projects : Projects) (verbose : Bool)
    (supply : Statement.Supply) (next : Nat) (project : String) (state : σ) : Run σ RunReport :=
  match projects.find project with
  | .error problem => ⟨.error problem, [], state⟩
  | .ok files =>
    let prepared := bootstrap database dialect verbose state
    match prepared.result with
    | .error problem => ⟨.error problem, prepared.lines, prepared.state⟩
    | .ok () =>
      let applied := applyNamed database dialect verbose project files supply next
        files.migrations prepared.state
      ⟨applied.result.map (fun files => ⟨project, files⟩), prepared.lines ++ applied.lines,
        applied.state⟩

theorem readText_of_mem {entry : String × String} (member : entry ∈ files.entries) :
    files.readText entry.1 = .ok entry.2 :=
  Store.readText_eq_ok_iff.mpr (NameMap.get?_of_mem member)

theorem planNamed_entries (supply : Statement.Supply) {entries : List (String × String)}
    (within : ∀ entry ∈ entries, entry ∈ files.entries) :
    ∀ next, planNamed files supply next (entries.map Prod.fst) =
      .ok (planFiles supply next entries) := by
  induction entries with
  | nil => exact fun next => rfl
  | cons entry rest induction =>
    intro next
    obtain ⟨first, later⟩ := List.forall_mem_cons.mp within
    rw [List.map_cons, planNamed, readText_of_mem first]
    simp only [induction later]
    rfl

theorem applyNamed_entries (database : Database σ) (dialect : Dialect) (verbose : Bool)
    (project : String) (supply : Statement.Supply) {entries : List (String × String)}
    (within : ∀ entry ∈ entries, entry ∈ files.entries) :
    ∀ next state, applyNamed database dialect verbose project files supply next
        (entries.map Prod.fst) state =
      applyFiles database dialect verbose project (planFiles supply next entries).1 state := by
  induction entries with
  | nil => exact fun next state => rfl
  | cons entry rest induction =>
    intro next state
    obtain ⟨first, later⟩ := List.forall_mem_cons.mp within
    rw [List.map_cons, applyNamed, readText_of_mem first]
    simp only [induction later]
    rfl

theorem eligible_within (files : FileSet) : ∀ entry ∈ files.eligible, entry ∈ files.entries :=
  fun _ member => (List.mem_filter.mp member).1

theorem printNamed_eq (projects : Projects) (verbose : Bool) (supply : Statement.Supply)
    (next : Nat) (project : String) :
    printNamed projects verbose supply next project =
      print projects verbose supply next project := by
  rw [printNamed, print]
  cases projects.find project with
  | error problem => rfl
  | ok files =>
    have planned : planNamed files supply next files.migrations = .ok (files.plan supply next) :=
      planNamed_entries supply (eligible_within files) next
    simp only [planned, files.plan_names]
    rfl

theorem runNamed_eq (database : Database σ) (dialect : Dialect) (projects : Projects)
    (verbose : Bool) (supply : Statement.Supply) (next : Nat) (project : String) (state : σ) :
    runNamed database dialect projects verbose supply next project state =
      run database dialect projects verbose supply next project state := by
  rw [runNamed, run]
  cases projects.find project with
  | error problem => rfl
  | ok files =>
    have applied (prepared : σ) :
        applyNamed database dialect verbose project files supply next files.migrations prepared =
          applyFiles database dialect verbose project (files.plan supply next).1 prepared :=
      applyNamed_entries database dialect verbose project supply (eligible_within files) next
        prepared
    simp only [applied]
    rfl

theorem print_finds (projects : Projects) (verbose : Bool) (supply : Statement.Supply) (next : Nat)
    (project file : String) :
    print projects verbose supply next project ≠ .error (.notFound file) := by
  intro missing
  rw [print] at missing
  cases found : projects.find project with
  | error problem =>
    obtain rfl := find_error found
    rw [found] at missing
    cases missing
  | ok files =>
    rw [found] at missing
    cases missing

theorem run_finds (database : Database σ) (dialect : Dialect) (projects : Projects) (verbose : Bool)
    (supply : Statement.Supply) (next : Nat) (project : String) (state : σ) (file : String) :
    (run database dialect projects verbose supply next project state).result ≠
      .error (.notFound file) := by
  intro missing
  rw [run] at missing
  cases found : projects.find project with
  | error problem =>
    obtain rfl := find_error found
    rw [found] at missing
    cases missing
  | ok files =>
    rw [found] at missing
    exact runPlan_fails database dialect verbose project _ state _ missing

/-- The last contents of the names decide what a file set lists and reads, in the order of the
bytes; every listed file is found, so that neither printing nor running ever misses one. -/
theorem last_contents_decide (inserts : List (String × String)) :
    let files : FileSet := NameMap.ofList inserts
    (files.migrations.Pairwise fun before after =>
        Text.Utf8.encode before.toList < Text.Utf8.encode after.toList) ∧
      (∀ name, name ∈ files.migrations ↔ NamesMigration name ∧
        ∃ contents, LastInserted inserts name contents ∧ 2 ≤ contents.utf8ByteSize) ∧
      (∀ name contents, files.readText name = .ok contents ↔ LastInserted inserts name contents) ∧
      (∀ name ∈ inserts.map Prod.fst, ∃ contents, files.readText name = .ok contents) ∧
      (∀ name ∈ files.migrations, ∃ contents, files.readText name = .ok contents) ∧
      files.size = (inserts.map Prod.fst).dedup.length ∧
      (∀ others : List (String × String), (∀ name contents,
          LastInserted inserts name contents ↔ LastInserted others name contents) →
        FileSet.migrations (NameMap.ofList others) = files.migrations) ∧
      (∀ (projects : Projects) verbose supply next project,
        printNamed projects verbose supply next project =
            print projects verbose supply next project ∧
          ∀ file, print projects verbose supply next project ≠ .error (.notFound file)) ∧
      ∀ (σ : Type) (database : Database σ) dialect (projects : Projects) verbose supply next project
          state,
        runNamed database dialect projects verbose supply next project state =
            run database dialect projects verbose supply next project state ∧
          ∀ file, (run database dialect projects verbose supply next project state).result ≠
            .error (.notFound file) := by
  intro files
  have listed (name : String) : name ∈ files.migrations ↔ NamesMigration name ∧
      ∃ contents, LastInserted inserts name contents ∧ 2 ≤ contents.utf8ByteSize := by
    simp only [Store.lastInserted_iff]
    exact Store.mem_migrations_iff
  have reads (name contents : String) :
      files.readText name = .ok contents ↔ LastInserted inserts name contents := by
    rw [Store.readText_eq_ok_iff, Store.lastInserted_iff]
  refine ⟨Store.migrations_bytewise files, listed, reads, ?_, ?_, Store.size_ofList inserts, ?_, ?_,
    ?_⟩
  · intro name inserted
    obtain ⟨contents, last⟩ := Store.exists_lastInserted_iff.mpr inserted
    exact ⟨contents, (reads name contents).mpr last⟩
  · intro name member
    obtain ⟨-, contents, last, -⟩ := (listed name).mp member
    exact ⟨contents, (reads name contents).mpr last⟩
  · intro others same
    rw [← Store.ofList_congr same]
  · intro projects verbose supply next project
    exact ⟨printNamed_eq projects verbose supply next project,
      print_finds projects verbose supply next project⟩
  · intro σ database dialect projects verbose supply next project state
    exact ⟨runNamed_eq database dialect projects verbose supply next project state,
      run_finds database dialect projects verbose supply next project state⟩

def repeatedInserts : List (String × String) :=
  [("b.up.sql", "--"), ("a.up.sql", "-"), ("notes.txt", "é"), ("a.up.sql", "é")]

def directInserts : List (String × String) :=
  [("notes.txt", "é"), ("a.up.sql", "é"), ("b.up.sql", "--")]

theorem repeatedInserts_listed :
    (∀ name contents, LastInserted repeatedInserts name contents ↔
      LastInserted directInserts name contents) ∧
    FileSet.migrations (NameMap.ofList directInserts) =
      FileSet.migrations (NameMap.ofList repeatedInserts) ∧
    FileSet.migrations (NameMap.ofList repeatedInserts) = ["a.up.sql", "b.up.sql"] := by
  have equal : NameMap.ofList repeatedInserts = NameMap.ofList directInserts := by rfl
  have same : ∀ name contents, LastInserted repeatedInserts name contents ↔
      LastInserted directInserts name contents := by
    intro name contents
    rw [Store.lastInserted_iff, Store.lastInserted_iff, equal]
  obtain ⟨-, -, -, -, -, -, alike, -⟩ := last_contents_decide repeatedInserts
  exact ⟨same, alike directInserts same, by decide +kernel⟩

end SqlMigrations.Runner
