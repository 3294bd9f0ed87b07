import Mathlib
import SqlMigrations.Migration.Host
import SqlMigrations.Proofs.Runner.Reports
import SqlMigrations.Proofs.Runner.RunErrors
import SqlMigrations.Proofs.Statement.Calls

namespace SqlMigrations

namespace Runner

variable {σ α : Type} {dialect : Dialect} {keys : Collation} {database : Database σ} {state : σ}
  {lines : List String}

/-- A statement of a file and its place there. -/
structure Shown where
  filename : String
  index : Nat
  statement : String
  deriving Repr, DecidableEq

def numbered (filename : String) (index : Nat) (statements : List String) : List Shown :=
  (statements.zipIdx index).map fun entry => ⟨filename, entry.2, entry.1⟩

def textAfter? (lead line : String) : Option String :=
  (Text.stripStart? lead.toList line.toList).map String.ofList

/-- Reads printed lines as an operator does: between empty lines stand the index of a statement and
its text, and every other line names the file of the statements behind it. -/
def readShown? : (filename : String) → List String → Option (List Shown)
  | _, [] => some []
  | filename, "" :: position :: statement :: "" :: rest =>
    ((textAfter? "-- Statement index: " position).bind String.toNat?).bind fun index =>
      (readShown? filename rest).map (⟨filename, index, statement⟩ :: ·)
  | _, line :: rest =>
    (textAfter? "-- Migrations file: " line).bind fun filename => readShown? filename rest

theorem textAfter?_append (lead text : String) : textAfter? lead (lead ++ text) = some text := by
  rw [textAfter?, String.toList_append, Text.stripStart?_eq_some_iff.mpr rfl, Option.map_some,
    String.ofList_toList]

theorem readShown?_statements (filename : String) (statements : List String) :
    ∀ index, readShown? filename (echoStatements true index statements ++ lines) =
      (readShown? filename lines).map (numbered filename index statements ++ ·) := by
  induction statements with
  | nil =>
    intro index
    simp [echoStatements, numbered]
  | cons statement rest induction =>
    intro index
    have shown : echoStatements true index (statement :: rest) ++ lines =
        "" :: ("-- Statement index: " ++ toString index) :: statement :: "" ::
          (echoStatements true (index + 1) rest ++ lines) := by
      simp [echoStatements, echo]
    have number : (toString index).toNat? = some index := Nat.toNat?_repr index
    rw [shown, readShown?, textAfter?_append, Option.bind_some, number, Option.bind_some, induction]
    simp [numbered, Function.comp_def]

theorem readShown?_planned (plan : List Store.PlannedFile) :
    ∀ filename, readShown? filename (plan.flatMap (echoPlanned true)) =
      some (plan.flatMap fun file => numbered file.name 0 file.statements) := by
  induction plan with
  | nil => exact fun _ => rfl
  | cons file rest induction =>
    intro filename
    have named : textAfter? "-- Migrations file: " (echoFile file.name) = some file.name :=
      textAfter?_append _ _
    have filled : echoFile file.name ≠ "" := by
      intro empty
      rw [empty] at named
      contradiction
    rw [List.flatMap_cons, echoPlanned, List.cons_append, readShown?, named, Option.bind_some,
      readShown?_statements, induction]
    · rfl
    · exact fun _ _ _ empty _ => filled empty

def Call.print (call : Call) (verbose : Bool) : Except MigrationError Printed :=
  Runner.print call.projects verbose call.supply call.next call.project

theorem Call.print_eq (call : Call) (verbose : Bool) :
    call.print verbose = (call.projects.find call.project).map fun files =>
      ⟨files.migrations, (call.plan files).flatMap (echoPlanned verbose),
        (files.plan call.supply call.next).2⟩ := by
  rw [Call.print, Runner.print]
  cases call.projects.find call.project with
  | error problem => rfl
  | ok files =>
    simp only [Except.map, Store.FileSet.plan_names]
    rfl

/-- Printing and running miss the same projects. -/
theorem Call.unknown_iff (call : Call) (database : Database σ) (dialect : Dialect) (state : σ)
    (verbose : Bool) :
    call.print verbose = .error (.unknownProject call.project) ↔
      (call.run database dialect state).result = .error (.unknownProject call.project) := by
  rw [call.print_eq]
  cases found : call.projects.find call.project with
  | error problem =>
    obtain rfl := find_error found
    have missed : (call.run database dialect state).result =
        .error (.unknownProject call.project) := by
      simp only [Call.run, Runner.run, found]
    exact iff_of_true rfl missed
  | ok files =>
    have printed (printing : Printed) :
        (.ok printing : Except MigrationError Printed) ≠ .error (.unknownProject call.project) := by
      intro unknown
      cases unknown
    refine iff_of_false (printed _) fun unknown => ?_
    simp only [Call.run, Runner.run, found, runPlan] at unknown
    cases result : (bootstrap database dialect call.verbose state).result with
    | error problem =>
      simp only [result] at unknown
      rw [Except.error.inj unknown] at result
      exact bootstrap_fails database dialect call.verbose state _ result
    | ok _ =>
      simp only [result] at unknown
      exact applyFiles_fails database dialect call.verbose call.project _ _ _ (error_of_map unknown)

theorem Accurate.whole {project : String} {before after : Contents keys}
    {plan : List Store.PlannedFile} {outcomes : List FileOutcome}
    (all : List.Forall₂ (Accurate project before after) plan outcomes)
    (fresh : ∀ filename, before.row project filename = none) :
    List.Forall₂ (fun file outcome => outcome.applied = file.statements.length) plan outcomes := by
  refine all.imp fun file outcome accurate => ?_
  have unmarked : ¬ MarkedComplete project file.name before := by
    rintro ⟨index, row⟩
    rw [fresh] at row
    contradiction
  have counted := accurate.applied (Bool.eq_false_iff.mpr (mt accurate.skipped.mp unmarked))
  rwa [fresh] at counted

/-- The statements of a file as they are sent for it, numbered from 0. -/
def Block.shown (block : Block) : List Shown :=
  numbered block.filename 0 block.statements

/-- What printing foresees of a run that returns a report. -/
structure Foreseen (dialect : Dialect) (printed : Printed) (blocks : List Block)
    (transcript : List Exchange) (report : RunReport) : Prop where
  names : printed.files = report.files.map FileOutcome.filename
  shown : readShown? "" printed.lines = some (blocks.flatMap Block.shown)
  sent : ∃ sql count, bootstrapStatements dialect = [sql] ∧
    transcript = ⟨.statement sql, .ok count⟩ :: blocks.flatMap Block.exchanges

theorem print_foresees {discards : Bool} {view : σ → Session keys} {before : Contents keys}
    (rules : database.Follows dialect discards view) (idle : view state = ⟨before, none⟩)
    (call : Call) (apart : call.NamesApart keys)
    (fresh : ∀ filename, before.row call.project filename = none)
    (fine : smooth dialect (call.transcript database dialect state) = true) {printed : Printed}
    (prints : call.print true = .ok printed) :
    ∃ report, (call.run database dialect state).result = .ok report ∧
      Foreseen dialect printed (call.blocks database dialect state)
        (call.transcript database dialect state) report := by
  rw [call.print_eq] at prints
  cases found : call.projects.find call.project with
  | error problem => simp [found, Except.map] at prints
  | ok files =>
    rw [found] at prints
    obtain rfl := Except.ok.inj prints
    have success := (call_orderly database dialect call state).complete_of_smooth found fine
    cases succeeded : (call.run database dialect state).result with
    | error problem => simp [succeeded, Except.isOk, Except.toBool] at success
    | ok report =>
      obtain ⟨others, reported⟩ := Call.run_reported succeeded
      obtain rfl : files = others := Except.ok.inj (found.symm.trans reported.found)
      obtain ⟨after, called, final⟩ := call.run_called rules idle
      rw [succeeded] at called
      have bounded : ∀ filename,
          (before.checkpoint call.project filename).index < indexBound := by
        intro filename
        rw [Contents.checkpoint_of_no_row (fresh filename)]
        exact (by decide : (-1 : Int) < indexBound)
      obtain ⟨_, rows⟩ := called.accurate found apart bounded
      have whole := reported.sent.whole (Accurate.whole rows fresh)
      refine ⟨report, rfl, ?_, ?_, reported.transcript⟩
      · rw [Accurate.filenames rows]
        exact (Store.FileSet.plan_names files call.supply call.next).symm
      · rw [readShown?_planned, ← whole, List.flatMap_map]
        rfl

theorem Database.mirrors_refl (database : Database σ) :
    Database.Mirrors (fun _ => True) database database Eq := by
  rintro command - s _ rfl
  exact ⟨rfl, rfl⟩

/-- Showing statements makes no difference to what is returned and sent. -/
theorem Call.run_verbose (call : Call) (database : Database σ) (dialect : Dialect) (state : σ)
    (verbose : Bool) :
    ({ call with verbose := verbose }.run database dialect state).result =
        (call.run database dialect state).result ∧
      { call with verbose := verbose }.transcript database dialect state =
        call.transcript database dialect state := by
  constructor
  · exact (run_mirrors (Database.mirrors_refl database) dialect call.projects verbose call.verbose
      call.supply call.next call.project rfl).1
  · exact congrArg Prod.snd (run_mirrors (Database.mirrors_refl database.transcribing) dialect
      call.projects verbose call.verbose call.supply call.next call.project rfl).2

end Runner

open Runner

variable {σ : Type}

theorem migrate_unapplied (system : Store.FileSystem) (database : Database σ)
    (connection : Course Dialect) {options : MigrateOptions} (unapplied : options.apply = false)
    (supply : Statement.Supply) (next : Nat) (state : σ) :
    (migrate system database connection options supply next state).state = state := by
  rw [migrate]
  cases (Store.load system NameMap.empty options).result with
  | error problem => rfl
  | ok _ =>
    simp only [unapplied, printProject]
    cases Runner.print _ _ _ _ _ <;> rfl

/-- A host is left as it was by a migration that applies nothing, and its databases get no text. -/
theorem Host.migrate_unapplied (host : Host) (connecting : ConnectOptions)
    (cancelAfter : Option Duration) (script : Dialect → Script) {options : MigrateOptions}
    (unapplied : options.apply = false) (supply : Statement.Supply) (next : Nat) :
    (host.migrate connecting cancelAfter script options supply next).1.state.texts = [] ∧
      (host.migrate connecting cancelAfter script options supply next).2 = host := by
  have unreached : reachesDatabase host.around.tree.fileSystem options = false := by
    rw [reachesDatabase, unapplied, Bool.false_and]
  simp only [Host.migrate, unreached, SqlMigrations.migrate_unapplied _ _ _ unapplied]
  exact ⟨rfl, rfl⟩

/-- The dry run of a project and a run of it: they miss the same projects, and what is printed is
what is sent, statement by statement, to a database without rows of the project that tells its files
apart. Neither showing the
statements of a run nor the database options of a dry run lead to any command. -/
theorem dry_run_shows_the_run (call : Call) (database : Database σ) (dialect : Dialect)
    (state : σ) :
    (∀ verbose, call.print verbose = .error (.unknownProject call.project) ↔
      (call.run database dialect state).result = .error (.unknownProject call.project)) ∧
    (∀ {keys : Collation} {discards : Bool} {view : σ → Session keys} {before : Contents keys}
        {printed : Printed},
      database.Follows dialect discards view → view state = ⟨before, none⟩ →
      call.NamesApart keys → (∀ filename, before.row call.project filename = none) →
      smooth dialect (call.transcript database dialect state) = true →
      call.print true = .ok printed →
        ∃ report, (call.run database dialect state).result = .ok report ∧
          Foreseen dialect printed (call.blocks database dialect state)
            (call.transcript database dialect state) report) ∧
    (∀ supply next,
      Statement.split supply next (bootstrapSql dialect) = (bootstrapStatements dialect, next)) ∧
    (∀ verbose, ({ call with verbose := verbose }.run database dialect state).result =
        (call.run database dialect state).result ∧
      { call with verbose := verbose }.transcript database dialect state =
        call.transcript database dialect state) ∧
    ∀ {options : MigrateOptions}, options.apply = false →
      (∀ (system : Store.FileSystem) (connection : Course Dialect) (supply : Statement.Supply)
          (next : Nat),
        (migrate system database.transcribing connection options supply next (state, [])).state =
          (state, [])) ∧
      ∀ (host : Host) (connecting : ConnectOptions) (cancelAfter : Option Duration)
          (script : Dialect → Script) (supply : Statement.Supply) (next : Nat),
        (host.migrate connecting cancelAfter script options supply next).1.state.texts = [] ∧
          (host.migrate connecting cancelAfter script options supply next).2 = host :=
  ⟨call.unknown_iff database dialect state,
    fun rules idle apart fresh fine prints =>
      print_foresees rules idle call apart fresh fine prints,
    bootstrap_draws_nothing dialect, call.run_verbose database dialect state,
    fun unapplied =>
      ⟨fun system connection supply next =>
          migrate_unapplied system database.transcribing connection unapplied supply next _,
        fun host connecting cancelAfter script supply next =>
          host.migrate_unapplied connecting cancelAfter script unapplied supply next⟩⟩

/-- Two files with calls of `uuid()`, for which numbered identifiers are put in. -/
def withCalls : Call :=
  ⟨NameMap.empty.insert "p"
    ((NameMap.empty.insert "a.up.sql" "A uuid();\nB UUID() uuid();\n").insert
    "b.up.sql" "C uuid();\n"), "p", false, fun number => "id".toList ++ (toString number).toList, 0⟩

theorem withCalls_dry_run :
    (∃ report, (withCalls.run faultlessPostgres .postgres (Session.unused, 0)).result = .ok report ∧
      Foreseen .postgres
        ⟨["a.up.sql", "b.up.sql"],
          ["-- Migrations file: a.up.sql", "", "-- Statement index: 0", "A 'id0'", "",
            "", "-- Statement index: 1", "B 'id1' 'id2'", "",
            "-- Migrations file: b.up.sql", "", "-- Statement index: 0", "C 'id3'", ""], 4⟩
        (withCalls.blocks faultlessPostgres .postgres (Session.unused, 0))
        (withCalls.transcript faultlessPostgres .postgres (Session.unused, 0)) report) ∧
    ∀ (host : Host) (connecting : ConnectOptions) (script : Dialect → Script),
      (host.migrate connecting none script MigrateOptions.default noSupply 0).2 = host := by
  have rules : faultlessPostgres.Follows .postgres false Prod.fst :=
    faultyDatabase_follows .postgres false _
  have prints : withCalls.print true = .ok ⟨["a.up.sql", "b.up.sql"],
      ["-- Migrations file: a.up.sql", "", "-- Statement index: 0", "A 'id0'", "",
        "", "-- Statement index: 1", "B 'id1' 'id2'", "",
        "-- Migrations file: b.up.sql", "", "-- Statement index: 0", "C 'id3'", ""], 4⟩ := by
    decide +kernel
  have fine : smooth .postgres
      (withCalls.transcript faultlessPostgres .postgres (Session.unused, 0)) = true := by
    decide +kernel
  obtain ⟨_, foreseen, _, _, unapplied⟩ :=
    dry_run_shows_the_run withCalls faultlessPostgres .postgres (Session.unused, 0)
  exact ⟨foreseen rules rfl withCalls.namesApart_exact (fun _ => rfl) fine prints,
    fun host connecting script =>
    ((unapplied rfl).2 host connecting none script noSupply 0).2⟩

end SqlMigrations
