import SqlMigrations.Proofs.Checkpoint.Keys
import SqlMigrations.Proofs.Runner.FirstFailure
import SqlMigrations.Proofs.Runner.Rulings
import SqlMigrations.Proofs.Statement.Calls
import SqlMigrations.Text.Case

/-!
Projects do not interfere. What a run does follows from what the database holds of its own project,
and a run changes no row with another key, so it does not matter which of two projects comes first
if the database tells their names apart.
-/

namespace SqlMigrations

namespace Contents

variable {keys : Collation} {dialect : Dialect} {project : String}
  {first second third : Contents keys}

def AgreeOn (project : String) (first second : Contents keys) : Prop :=
  ∀ filename, AgreeAt project filename first second

namespace AgreeOn

theorem symm (agree : AgreeOn project first second) : AgreeOn project second first :=
  fun filename => (agree filename).symm

theorem trans (agree : AgreeOn project first second) (further : AgreeOn project second third) :
    AgreeOn project first third :=
  fun filename => (agree filename).trans (further filename)

theorem perform_none (agree : AgreeOn project first second) (statements : List String) :
    AgreeOn project (first.perform none statements) (second.perform none statements) :=
  fun filename => (first.perform_none_agreeAt statements).trans
    ((agree filename).trans (second.perform_none_agreeAt statements).symm)

theorem advance (agree : AgreeOn project first second) (filename : String)
    (statements : List String) (index : Int) (status : String) :
    AgreeOn project (first.advance dialect project filename statements index status)
      (second.advance dialect project filename statements index status) := by
  refine fun other => ⟨?_, ?_⟩
  · simp only [Contents.advance, save, perform, CheckpointRows.row?_save, (agree filename).stored,
      (agree other).stored]
  · by_cases same : other = filename
    · subst same
      rw [applied_advance_same, applied_advance_same, (agree other).applied]
    · have different : some (project, filename) ≠ some (project, other) := by
        simpa using Ne.symm same
      exact (applied_perform_other statements different).trans
        ((agree other).applied.trans (applied_perform_other statements different).symm)

end AgreeOn

end Contents

/-- Whether no file of a store has a call of `uuid()`. -/
def Store.Projects.CallFree (projects : Store.Projects) : Prop :=
  ∀ project ∈ projects.entries, ∀ file ∈ project.2.entries, Statement.CallFree file.2

instance (projects : Store.Projects) : Decidable projects.CallFree :=
  inferInstanceAs
    (Decidable (∀ project ∈ projects.entries, ∀ file ∈ project.2.entries,
      Statement.CallFree file.2))

namespace Runner

variable {σ α : Type} {dialect : Dialect} {keys : Collation} {discards : Bool}
  {database : Database σ} {view : σ → Session keys} {refusal? : String → Option String} {state : σ}
  {project : String} {file : Store.PlannedFile} {before after first second : Contents keys}
  {call other : Call} {mayLose : Nat → Prop}

/-- Whether rulings differ at most in what they leave of other projects. -/
structure Ruling.Alike (project : String) (first second : Ruling keys α) : Prop where
  result : first.result = second.result
  sent : first.sent = second.sent
  contents : Contents.AgreeOn project first.contents second.contents

theorem fileRuling_alike (agree : Contents.AgreeOn project first second) :
    Ruling.Alike project (fileRuling dialect refusal? project file first)
      (fileRuling dialect refusal? project file second) := by
  have checkpoint := (agree file.name).checkpoint
  have left : pending first project file = pending second project file := by
    simp [pending, checkpoint]
  simp only [fileRuling, checkpoint, left]
  split
  · exact ⟨rfl, rfl, agree⟩
  · split
    · exact ⟨rfl, rfl, agree.advance _ _ _ _⟩
    · exact ⟨rfl, rfl, agree.advance _ _ _ _⟩

theorem planRuling_alike (plan : List Store.PlannedFile) :
    ∀ {first second : Contents keys}, Contents.AgreeOn project first second →
      Ruling.Alike project (planRuling dialect refusal? project plan first)
        (planRuling dialect refusal? project plan second) := by
  induction plan with
  | nil => exact fun agree => ⟨rfl, rfl, agree⟩
  | cons file rest induction =>
    intro first second agree
    have alike : Ruling.Alike project (fileRuling dialect refusal? project file first)
      (fileRuling dialect refusal? project file second) := fileRuling_alike agree
    obtain ⟨result, sent, contents⟩ := alike
    simp only [planRuling, result, sent]
    cases (fileRuling dialect refusal? project file second).result with
    | error problem => exact ⟨rfl, rfl, contents⟩
    | ok outcome =>
      have later := induction contents
      exact ⟨by simp only [later.result], by simp only [later.sent], later.contents⟩

/-- Whether two calls run one project of one store. -/
structure Call.Alike (call other : Call) : Prop where
  projects : call.projects = other.projects
  project : call.project = other.project

theorem Call.plan_of_callFree {files : Store.FileSet} (free : call.projects.CallFree)
    (found : call.projects.find call.project = .ok files) :
    call.plan files = files.eligible.map fun entry =>
      ⟨entry.1, (Statement.pieces entry.2.toList).map String.ofList⟩ := by
  have held : call.projects.get? call.project = some files := by
    unfold Store.Projects.find at found
    split at found
    · rename_i kept get
      rw [get, Except.ok.inj found]
    · contradiction
  have plain := free (call.project, files) (NameMap.mem_entries_iff.mpr held)
  have eligible : ∀ entry ∈ files.eligible, Statement.CallFree entry.2 :=
    fun entry member => plain entry (List.mem_filter.mp member).1
  exact congrArg Prod.fst (Store.planFiles_of_callFree call.supply call.next eligible)

theorem Call.ruling_alike (alike : call.Alike other) (free : call.projects.CallFree)
    (agree : Contents.AgreeOn call.project first second) :
    Ruling.Alike call.project (call.ruling refusal? dialect first)
      (other.ruling refusal? dialect second) := by
  have sameStore := alike.projects
  have sameProject := alike.project
  simp only [Call.ruling, ← sameStore, ← sameProject]
  cases found : call.projects.find call.project with
  | error problem => exact ⟨rfl, rfl, agree⟩
  | ok files =>
    have found' : other.projects.find other.project = .ok files := by
      rwa [← sameStore, ← sameProject]
    have same : other.plan files = call.plan files := by
      rw [Call.plan_of_callFree free found, Call.plan_of_callFree (sameStore ▸ free) found']
    have rulings : Ruling.Alike call.project
        (planRuling dialect refusal? call.project (call.plan files)
          (first.perform none (bootstrapStatements dialect)))
        (planRuling dialect refusal? call.project (call.plan files)
          (second.perform none (bootstrapStatements dialect))) :=
      planRuling_alike (call.plan files) (agree.perform_none _)
    simp only [same]
    exact ⟨by simp only [rulings.result], by simp only [rulings.sent], rulings.contents⟩

/-- Every row that a call inserts, changes or removes has the key of a file that the call
applies. -/
def Call.ChangesOwn (call : Call) (before after : Contents keys) : Prop :=
  ∀ row : Checkpoint, ¬ (row ∈ after.table.entries ↔ row ∈ before.table.entries) →
    ∃ files, call.projects.find call.project = .ok files ∧
      ∃ name ∈ files.migrations, keys.SameKey row.key (call.project, name)

theorem Applied.keyed {result : Except MigrationError FileOutcome}
    (applied : Applied dialect mayLose project file before result after)
    (keyed : before.table.Keyed) : after.table.Keyed := by
  cases applied with
  | skipped | undone => exact keyed
  | finished | stopped | lost => exact keyed.save dialect _

theorem Called.keyed {result : Except MigrationError RunReport}
    (called : Called dialect discards call before result after) (keyed : before.table.Keyed) :
    after.table.Keyed :=
  called.preserves (fun contents => contents.table.Keyed) (fun _ _ held => held)
    (fun _ _ _ _ _ _ _ applied held => applied.keyed held) keyed

theorem Called.changesOwn {result : Except MigrationError RunReport}
    (called : Called dialect discards call before result after) (keyed : before.table.Keyed) :
    call.ChangesOwn before after := by
  intro row changed
  by_contra foreign
  refine changed ?_
  rw [(called.keyed keyed).mem_iff, keyed.mem_iff]
  have agree : Contents.AgreeAt row.project row.filename after before :=
    called.other_file fun files found name eligible same =>
      foreign ⟨files, found, name, eligible, same⟩
  rw [agree.stored]

/-- The effects of a project are recorded under its very name. -/
theorem Called.applied_other {result : Except MigrationError RunReport}
    (called : Called dialect discards call before result after) (different : project ≠ call.project)
    (filename : String) : after.applied project filename = before.applied project filename := by
  refine called.preserves
    (fun contents => contents.applied project filename = before.applied project filename)
    ?_ ?_ rfl
  · intro contents done _ same
    exact (Contents.applied_perform_none done).trans same
  · intro files found file member contents next result applied same
    have foreign : some (call.project, file.name) ≠ some (project, filename) :=
      fun equal => different (Prod.mk.inj (Option.some.inj equal)).1.symm
    cases applied with
    | skipped | undone => exact same
    | finished | stopped | lost => exact (Contents.applied_perform_other _ foreign).trans same

/-- A call on a steady database as its ruling describes it, with what it leaves alone. -/
structure Ruled (dialect : Dialect) (database : Database σ) (view : σ → Session keys)
    (refusal? : String → Option String) (call : Call) (state : σ) (before after : Contents keys) :
    Prop where
  result : (call.run database dialect state).result = (call.ruling refusal? dialect before).result
  sent : statementsOf (call.transcript database dialect state) =
    (call.ruling refusal? dialect before).sent
  contents : after = (call.ruling refusal? dialect before).contents
  final : view (call.run database dialect state).state = ⟨after, none⟩
  keyed : after.table.Keyed
  own : call.ChangesOwn before after
  others : ∀ project, ¬ keys.Same project call.project → Contents.AgreeOn project after before
  applied : ∀ project, project ≠ call.project → ∀ filename,
    after.applied project filename = before.applied project filename

theorem Call.run_ruled (steady : database.Steady dialect view refusal?) (call : Call)
    (idle : view state = ⟨before, none⟩) (keyed : before.table.Keyed) :
    ∃ after, Ruled dialect database view refusal? call state before after := by
  obtain ⟨result, contents, sent⟩ := call.run_ruling steady idle
  obtain ⟨after, called, final⟩ := call.run_called steady.rules idle
  have same : after = (call.ruling refusal? dialect before).contents :=
    congrArg Session.durable (final.symm.trans contents)
  exact ⟨after, result, sent, same, final, called.keyed keyed, called.changesOwn keyed,
    fun _ apart => called.other apart, fun _ different => called.applied_other different⟩

theorem Ruled.alike {left right leftAfter rightAfter : Contents keys} {leftState rightState : σ}
    (one : Ruled dialect database view refusal? call leftState left leftAfter)
    (another : Ruled dialect database view refusal? other rightState right rightAfter)
    (alike : call.Alike other) (free : call.projects.CallFree)
    (agree : Contents.AgreeOn call.project left right) :
    (call.run database dialect leftState).result = (other.run database dialect rightState).result ∧
      statementsOf (call.transcript database dialect leftState) =
        statementsOf (other.transcript database dialect rightState) ∧
      Contents.AgreeOn call.project leftAfter rightAfter := by
  have rulings : Ruling.Alike call.project (call.ruling refusal? dialect left)
      (other.ruling refusal? dialect right) := Call.ruling_alike alike free agree
  refine ⟨?_, ?_, ?_⟩
  · rw [one.result, another.result, rulings.result]
  · rw [one.sent, another.sent, rulings.sent]
  · rw [one.contents, another.contents]
    exact rulings.contents

/-- Contents agree about a project if they do about one with the same name to the database, as far
as rows go. -/
theorem stored_of_same {owner : String} (agree : Contents.AgreeOn owner first second)
    (same : keys.Same project owner) (filename : String) :
    first.table.row? project filename = second.table.row? project filename := by
  have one : keys.SameKey (project, filename) (owner, filename) := ⟨same, rfl⟩
  rw [CheckpointRows.row?_congr one, CheckpointRows.row?_congr one, (agree filename).stored]

theorem perm_of_agreeOn {p q : String} (keyedFirst : first.table.Keyed)
    (keyedSecond : second.table.Keyed) (onP : Contents.AgreeOn p first second)
    (onQ : Contents.AgreeOn q first second)
    (elsewhere : ∀ project, ¬ keys.Same project p → ¬ keys.Same project q →
      Contents.AgreeOn project first second) :
    first.table.entries.Perm second.table.entries := by
  refine CheckpointRows.perm_of_row?_eq keyedFirst keyedSecond fun project filename => ?_
  by_cases ownP : keys.Same project p
  · exact stored_of_same onP ownP filename
  · by_cases ownQ : keys.Same project q
    · exact stored_of_same onQ ownQ filename
    · exact (elsewhere project ownP ownQ filename).stored

def twoProjects : Store.Projects :=
  (NameMap.empty.insert "p" (NameMap.empty.insert "a.up.sql" "A;\nC;\n")).insert "q"
    (NameMap.empty.insert "a.up.sql" "B;\n")

def callOf (project : String) : Call :=
  ⟨twoProjects, project, false, noSupply, 0⟩

def refusesC (sql : String) : Option String :=
  if sql = "C" then some "no such table" else none

def databaseWithoutC (keys : Collation) (dialect : Dialect) : Database (Session keys) :=
  refusingDatabase dialect refusesC

/-- Compares letters without their case, as MySQL does unless it is told otherwise. -/
def caseless : Collation :=
  ⟨Text.lowered⟩

/-- Project `p`, of which `C` is refused, and project `q` in either order. -/
def EitherOrder (keys : Collation) (dialect : Dialect) : Prop :=
  let database := databaseWithoutC keys dialect
  let afterP := ((callOf "p").run database dialect Session.unused).state
  let afterQ := ((callOf "q").run database dialect Session.unused).state
  ∃ lastPQ lastQP,
    ((callOf "q").run database dialect afterP).state = ⟨lastPQ, none⟩ ∧
    ((callOf "p").run database dialect afterQ).state = ⟨lastQP, none⟩ ∧
    lastPQ.table.entries =
      [⟨"p", "a.up.sql", 0, "no such table"⟩, ⟨"q", "a.up.sql", 0, statusOk⟩] ∧
    lastPQ.table.entries.Perm lastQP.table.entries ∧
    ((callOf "p").run database dialect afterQ).result =
      .error (.statement "a.up.sql" 1 "no such table") ∧
    statementsOf ((callOf "q").transcript database dialect afterP) =
      bootstrapStatements dialect ++ ["B"]

/-- To MySQL the rows of `p` are those of `P` too, so a run of `P` skips what was applied for
`p`. -/
example :
    let database : Database (Session caseless) := refusingDatabase .mysql fun _ => none
    let projects := twoProjects.insert "P" (NameMap.empty.insert "a.up.sql" "D;\n")
    let lower : Call := ⟨projects, "p", false, noSupply, 0⟩
    let upper : Call := ⟨projects, "P", false, noSupply, 0⟩
    (upper.run database .mysql (lower.run database .mysql Session.unused).state).result =
      .ok ⟨"P", [⟨"a.up.sql", 0, true, 1, statusOk⟩]⟩ := by
  decide +kernel

end Runner

end SqlMigrations
