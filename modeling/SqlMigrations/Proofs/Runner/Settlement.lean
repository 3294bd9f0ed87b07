import SqlMigrations.Proofs.Database.Faulty
import SqlMigrations.Proofs.Runner.Failures
import SqlMigrations.Proofs.Runner.Transcripts

namespace SqlMigrations

/-- Databases that answer alike up to the release of a lock. -/
def Database.AgreesBeforeRelease {σ : Type} (first second : Database σ) : Prop :=
  ∀ command state, command.isRelease = false → first.send command state = second.send command state

namespace Runner

variable {σ : Type} {dialect : Dialect} {keys : Collation} {database : Database σ}
  {view : σ → Session keys} {state : σ} {project filename : String} {file : Store.PlannedFile}
  {before after : Contents keys} {exchanges : List Exchange}

/-- The states afterwards may differ, as the lock is released then. -/
theorem applyFile_result_of_agrees {first second : Database σ}
    (agreement : first.AgreesBeforeRelease second) (dialect : Dialect) (verbose : Bool)
    (project : String) (file : Store.PlannedFile) (state : σ) :
    (applyFile first dialect verbose project file state).result =
      (applyFile second dialect verbose project file state).result := by
  have mirrors : Database.Mirrors (fun command => command.isRelease = false) first second Eq := by
    rintro command before s _ rfl
    rw [agreement command s before]
    exact ⟨rfl, rfl⟩
  have same : SameRun (fun _ _ => True) (applyFile first dialect verbose project file state)
      (applyFile second dialect verbose project file state) :=
    (counterpart_of_mirrors mirrors dialect).applyFile verbose verbose project file
      (mirrors .connect rfl rfl) (fun _ => trivial) (fun _ => trivial)
  exact same.1

/-- The effects of more statements of a file have come in, together with its new row. -/
structure Advanced (project filename : String) (statements : List String) (row : Int × String)
    (before after : Contents keys) : Prop where
  effects : after.effects = before.effects ++ statements.map (Effect.mk (some (project, filename)))
  row : after.row project filename = some row
  others : ∀ otherProject otherFile, ¬ keys.SameKey (otherProject, otherFile) (project, filename) →
    after.row otherProject otherFile = before.row otherProject otherFile

theorem advanced_advance (statements : List String) (index : Int) (status : String) :
    Advanced project filename statements (index, status) before
      (before.advance dialect project filename statements index status) :=
  ⟨rfl, Contents.row_advance_same statements index status,
    fun _ _ apart => (Contents.advance_agreeAt apart ..).row⟩

/-- What each result of applying a file says of the contents before and after. The statements that
are still to do are those behind the ones that the checkpoint covers. An error that is not about one
of them is that of a command which failed, among those that were sent for the file. -/
def Settled (dialect : Dialect) (project : String) (file : Store.PlannedFile)
    (exchanges : List Exchange) (before after : Contents keys) :
    Except MigrationError FileOutcome → Prop
  | .error (.statement filename index message) =>
    filename = file.name ∧ (before.checkpoint project file.name).covered ≤ index ∧
      index < file.statements.length ∧
      Advanced project file.name
        ((file.statements.take index).drop (before.checkpoint project file.name).covered)
        ((index : Int) - 1, message) before after
  | .error problem =>
    (∃ exchange ∈ exchanges, exchange.problem? dialect = some problem) ∧ after = before
  | .ok outcome =>
    outcome.filename = file.name ∧
      if outcome.skipped then
        outcome.applied = 0 ∧ after = before ∧ outcome.status = statusOk ∧
          before.row project file.name = some (outcome.index, statusOk)
      else
        outcome.applied = (pending before project file).length ∧
          Advanced project file.name (pending before project file) (outcome.index, outcome.status)
            before after

theorem settled_of_failure {problem : MigrationError} (failure : problem.IsCommandFailure)
    (explained : Explained dialect exchanges (.error problem : Except MigrationError FileOutcome)) :
    Settled dialect project file exchanges before before (.error problem) := by
  have sent := explained problem rfl
  cases problem with
  | connection | driver => exact ⟨sent.resolve_left id, rfl⟩
  | _ => cases failure

theorem Applied.settled {result : Except MigrationError FileOutcome}
    (applied : Applied dialect (Discardable false) project file before result after)
    (explained : Explained dialect exchanges result)
    (range : (before.checkpoint project file.name).InRange) :
    Settled dialect project file exchanges before after result := by
  cases applied with
  | skipped complete =>
    obtain ⟨index, row⟩ := Contents.isComplete_checkpoint_iff.mp complete
    rw [Contents.checkpoint_of_row row]
    exact ⟨rfl, rfl, rfl, rfl, row⟩
  | undone problem failure => exact settled_of_failure failure explained
  | finished => exact ⟨rfl, rfl, advanced_advance _ _ _⟩
  | stopped incomplete count within message index reached =>
    have position : (before.checkpoint project file.name).covered + count <
        file.statements.length := by
      rw [pending, List.length_drop] at within
      omega
    rw [range.reached] at reached
    refine ⟨rfl, Nat.le_add_right _ _, position, ?_⟩
    rw [List.drop_take, Nat.add_sub_cancel_left, ← reached]
    exact advanced_advance _ _ _
  | lost _ _ allowed => cases allowed

/-- Applying a file ends in one of four ways, and the result tells which. What releasing the lock
comes to makes no difference to it. -/
theorem applyFile_settles (rules : database.Transactional dialect view) (verbose : Bool)
    (project : String) (file : Store.PlannedFile) (idle : view state = ⟨before, none⟩)
    (range : (before.checkpoint project file.name).InRange) :
    (∃ after, view (applyFile database dialect verbose project file state).state = ⟨after, none⟩ ∧
      Settled dialect project file
        (fileBlock database dialect verbose project file state).exchanges before after
        (applyFile database dialect verbose project file state).result) ∧
    ∀ other : Database σ, other.AgreesBeforeRelease database →
      (applyFile other dialect verbose project file state).result =
        (applyFile database dialect verbose project file state).result := by
  constructor
  · obtain ⟨after, applied, final⟩ := applyFile_leaves rules verbose project file idle
    have explained := applyFile_explained database.transcribing_logs dialect verbose project file
      (state, [])
    rw [applyFile_transcribing_result] at explained
    exact ⟨after, final, (applied.mono fun _ lost => lost.1).settled explained range⟩
  · intro other agreement
    exact applyFile_result_of_agrees agreement dialect verbose project file state

/-- Refuses `B` of the file below, and then to release its lock. -/
def statementAndReleaseRefused : Database (Session .exact × Nat) :=
  faultyDatabase .mysql false fun
    | 5 => some ⟨.refused (.mysql 1146 "42S02") "no such table", false⟩
    | 8 => some ⟨.poolClosed, false⟩
    | _ => none

def fileOfThree : Store.PlannedFile :=
  ⟨"a.up.sql", ["A", "B", "C"]⟩

/-- `A` is there for good with a row that says where `B` failed, whatever the release came to. -/
theorem fileOfThree_settled :
    (applyFile statementAndReleaseRefused .mysql false "p" fileOfThree (Session.unused, 0)).result =
      .error (.statement "a.up.sql" 1 "no such table") ∧
    (∃ after, (applyFile statementAndReleaseRefused .mysql false "p" fileOfThree
        (Session.unused, 0)).state.1 = ⟨after, none⟩ ∧
      Advanced "p" "a.up.sql" ["A"] (0, "no such table") Session.unused.durable after) ∧
    ∀ other : Database (Session .exact × Nat),
      other.AgreesBeforeRelease statementAndReleaseRefused →
      (applyFile other .mysql false "p" fileOfThree (Session.unused, 0)).result =
        .error (.statement "a.up.sql" 1 "no such table") := by
  have rules : statementAndReleaseRefused.Transactional .mysql Prod.fst :=
    faultyDatabase_follows .mysql false _
  have range :
      ((Session.unused : Session .exact).durable.checkpoint "p" fileOfThree.name).InRange :=
    by constructor <;> decide
  have failed : (applyFile statementAndReleaseRefused .mysql false "p" fileOfThree
      (Session.unused, 0)).result = .error (.statement "a.up.sql" 1 "no such table") := by
    decide +kernel
  obtain ⟨⟨after, final, settled⟩, agreeing⟩ :=
    applyFile_settles rules false "p" fileOfThree Session.unused_idle range
  rw [failed] at settled
  exact ⟨failed, ⟨after, final, settled.2.2.2⟩, fun other agreement =>
    (agreeing other agreement).trans failed⟩

end Runner

end SqlMigrations
