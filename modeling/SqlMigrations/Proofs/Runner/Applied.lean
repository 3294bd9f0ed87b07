import SqlMigrations.Proofs.Database.Contents
import SqlMigrations.Proofs.Runner.File

namespace SqlMigrations.Runner

variable {σ : Type} {dialect : Dialect} {keys : Collation} {discards : Bool} {database : Database σ}
  {view : σ → Session keys} {state : σ} {project : String} {file : Store.PlannedFile}
  {before after : Contents keys} {mayLose : Nat → Prop}

/-- `mayLose` says how many statements may be lost although their checkpoint is saved. -/
inductive Applied (dialect : Dialect) (mayLose : Nat → Prop) (project : String)
    (file : Store.PlannedFile) (before : Contents keys) :
    Except MigrationError FileOutcome → Contents keys → Prop where
  | skipped (complete : (before.checkpoint project file.name).isComplete = true) :
      Applied dialect mayLose project file before
        (.ok ⟨file.name, 0, true, (before.checkpoint project file.name).index,
          (before.checkpoint project file.name).status⟩) before
  | undone (problem : MigrationError) (failure : problem.IsCommandFailure) :
      Applied dialect mayLose project file before (.error problem) before
  | finished (incomplete : (before.checkpoint project file.name).isComplete = false)
      (index : Int) (reached : index = (before.checkpoint project file.name).reached
        (before.checkpoint project file.name).covered (pending before project file).length) :
      Applied dialect mayLose project file before
        (.ok ⟨file.name, (pending before project file).length, false, index, statusOk⟩)
        (before.advance dialect project file.name (pending before project file) index statusOk)
  | stopped (incomplete : (before.checkpoint project file.name).isComplete = false)
      (count : Nat) (within : count < (pending before project file).length) (message : String)
      (index : Int) (reached : index = (before.checkpoint project file.name).reached
        (before.checkpoint project file.name).covered count) :
      Applied dialect mayLose project file before
        (.error (.statement file.name
          ((before.checkpoint project file.name).covered + count) message))
        (before.advance dialect project file.name ((pending before project file).take count) index
          message)
  | lost (incomplete : (before.checkpoint project file.name).isComplete = false)
      (count : Nat) (allowed : mayLose count)
      (within : count < (pending before project file).length) (message : String)
      (index : Int) (reached : index = (before.checkpoint project file.name).reached
        (before.checkpoint project file.name).covered count) (problem : MigrationError) :
      Applied dialect mayLose project file before (.error problem)
        (before.advance dialect project file.name [] index message)

theorem Applied.mono {mightLose : Nat → Prop} {result : Except MigrationError FileOutcome}
    (applied : Applied dialect mayLose project file before result after)
    (weaker : ∀ count, mayLose count → mightLose count) :
    Applied dialect mightLose project file before result after := by
  cases applied with
  | skipped complete => exact .skipped complete
  | undone problem failure => exact .undone problem failure
  | finished incomplete index reached => exact .finished incomplete index reached
  | stopped incomplete count within message index reached =>
    exact .stopped incomplete count within message index reached
  | lost incomplete count allowed within message index reached problem =>
    exact .lost incomplete count (weaker count allowed) within message index reached problem

/-- Where an engine discards transactions, any number of statements may be lost. -/
def Discardable (discards : Bool) (_ : Nat) : Prop :=
  discards = true

/-- After `count` statements the transaction of an attempt is gone, and the checkpoint is saved all
the same. -/
def Attempt.Loses (view : σ → Session keys) (database : Database σ) (attempt : Attempt σ)
    (count : Nat) :
    Prop :=
  attempt.applied = count ∧ (view attempt.state).transaction = none ∧
    (saveCheckpoint database attempt.checkpoint attempt.state).1 = .ok ()

def Loses (view : σ → Session keys) (database : Database σ) (dialect : Dialect) (verbose : Bool)
    (project : String) (file : Store.PlannedFile) (state : σ) (count : Nat) : Prop :=
  ∃ attempt, attempt? database dialect verbose project file state = some attempt ∧
    attempt.Loses view database count

/-- Applying a file, with the contents that it leaves for good. -/
def Leaves (dialect : Dialect) (view : σ → Session keys) (mayLose : Nat → Prop) (project : String)
    (file : Store.PlannedFile) (before : Contents keys) (run : Run σ FileOutcome) : Prop :=
  ∃ after, Applied dialect mayLose project file before run.result after ∧
    view run.state = ⟨after, none⟩

theorem Undone.leaves {run : Run σ FileOutcome} (undone : Undone view run before) :
    Leaves dialect view mayLose project file before run := by
  obtain ⟨problem, failure, result, final⟩ := undone
  exact ⟨before, result ▸ .undone problem failure, final⟩

theorem Ended.leaves {run : Run σ FileOutcome} {result : Except MigrationError FileOutcome}
    (ended : Ended view run result after)
    (applied : Applied dialect mayLose project file before result after) :
    Leaves dialect view mayLose project file before run :=
  ⟨after, ended.1 ▸ applied, ended.2⟩

theorem leaves_of_attempted {attempt : Attempt σ}
    (rules : database.Follows dialect discards view)
    (incomplete : (before.checkpoint project file.name).isComplete = false)
    (attempted : Attempted view discards before before (some (project, file.name))
      (before.checkpoint project file.name) (before.checkpoint project file.name).covered
      (pending before project file) attempt) :
    Leaves dialect view (fun count => discards = true ∧ attempt.Loses view database count) project
      file
      before (conclude database attempt) := by
  cases attempted with
  | completed applied failure written holds =>
    have outcome : attempt.outcome = .ok ⟨file.name, (pending before project file).length, false,
        (before.checkpoint project file.name).reached
          (before.checkpoint project file.name).covered (pending before project file).length,
        statusOk⟩ := by
      simp [Attempt.outcome, failure, written, applied]
    rcases conclude_holds rules holds with ended | undone
    · rw [outcome, written] at ended
      simp only [Contents.checkpoint_project, Contents.checkpoint_filename] at ended
      exact ended.leaves (.finished incomplete _ rfl)
    · exact undone.leaves
  | stopped message within failure written aftermath =>
    have outcome : attempt.outcome = .error (.statement file.name
        ((before.checkpoint project file.name).covered + attempt.applied) message) := by
      simp [Attempt.outcome, failure]
    cases aftermath with
    | intact holds =>
      rcases conclude_holds rules holds with ended | undone
      · rw [outcome, written] at ended
        simp only [Contents.checkpoint_project, Contents.checkpoint_filename] at ended
        exact ended.leaves (.stopped incomplete attempt.applied within message _ rfl)
      · exact undone.leaves
    | aborted opened kept remains dead => exact (conclude_aborted rules kept remains dead).leaves
    | ended allowed bare =>
      cases saving : saveCheckpoint database attempt.checkpoint attempt.state with
      | mk answer saved =>
        cases answer with
        | error problem => exact (conclude_bare_unsaved rules bare saving).leaves
        | ok _ =>
          have loses : attempt.Loses view database attempt.applied :=
            ⟨rfl, by rw [bare], by rw [saving]⟩
          have lost (problem : MigrationError) :
              Applied dialect (fun count => discards = true ∧ attempt.Loses view database count)
                project
                file before (.error problem) (before.save dialect attempt.checkpoint) := by
            rw [written]
            simp only [Contents.checkpoint_project, Contents.checkpoint_filename,
              ← Contents.advance_nil]
            exact .lost incomplete attempt.applied ⟨allowed, loses⟩ within message _ rfl problem
          rcases conclude_bare_saved rules bare saving with ended | ⟨problem, _, ended⟩
          · rw [outcome] at ended
            exact ended.leaves (lost _)
          · exact ended.leaves (lost problem)

theorem applyFile_leaves (rules : database.Follows dialect discards view) (verbose : Bool)
    (project : String) (file : Store.PlannedFile) (idle : view state = ⟨before, none⟩) :
    Leaves dialect view
      (fun count => discards = true ∧
        Loses view database dialect verbose project file state count)
      project file before (applyFile database dialect verbose project file state) := by
  cases applyFile_course rules verbose project file idle with
  | skipped _ complete ended => exact ended.leaves (.skipped complete)
  | undone _ undone => exact undone.leaves
  | attempted made found incomplete reached concluded =>
    obtain ⟨after, applied, final⟩ := leaves_of_attempted rules incomplete reached
    rw [← concluded.1] at applied
    exact ⟨after, applied.mono (fun _ lost => ⟨lost.1, made, found, lost.2⟩),
      concluded.2.trans final⟩

/-- Applying a file touches nothing of any file with another key. -/
theorem Applied.other {result : Except MigrationError FileOutcome} {otherProject otherFile : String}
    (applied : Applied dialect mayLose project file before result after)
    (apart : ¬ keys.SameKey (otherProject, otherFile) (project, file.name)) :
    Contents.AgreeAt otherProject otherFile after before := by
  cases applied with
  | skipped | undone => exact .refl before
  | finished | stopped | lost => exact Contents.advance_agreeAt apart ..

theorem Applied.effects {result : Except MigrationError FileOutcome}
    (applied : Applied dialect mayLose project file before result after) :
    ∀ effect ∈ after.effects, effect ∈ before.effects ∨
      effect.file = some (project, file.name) := by
  have advanced (statements : List String) (index : Int) (status : String) (effect : Effect)
      (member : effect ∈
          (before.advance dialect project file.name statements index status).effects) :
      effect ∈ before.effects ∨ effect.file = some (project, file.name) := by
    rcases List.mem_append.mp member with old | new
    · exact .inl old
    · obtain ⟨sql, _, rfl⟩ := List.mem_map.mp new
      exact .inr rfl
  cases applied with
  | skipped | undone => exact fun _ member => .inl member
  | finished | stopped | lost => exact advanced _ _ _

end SqlMigrations.Runner
