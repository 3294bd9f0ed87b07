import SqlMigrations.Proofs.Checkpoint.Rows
import SqlMigrations.Proofs.Database.Session

namespace SqlMigrations.Contents

variable {keys : Collation} {dialect : Dialect} {contents : Contents keys}
  {project filename : String}

theorem applied_perform_same (statements : List String) :
    (contents.perform (some (project, filename)) statements).applied project filename =
      contents.applied project filename ++ statements := by
  simp [applied, perform, List.filter_map, Function.comp_def]

theorem applied_perform_other {file : Option (String × String)} (statements : List String)
    (different : file ≠ some (project, filename)) :
    (contents.perform file statements).applied project filename =
      contents.applied project filename := by
  simp [applied, perform, List.filter_map, Function.comp_def, different]

@[simp] theorem applied_perform_none (statements : List String) :
    (contents.perform none statements).applied project filename =
      contents.applied project filename :=
  applied_perform_other statements nofun

@[simp] theorem row_perform (file : Option (String × String)) (statements : List String) :
    (contents.perform file statements).row project filename = contents.row project filename :=
  rfl

/-- The row of a file by any spelling of its key. -/
theorem row_congr {otherProject otherFile : String}
    (same : keys.SameKey (project, filename) (otherProject, otherFile)) :
    contents.row project filename = contents.row otherProject otherFile :=
  congrArg _ (CheckpointRows.row?_congr same)

theorem row_save_same (index : Int) (status : String) :
    (contents.save dialect ⟨project, filename, index, status⟩).row project filename =
      some (index, status) := by
  rw [row, save, CheckpointRows.row?_save, if_pos (.refl keys _), Option.map_some]
  cases contents.table.row? project filename <;> cases dialect <;> rfl

theorem row_save_other {checkpoint : Checkpoint}
    (apart : ¬ keys.SameKey (project, filename) checkpoint.key) :
    (contents.save dialect checkpoint).row project filename = contents.row project filename := by
  rw [row, save, CheckpointRows.row?_save, if_neg fun same => apart same.symm, row]

theorem advance_nil (index : Int) (status : String) :
    contents.advance dialect project filename [] index status =
      contents.save dialect ⟨project, filename, index, status⟩ := by
  simp [advance]

theorem row_advance_same (statements : List String) (index : Int) (status : String) :
    (contents.advance dialect project filename statements index status).row project filename =
      some (index, status) :=
  row_save_same index status

theorem applied_advance_same (statements : List String) (index : Int) (status : String) :
    (contents.advance dialect project filename statements index status).applied project filename =
      contents.applied project filename ++ statements :=
  applied_perform_same statements

/-- Contents agree about a file: they hold the same row for its key, and the same of it is
applied. -/
structure AgreeAt (project filename : String) (first second : Contents keys) : Prop where
  stored : first.table.row? project filename = second.table.row? project filename
  applied : first.applied project filename = second.applied project filename

namespace AgreeAt

variable {first second third : Contents keys}

theorem refl (contents : Contents keys) : AgreeAt project filename contents contents :=
  ⟨rfl, rfl⟩

theorem symm (agree : AgreeAt project filename first second) :
    AgreeAt project filename second first :=
  ⟨agree.stored.symm, agree.applied.symm⟩

theorem trans (agree : AgreeAt project filename first second)
    (further : AgreeAt project filename second third) : AgreeAt project filename first third :=
  ⟨agree.stored.trans further.stored, agree.applied.trans further.applied⟩

theorem row (agree : AgreeAt project filename first second) :
    first.row project filename = second.row project filename :=
  congrArg (Option.map _) agree.stored

theorem checkpoint (agree : AgreeAt project filename first second) :
    first.checkpoint project filename = second.checkpoint project filename :=
  congrArg (Runner.checkpointOfRow project filename) agree.row

end AgreeAt

theorem perform_none_agreeAt (contents : Contents keys) (statements : List String) :
    AgreeAt project filename (contents.perform none statements) contents :=
  ⟨rfl, applied_perform_none statements⟩

theorem advance_agreeAt {otherProject otherFile : String}
    (apart : ¬ keys.SameKey (project, filename) (otherProject, otherFile))
    (statements : List String) (index : Int) (status : String) :
    AgreeAt project filename
      (contents.advance dialect otherProject otherFile statements index status) contents := by
  refine ⟨?_, applied_perform_other statements fun same => apart ?_⟩
  · rw [advance, save, CheckpointRows.row?_save, if_neg fun same => apart same.symm]
    rfl
  · exact .of_eq (Option.some.inj same).symm

@[simp] theorem checkpoint_project : (contents.checkpoint project filename).project = project :=
  Runner.checkpointOfRow_project _

@[simp] theorem checkpoint_filename :
    (contents.checkpoint project filename).filename = filename :=
  Runner.checkpointOfRow_filename _

theorem checkpoint_of_row {index : Int} {status : String}
    (found : contents.row project filename = some (index, status)) :
    contents.checkpoint project filename = ⟨project, filename, index, status⟩ := by
  simp [checkpoint, Runner.checkpointOfRow, found]

theorem checkpoint_of_no_row (absent : contents.row project filename = none) :
    contents.checkpoint project filename = Checkpoint.fresh project filename := by
  simp [checkpoint, Runner.checkpointOfRow, absent]

theorem isComplete_checkpoint_iff :
    (contents.checkpoint project filename).isComplete = true ↔
      ∃ index, contents.row project filename = some (index, statusOk) := by
  rw [Checkpoint.isComplete, beq_iff_eq]
  cases found : contents.row project filename with
  | none =>
    rw [checkpoint_of_no_row found]
    exact iff_of_false (show "" ≠ statusOk by decide) nofun
  | some row =>
    rw [checkpoint_of_row found]
    constructor
    · exact fun same => ⟨row.1, congrArg some (Prod.ext rfl same)⟩
    · rintro ⟨index, same⟩
      rw [Option.some.inj same]

end SqlMigrations.Contents
