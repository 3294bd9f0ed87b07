import SqlMigrations.Checkpoint.Table
import SqlMigrations.Runner.Transaction

namespace SqlMigrations

namespace Collation

variable {keys : Collation}

theorem exact_sameKey_iff {first second : String × String} :
    exact.SameKey first second ↔ first = second :=
  Prod.ext_iff.symm

theorem SameKey.refl (keys : Collation) (key : String × String) : keys.SameKey key key :=
  ⟨rfl, rfl⟩

theorem SameKey.of_eq {first second : String × String} (same : first = second) :
    keys.SameKey first second :=
  same ▸ .refl keys first

theorem SameKey.symm {first second : String × String} (same : keys.SameKey first second) :
    keys.SameKey second first :=
  ⟨Eq.symm same.1, Eq.symm same.2⟩

theorem SameKey.trans {first second third : String × String} (same : keys.SameKey first second)
    (further : keys.SameKey second third) : keys.SameKey first third :=
  ⟨Eq.trans same.1 further.1, Eq.trans same.2 further.2⟩

theorem decide_sameKey (keys : Collation) (first second : String × String) :
    decide (keys.SameKey first second) =
      (decide (keys.Same first.1 second.1) && decide (keys.Same first.2 second.2)) :=
  Bool.decide_and _ _

theorem conflicts_eq (keys : Collation) (row : Checkpoint) :
    keys.conflicts row = fun other => decide (keys.SameKey other.key row.key) := by
  funext other
  rw [decide_sameKey, ← Bool.and_true (decide (keys.Same other.key.2 row.key.2))]
  rfl

end Collation

/-- The row that a database holds for the key of a checkpoint once it was saved. Only MySQL, which
replaces the whole row, takes over the spelling of the key. -/
def Checkpoint.over (dialect : Dialect) (checkpoint : Checkpoint) : Option Checkpoint → Checkpoint
  | none => checkpoint
  | some held =>
    match dialect with
    | .postgres | .sqlite => { held with index := checkpoint.index, status := checkpoint.status }
    | .mysql => checkpoint

namespace CheckpointRows

variable {keys : Collation} {dialect : Dialect} {table : CheckpointRows keys}
  {checkpoint : Checkpoint} {project filename otherProject otherFile : String}

theorem row?_congr (same : keys.SameKey (project, filename) (otherProject, otherFile)) :
    table.row? project filename = table.row? otherProject otherFile := by
  refine congrArg (table.entries.find? ·) (funext fun row => decide_eq_decide.mpr ?_)
  exact ⟨fun found => found.trans same, fun found => found.trans same.symm⟩

theorem row?_sameKey {row : Checkpoint} (found : table.row? project filename = some row) :
    keys.SameKey row.key (project, filename) := by
  simpa using List.find?_some found

theorem loadQuery_run (dialect : Dialect) (table : CheckpointRows keys)
    (project filename : String) :
    (loadQuery dialect).run (loadParameters project filename) table =
      (table.entries.filter fun row => decide (keys.SameKey row.key (project, filename))).map
        fun row => [.number row.index, .text row.status] := by
  have conditions (row : Checkpoint) :
      (([.project, .filename] : List Checkpoint.Column).zip (loadParameters project filename)).all
        (fun condition => keys.sameValue (row.value condition.1) condition.2) =
          decide (keys.SameKey row.key (project, filename)) := by
    rw [Collation.decide_sameKey, ← Bool.and_true (decide (keys.Same row.key.2 filename))]
    rfl
  cases dialect <;> simp only [SelectQuery.run, loadQuery, conditions] <;> rfl

/-- Every database finds the row of the file. -/
theorem load_eq (dialect : Dialect) (table : CheckpointRows keys) (project filename : String) :
    table.load dialect project filename =
      (table.row? project filename).map fun row => (row.index, row.status) := by
  rw [load, loadQuery_run, List.head?_map, List.head?_filter, row?]
  cases table.entries.find? fun row => decide (keys.SameKey row.key (project, filename)) <;> rfl

theorem ofValues?_saveParameters (checkpoint : Checkpoint) :
    Checkpoint.ofValues? ([.project, .filename, .index, .status].zip (saveParameters checkpoint)) =
      some checkpoint :=
  rfl

theorem save_mysql (table : CheckpointRows keys) (checkpoint : Checkpoint) :
    (table.save .mysql checkpoint).entries =
      (table.entries.filter fun row => !decide (keys.SameKey row.key checkpoint.key)) ++
        [checkpoint] := by
  simp [save, saveQuery, InsertQuery.run?, ofValues?_saveParameters, Collation.conflicts_eq]

theorem save_of_update (other : dialect ≠ .mysql) (table : CheckpointRows keys)
    (checkpoint : Checkpoint) :
    (table.save dialect checkpoint).entries =
      if table.entries.any fun row => decide (keys.SameKey row.key checkpoint.key) then
        table.entries.map fun row =>
          if keys.SameKey row.key checkpoint.key then checkpoint.over dialect (some row) else row
      else table.entries ++ [checkpoint] := by
  cases dialect with
  | mysql => contradiction
  | postgres | sqlite =>
    simp only [save, saveQuery, InsertQuery.run?, ofValues?_saveParameters, Option.bind_some,
      Checkpoint.primaryKey, ne_eq, not_true_eq_false, if_false, Collation.conflicts_eq]
    split <;> simp only [Option.getD_some, decide_eq_true_eq] <;> rfl

theorem key_of_update (other : dialect ≠ .mysql) (row : Checkpoint) :
    (if keys.SameKey row.key checkpoint.key then checkpoint.over dialect (some row) else row).key =
      row.key := by
  split
  · cases dialect <;> first | rfl | contradiction
  · rfl

theorem row?_eq_none_iff : table.row? project filename = none ↔
    ∀ row ∈ table.entries, ¬ keys.SameKey row.key (project, filename) := by
  simp [row?]

theorem row?_save_mysql (table : CheckpointRows keys) (checkpoint : Checkpoint)
    (project filename : String) :
    (table.save .mysql checkpoint).row? project filename =
      if keys.SameKey checkpoint.key (project, filename) then some checkpoint
      else table.row? project filename := by
  rw [row?, save_mysql, List.find?_append, List.find?_filter]
  simp only [Bool.not_eq_true', decide_eq_false_iff_not, decide_eq_true_eq]
  split
  · rename_i same
    have none : table.entries.find? (fun row => decide (¬ keys.SameKey row.key checkpoint.key ∧
        keys.SameKey row.key (project, filename))) = none := by
      rw [List.find?_eq_none]
      intro row _ both
      obtain ⟨apart, found⟩ := of_decide_eq_true both
      exact apart (found.trans same.symm)
    rw [none, Option.none_or, List.find?_singleton, if_pos (by simpa using same)]
  · rename_i apart
    have unchanged : (fun row : Checkpoint => decide (¬ keys.SameKey row.key checkpoint.key ∧
        keys.SameKey row.key (project, filename))) =
          fun row => decide (keys.SameKey row.key (project, filename)) := by
      refine funext fun row => decide_eq_decide.mpr (and_iff_right_of_imp fun found same => ?_)
      exact apart (same.symm.trans found)
    rw [unchanged, List.find?_singleton, if_neg (by simpa using apart), Option.or_none, row?]

theorem row?_save_of_update (other : dialect ≠ .mysql) (table : CheckpointRows keys)
    (checkpoint : Checkpoint) (project filename : String) :
    (table.save dialect checkpoint).row? project filename =
      if keys.SameKey checkpoint.key (project, filename) then
        some (checkpoint.over dialect (table.row? checkpoint.project checkpoint.filename))
      else table.row? project filename := by
  cases held : table.row? checkpoint.project checkpoint.filename with
  | none =>
    have absent := row?_eq_none_iff.mp held
    have saved : (table.save dialect checkpoint).entries = table.entries ++ [checkpoint] := by
      rw [save_of_update other, if_neg]
      simp only [List.any_eq_true, decide_eq_true_eq, not_exists, not_and]
      exact absent
    rw [row?, saved, List.find?_append, ← row?]
    split
    · rename_i same
      rw [← row?_congr same, held, Option.none_or, List.find?_singleton,
        if_pos (by simpa using same)]
      rfl
    · rename_i apart
      rw [List.find?_singleton, if_neg (by simpa using apart), Option.or_none]
  | some row =>
    have member := List.mem_of_find?_eq_some held
    have saved := save_of_update other table checkpoint
    have conflicting : keys.SameKey row.key checkpoint.key := row?_sameKey held
    rw [if_pos (List.any_eq_true.mpr ⟨row, member, decide_eq_true conflicting⟩)] at saved
    rw [row?, saved, List.find?_map]
    simp only [Function.comp_def, key_of_update other]
    rw [← row?]
    split
    · rename_i same
      rw [← row?_congr same, held, Option.map_some, if_pos conflicting]
    · rename_i apart
      cases found : table.row? project filename with
      | none => rfl
      | some kept =>
        have different : ¬ keys.SameKey kept.key checkpoint.key :=
          fun same => apart (same.symm.trans (row?_sameKey found))
        rw [Option.map_some, if_neg different]

/-- Saving a checkpoint puts its row in place and leaves the rows of all other keys. -/
theorem row?_save (dialect : Dialect) (table : CheckpointRows keys) (checkpoint : Checkpoint)
    (project filename : String) :
    (table.save dialect checkpoint).row? project filename =
      if keys.SameKey checkpoint.key (project, filename) then
        some (checkpoint.over dialect (table.row? checkpoint.project checkpoint.filename))
      else table.row? project filename := by
  by_cases replaces : dialect = .mysql
  · subst replaces
    rw [row?_save_mysql]
    cases table.row? checkpoint.project checkpoint.filename <;> rfl
  · exact row?_save_of_update replaces table checkpoint project filename

theorem load_save (table : CheckpointRows keys) (dialect : Dialect) (checkpoint : Checkpoint)
    (project filename : String) :
    (table.save dialect checkpoint).load dialect project filename =
      if keys.SameKey checkpoint.key (project, filename) then
        some (checkpoint.index, checkpoint.status)
      else table.load dialect project filename := by
  rw [load_eq, load_eq, row?_save]
  split
  · cases table.row? checkpoint.project checkpoint.filename <;> cases dialect <;> rfl
  · rfl

end CheckpointRows

namespace Runner

variable {project filename : String} (row : Option (Int × String))

@[simp] theorem checkpointOfRow_project :
    (checkpointOfRow project filename row).project = project := by
  cases row <;> rfl

@[simp] theorem checkpointOfRow_filename :
    (checkpointOfRow project filename row).filename = filename := by
  cases row <;> rfl

end Runner

end SqlMigrations
