import Mathlib.Data.List.Pairwise
import Mathlib.Data.List.Perm.Basic
import SqlMigrations.Proofs.Checkpoint.Rows

namespace SqlMigrations.CheckpointRows

variable {keys : Collation} {dialect : Dialect} {table first second : CheckpointRows keys}
  {row checkpoint : Checkpoint}

def Keyed (table : CheckpointRows keys) : Prop :=
  table.entries.Pairwise fun row other => ¬ keys.SameKey row.key other.key

theorem Keyed.nodup (keyed : table.Keyed) : table.entries.Nodup := by
  refine keyed.imp fun {row other} apart same => ?_
  subst same
  exact apart (.refl keys row.key)

theorem Keyed.mem_iff (keyed : table.Keyed) :
    row ∈ table.entries ↔ table.row? row.project row.filename = some row := by
  refine ⟨fun member => ?_, List.mem_of_find?_eq_some⟩
  cases found : table.row? row.project row.filename with
  | none => exact absurd (.refl keys _) (row?_eq_none_iff.mp found row member)
  | some other =>
    by_contra different
    have apart : other ≠ row := fun same => different (congrArg some same)
    have symmetric : Std.Symm fun one another : Checkpoint => ¬ keys.SameKey one.key another.key :=
      ⟨fun _ _ apart same => apart same.symm⟩
    exact keyed.forall (List.mem_of_find?_eq_some found) member apart (row?_sameKey found)

/-- Saving a checkpoint puts one row in the place of the one with its key, and no other. -/
theorem Keyed.save (keyed : table.Keyed) (dialect : Dialect) (checkpoint : Checkpoint) :
    (table.save dialect checkpoint).Keyed := by
  rw [Keyed]
  by_cases replaces : dialect = .mysql
  · subst replaces
    rw [save_mysql, List.pairwise_append]
    refine ⟨keyed.filter _, List.pairwise_singleton .., fun row member other last => ?_⟩
    obtain rfl := List.mem_singleton.mp last
    simpa using (List.mem_filter.mp member).2
  · rw [save_of_update replaces]
    split
    · rw [List.pairwise_map]
      simp only [key_of_update replaces]
      exact keyed
    · rename_i absent
      rw [List.pairwise_append]
      refine ⟨keyed, List.pairwise_singleton .., fun row member other last same => absent ?_⟩
      obtain rfl := List.mem_singleton.mp last
      exact List.any_eq_true.mpr ⟨row, member, decide_eq_true same⟩

theorem perm_of_row?_eq (keyed : first.Keyed) (other : second.Keyed)
    (same : ∀ project filename, first.row? project filename = second.row? project filename) :
    first.entries.Perm second.entries := by
  rw [List.perm_ext_iff_of_nodup keyed.nodup other.nodup]
  intro row
  rw [keyed.mem_iff, other.mem_iff, same]

end SqlMigrations.CheckpointRows
