import SqlMigrations.Checkpoint.Record

namespace SqlMigrations.Checkpoint

def covered (checkpoint : Checkpoint) : Nat :=
  min (checkpoint.index + 1).toNat indexBound

theorem isApplied_iff (checkpoint : Checkpoint) (index : Nat) :
    checkpoint.isApplied index = true ↔ index < checkpoint.covered := by
  have natural : Int.ofNat index ≤ checkpoint.index ↔ index < (checkpoint.index + 1).toNat := by
    simp only [Int.ofNat_eq_natCast]
    omega
  simp only [isApplied, covered, Bool.and_eq_true, decide_eq_true_eq, natural, Nat.lt_min]
  exact And.comm

theorem covered_le_of_not_isApplied {checkpoint : Checkpoint} {index : Nat}
    (unapplied : ¬ checkpoint.isApplied index = true) : checkpoint.covered ≤ index := by
  simpa using mt (checkpoint.isApplied_iff index).mpr unapplied

/-- Behind a covered statement the same ones are left to do. -/
theorem drop_of_isApplied {checkpoint : Checkpoint} {index : Nat}
    (applied : checkpoint.isApplied index = true) (sql : String) (rest : List String) :
    (sql :: rest).drop (checkpoint.covered - index) =
      rest.drop (checkpoint.covered - (index + 1)) := by
  have before := (checkpoint.isApplied_iff index).mp applied
  have further : checkpoint.covered - index = checkpoint.covered - (index + 1) + 1 := by omega
  rw [further, List.drop_succ_cons]

theorem covered_at_le (checkpoint : Checkpoint) (index : Nat) :
    ({ checkpoint with index := Int.ofNat index } : Checkpoint).covered ≤ index + 1 := by
  simp only [Checkpoint.covered, Int.ofNat_eq_natCast]
  omega

/-- The index of a stored row is a 64-bit number, and the runner writes none below -1. -/
def InRange (checkpoint : Checkpoint) : Prop :=
  -1 ≤ checkpoint.index ∧ checkpoint.index < indexBound

theorem InRange.covered {checkpoint : Checkpoint} (range : checkpoint.InRange) :
    (checkpoint.covered : Int) = checkpoint.index + 1 := by
  obtain ⟨lower, upper⟩ := range
  simp only [Checkpoint.covered]
  omega

/-- The index after `count` statements from the position `start` on were applied. -/
def reached (checkpoint : Checkpoint) (start count : Nat) : Int :=
  if count = 0 then checkpoint.index else (start + count : Nat) - 1

theorem InRange.reached {checkpoint : Checkpoint} (range : checkpoint.InRange) (count : Nat) :
    checkpoint.reached checkpoint.covered count = (checkpoint.covered + count : Nat) - 1 := by
  have covered := range.covered
  simp only [Checkpoint.reached]
  split <;> omega

end SqlMigrations.Checkpoint
