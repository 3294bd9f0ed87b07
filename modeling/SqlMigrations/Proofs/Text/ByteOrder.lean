import SqlMigrations.Proofs.Text.Utf8

namespace SqlMigrations.Text.Utf8

theorem cons_lt_cons_ofNat {left right : Nat} {front back : List UInt8} (small : right < 256)
    (le : left ≤ right) (rest : left = right → front < back) :
    UInt8.ofNat left :: front < UInt8.ofNat right :: back := by
  rw [List.cons_lt_cons_iff]
  rcases Nat.lt_or_eq_of_le le with less | same
  · left
    rw [UInt8.lt_iff_toNat_lt, UInt8.toNat_ofNat', UInt8.toNat_ofNat']
    omega
  · exact .inr ⟨congrArg UInt8.ofNat same, rest same⟩

/-- The bytes of the smaller one of two characters are smaller at the first place where they
differ, so what follows them does not matter. -/
theorem encodeChar_append_lt {left right : Char} (less : left < right) (front back : List UInt8) :
    String.utf8EncodeChar left ++ front < String.utf8EncodeChar right ++ back := by
  have order : left.val.toNat < right.val.toNat := less
  have valid : right.val.toNat.isValidChar := right.valid
  rw [Nat.isValidChar] at valid
  simp only [String.utf8EncodeChar]
  generalize left.val.toNat = smaller at order
  generalize right.val.toNat = greater at order valid
  split_ifs <;> try omega
  all_goals
    simp only [List.cons_append, List.nil_append]
    -- one byte after the other; where the numbers of bytes differ, the first bytes do
    repeat' first | omega | refine cons_lt_cons_ofNat (by omega) (by omega) fun same => ?_

theorem encode_lt_encode {left right : List Char} (less : left < right) :
    encode left < encode right := by
  induction less with
  | @nil c rest =>
    obtain ⟨byte, more, bytes⟩ := List.exists_cons_of_ne_nil
      (encode_ne_nil (List.cons_ne_nil c rest))
    rw [bytes]
    exact List.nil_lt_cons byte more
  | rel less => exact encodeChar_append_lt less _ _
  | cons _ induction => exact List.append_left_lt induction

/-- Comparing bytes is comparing characters. -/
theorem encode_le_iff {left right : String} :
    encode left.toList ≤ encode right.toList ↔ left ≤ right := by
  rw [← List.not_lt, ← String.not_lt, not_iff_not]
  refine ⟨fun less => ?_, encode_lt_encode⟩
  by_contra notLess
  have le : left ≤ right := String.not_lt.mp notLess
  by_cases same : left = right
  · exact List.lt_irrefl _ (same ▸ less)
  · have more : left < right := Std.lt_of_le_of_ne le same
    exact List.lt_asymm less (encode_lt_encode more)

end SqlMigrations.Text.Utf8
