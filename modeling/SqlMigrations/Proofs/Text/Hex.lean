import Mathlib.Algebra.Ring.Nat
import Mathlib.Data.List.Basic
import SqlMigrations.Text.Number

namespace SqlMigrations.Text

variable {c : Char} {digit value : Nat}

theorem hexDigitValue?_digitChar (small : digit < 16) :
    hexDigitValue? digit.digitChar = some digit := by
  revert digit
  decide

theorem readHexDigits?_digitChar (small : digit < 16) (value : Nat) :
    readHexDigits? value [digit.digitChar] = some (16 * value + digit) := by
  simp [readHexDigits?, hexDigitValue?_digitChar small]

theorem readHexDigits?_append (value : Nat) (front back : List Char) :
    readHexDigits? value (front ++ back) =
      (readHexDigits? value front).bind fun read => readHexDigits? read back := by
  induction front generalizing value with
  | nil => rfl
  | cons c front induction =>
    rw [List.cons_append, readHexDigits?, readHexDigits?]
    cases hexDigitValue? c with
    | none => rfl
    | some digit => exact induction (16 * value + digit)

theorem readHexDigits?_toDigits (value : Nat) :
    readHexDigits? 0 (Nat.toDigits 16 value) = some value := by
  induction value using Nat.strongRecOn with
  | ind value induction =>
    rw [Nat.toDigits_eq_if (by decide)]
    split
    · rename_i small
      rw [readHexDigits?_digitChar small, Nat.mul_zero, Nat.zero_add]
    · have less : value / 16 < value := by omega
      have small : value % 16 < 16 := Nat.mod_lt value (by decide)
      rw [readHexDigits?_append, induction (value / 16) less, Option.bind_some,
        readHexDigits?_digitChar small, Nat.div_add_mod]

theorem mem_toDigits (member : c ∈ Nat.toDigits 16 value) : ∃ digit < 16, c = digit.digitChar := by
  induction value using Nat.strongRecOn with
  | ind value induction =>
    rw [Nat.toDigits_eq_if (by decide)] at member
    split at member
    · rename_i small
      exact ⟨value, small, List.mem_singleton.mp member⟩
    · rcases List.mem_append.mp member with before | last
      · exact induction (value / 16) (by omega) before
      · exact ⟨value % 16, Nat.mod_lt value (by decide), List.mem_singleton.mp last⟩

/-- Only the digits of zero start with a zero. -/
theorem head?_toDigits (zero : (Nat.toDigits 16 value).head? = some '0') : value = 0 := by
  induction value using Nat.strongRecOn with
  | ind value induction =>
    rw [Nat.toDigits_eq_if (by decide)] at zero
    split at zero
    · simpa using zero
    · rw [List.head?_append_of_ne_nil _ Nat.toDigits_ne_nil] at zero
      have none := induction (value / 16) (by omega) zero
      omega

/-- The form of a signed number: an optional minus sign and at least one digit; a zero in front is
the whole text. -/
structure IsSignedHex (text : List Char) : Prop where
  parts : ∃ sign digits, text = sign ++ digits ∧ (sign = [] ∨ sign = ['-']) ∧ digits ≠ [] ∧
    (∀ c ∈ digits, c ∈ "0123456789abcdef".toList) ∧ (digits.head? = some '0' → text = ['0'])

theorem digitChar_mem (small : digit < 16) : digit.digitChar ∈ "0123456789abcdef".toList := by
  revert digit
  decide

theorem signedHex_isSignedHex (number : Int) : IsSignedHex (signedHex number) where
  parts := by
    have known : ∀ c ∈ Nat.toDigits 16 number.natAbs, c ∈ "0123456789abcdef".toList := by
      intro c member
      obtain ⟨digit, small, rfl⟩ := mem_toDigits member
      exact digitChar_mem small
    rw [signedHex]
    split
    · rename_i negative
      refine ⟨['-'], _, rfl, .inr rfl, Nat.toDigits_ne_nil, known, fun zero => ?_⟩
      have none := head?_toDigits zero
      omega
    · refine ⟨[], _, rfl, .inl rfl, Nat.toDigits_ne_nil, known, fun zero => ?_⟩
      rw [head?_toDigits zero, Nat.toDigits_zero]

theorem not_mem_toDigits_minus (value : Nat) : '-' ∉ Nat.toDigits 16 value := by
  intro member
  obtain ⟨digit, small, minus⟩ := mem_toDigits member
  revert digit
  decide

theorem readSignedHex?_signedHex (number : Int) :
    readSignedHex? (signedHex number) = some number := by
  have read := readHexDigits?_toDigits number.natAbs
  have unsigned := not_mem_toDigits_minus number.natAbs
  obtain ⟨c, others, digits⟩ := List.exists_cons_of_ne_nil
    (show Nat.toDigits 16 number.natAbs ≠ [] from Nat.toDigits_ne_nil)
  rw [digits] at read unsigned
  rw [signedHex, digits]
  split
  · rename_i negative
    have cut : readSignedHex? ('-' :: c :: others) =
        (readHexDigits? 0 (c :: others)).map fun value => -(Int.ofNat value) := rfl
    rw [cut, read, Option.map_some, Option.some.injEq, Int.ofNat_eq_natCast]
    omega
  · rename_i positive
    have other : c ≠ '-' := by
      rintro rfl
      exact unsigned List.mem_cons_self
    have cut : readSignedHex? (c :: others) = (readHexDigits? 0 (c :: others)).map Int.ofNat := by
      simp [readSignedHex?, other]
    rw [cut, read, Option.map_some, Option.some.injEq, Int.ofNat_eq_natCast]
    omega

theorem length_signedHex {number : Int} {places : Nat} (positive : 0 < places)
    (small : number.natAbs < 16 ^ places) : (signedHex number).length ≤ places + 1 := by
  have digits := (Nat.length_toDigits_le_iff (by decide : 1 < 16) positive).mpr small
  rw [signedHex]
  split
  · exact Nat.succ_le_succ digits
  · exact Nat.le_succ_of_le digits

end SqlMigrations.Text
