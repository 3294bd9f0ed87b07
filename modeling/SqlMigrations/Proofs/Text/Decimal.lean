import SqlMigrations.Proofs.Text.CaseMapping
import SqlMigrations.Text.Number

namespace SqlMigrations.Text

variable {bound value number : Nat} {c : Char} {text : List Char}

theorem isDigit_iff : isDigit c = true ↔ 48 ≤ c.toNat ∧ c.toNat ≤ 57 := by
  simp only [isDigit, Bool.and_eq_true, decide_eq_true_eq, char_le_iff, Char.reduceToNat]

theorem le_ofDigitChars (text : List Char) (value : Nat) :
    value ≤ Nat.ofDigitChars 10 text value := by
  induction text generalizing value with
  | nil => simp
  | cons c text induction =>
    rw [Nat.ofDigitChars_cons]
    have later := induction (10 * value + (c.toNat - '0'.toNat))
    omega

theorem readDigits_of_fits (digits : ∀ c ∈ text, isDigit c = true)
    (fits : Nat.ofDigitChars 10 text value ≤ bound) :
    readDigits bound value text = .ok (Nat.ofDigitChars 10 text value) := by
  induction text generalizing value with
  | nil => simp [readDigits]
  | cons c text induction =>
    obtain ⟨first, others⟩ := List.forall_mem_cons.mp digits
    rw [Nat.ofDigitChars_cons] at fits ⊢
    have small := Nat.le_trans (le_ofDigitChars text _) fits
    rw [readDigits, if_pos first, digitValue, if_pos small, induction others fits]

theorem readDigits_le (small : value ≤ bound) (read : readDigits bound value text = .ok number) :
    number ≤ bound := by
  induction text generalizing value with
  | nil =>
    obtain rfl : value = number := Except.ok.inj read
    exact small
  | cons c text induction =>
    rw [readDigits] at read
    by_cases digit : isDigit c = true
    · by_cases fits : 10 * value + digitValue c ≤ bound
      · rw [if_pos digit, if_pos fits] at read
        exact induction fits read
      · simp [digit, fits] at read
    · simp [digit] at read

theorem readDigits_eq_ok (read : readDigits bound value text = .ok number) :
    Nat.ofDigitChars 10 text value = number := by
  induction text generalizing value with
  | nil =>
    obtain rfl : value = number := Except.ok.inj read
    exact Nat.ofDigitChars_nil
  | cons c text induction =>
    rw [readDigits] at read
    by_cases digit : isDigit c = true
    · by_cases fits : 10 * value + digitValue c ≤ bound
      · rw [if_pos digit, if_pos fits] at read
        rw [Nat.ofDigitChars_cons]
        exact induction read
      · simp [digit, fits] at read
    · simp [digit] at read

theorem readUnsigned_le (read : readUnsigned bound text = .ok number) : number ≤ bound := by
  revert read
  fun_cases readUnsigned bound text with
  | case1 => simp
  | case2 => simp
  | case3 rest _ => exact readDigits_le (Nat.zero_le bound)
  | case4 => exact readDigits_le (Nat.zero_le bound)

theorem readUnsigned_of_digits (nonempty : text ≠ []) (digits : ∀ c ∈ text, isDigit c = true) :
    readUnsigned bound text = readDigits bound 0 text := by
  have noSign : isDigit '+' = false := by decide
  fun_cases readUnsigned bound text with
  | case1 => contradiction
  | case2 => simp [noSign] at digits
  | case3 rest _ => simp [noSign] at digits
  | case4 => rfl

/-- Digits alone are read to their value, if it is within the bound. -/
theorem readUnsigned_eq_ok_iff (digits : ∀ c ∈ text, isDigit c = true) :
    readUnsigned bound text = .ok number ↔
      text ≠ [] ∧ Nat.ofDigitChars 10 text 0 = number ∧ number ≤ bound := by
  by_cases nonempty : text = []
  · subst nonempty
    simp [readUnsigned]
  · rw [readUnsigned_of_digits nonempty digits]
    constructor
    · intro read
      exact ⟨nonempty, readDigits_eq_ok read, readDigits_le (Nat.zero_le bound) read⟩
    · rintro ⟨-, rfl, fits⟩
      exact readDigits_of_fits digits fits

theorem isDigit_of_mem_toDigits (member : c ∈ Nat.toDigits 10 number) :
    isDigit c = true :=
  Nat.isDigit_of_mem_toDigits (by decide) (by decide) member

theorem not_mem_toDigits (other : isDigit c = false) (number : Nat) :
    c ∉ Nat.toDigits 10 number := fun member => by
  simp [isDigit_of_mem_toDigits member] at other

/-- A number within the bound is read back from its decimal digits. -/
theorem readUnsigned_toDigits (fits : number ≤ bound) :
    readUnsigned bound (Nat.toDigits 10 number) = .ok number := by
  have digits (c) (member : c ∈ Nat.toDigits 10 number) := isDigit_of_mem_toDigits member
  have same : Nat.ofDigitChars 10 (Nat.toDigits 10 number) 0 = number :=
    Nat.ofDigitChars_ten_toDigits
  rw [readUnsigned_of_digits Nat.toDigits_ne_nil digits, readDigits_of_fits digits (by rwa [same]),
    same]

end SqlMigrations.Text
