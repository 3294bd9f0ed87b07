import Mathlib.Algebra.BigOperators.Fin
import Mathlib.Tactic.Ring
import SqlMigrations.Lock.Advisory
import SqlMigrations.Proofs.Text.Hex

namespace SqlMigrations.Lock

/-- The characters of a key as the coefficients of a polynomial, with the last one as the constant
term, taken at 33. -/
def weigh (chars : List Char) : Nat :=
  ∑ place : Fin chars.length, (chars.get place).toNat * 33 ^ (chars.length - (place + 1))

theorem weigh_cons (c : Char) (chars : List Char) :
    weigh (c :: chars) = c.toNat * 33 ^ chars.length + weigh chars := by
  rw [weigh, weigh]
  simp only [List.length_cons]
  rw [Fin.sum_univ_succ]
  simp

theorem toInt_mix (hash : Int64) (c : Char) :
    (mix hash c).toInt = Int.bmod (hash.toInt * 33 + c.toNat) (2 ^ 64) := by
  have factor : (33 : Int64).toInt = 33 := rfl
  rw [mix, Int64.toInt_add, Int64.toInt_mul, Int64.toInt_ofNat', factor, Int.bmod_add_bmod,
    Int.add_bmod_bmod]
  rfl

/-- Each further character multiplies what was hashed so far; wrapping around can wait to the
end. -/
theorem toInt_foldl_mix (hash : Int64) (chars : List Char) :
    (chars.foldl mix hash).toInt =
      Int.bmod (hash.toInt * 33 ^ chars.length + weigh chars) (2 ^ 64) := by
  induction chars generalizing hash with
  | nil => simp [weigh]
  | cons c chars induction =>
    have regrouped : (hash.toInt * 33 + c.toNat) * 33 ^ chars.length + weigh chars =
        hash.toInt * 33 ^ (c :: chars).length + weigh (c :: chars) := by
      rw [weigh_cons, List.length_cons, pow_succ]
      push_cast
      ring
    rw [List.foldl_cons, induction, toInt_mix, ← Int.bmod_add_bmod, Int.bmod_mul_bmod,
      Int.bmod_add_bmod, regrouped]

theorem toInt_hashKey (key : String) :
    (hashKey key).toInt =
      Int.bmod (5381 * 33 ^ key.toList.length + weigh key.toList) (2 ^ 64) :=
  toInt_foldl_mix 5381 key.toList

theorem toList_mysqlName (key : String) :
    (mysqlName key).toList = Text.signedHex (hashKey key).toInt :=
  String.toList_ofList

theorem read_mysqlName (key : String) :
    Text.readSignedHex? (mysqlName key).toList = some (hashKey key).toInt := by
  rw [toList_mysqlName, Text.readSignedHex?_signedHex]

/-- Sixteen digits are enough for the greatest absolute value, which is that of the least number. -/
theorem length_mysqlName_le (key : String) : (mysqlName key).length ≤ 17 := by
  have lower := (hashKey key).le_toInt
  have upper := (hashKey key).toInt_lt
  rw [← String.length_toList, toList_mysqlName]
  apply Text.length_signedHex (by decide)
  omega

example : mysqlName "app:0001_init.up.sql" = "-741ba73b9f8235db" := by
  cbv

theorem mysqlName_eq_iff {first second : String} :
    mysqlName first = mysqlName second ↔ hashKey first = hashKey second := by
  constructor
  · intro same
    have read := read_mysqlName first
    rw [same, read_mysqlName, Option.some.injEq] at read
    exact (Int64.toInt_inj.mp read).symm
  · intro same
    rw [mysqlName, same, mysqlName]

/-- The names and the hashes of keys stand for the same locks: the hash is the wrapped polynomial,
and the short name in hexadecimal digits gives it back. -/
theorem names_identify_locks (key : String) :
    (hashKey key).toInt =
        Int.bmod (5381 * 33 ^ key.toList.length + weigh key.toList) (2 ^ 64) ∧
      (mysqlName key).length ≤ 17 ∧ Text.IsSignedHex (mysqlName key).toList ∧
      Text.readSignedHex? (mysqlName key).toList = some (hashKey key).toInt ∧
      ∀ other, mysqlName key = mysqlName other ↔ hashKey key = hashKey other := by
  refine ⟨toInt_hashKey key, length_mysqlName_le key, ?_, read_mysqlName key,
    fun other => mysqlName_eq_iff⟩
  rw [toList_mysqlName]
  exact Text.signedHex_isSignedHex (hashKey key).toInt

end SqlMigrations.Lock
