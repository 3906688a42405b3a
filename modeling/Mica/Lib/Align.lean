import Mathlib.Data.UInt
import Mathlib.Algebra.Order.Ring.Nat

/-!
# Alignment masks

C code rounds an address down to a multiple of a unit with `address & ~(unit - 1)`,
where the unit is a power of two. What a mask clears and what it keeps make up the
word, and the bits below a power of two are the remainder, so on numbers the
expression subtracts the remainder.
-/

namespace Align

theorem toNat_and_not_add_and {width : ℕ} (word mask : BitVec width) :
    (word &&& ~~~mask).toNat + (word &&& mask).toNat = word.toNat := by
  have apart : (word &&& ~~~mask) &&& (word &&& mask) = BitVec.ofNat width 0 := by
    ext index inRange
    simp
    grind
  have whole : (word &&& ~~~mask) ||| (word &&& mask) = word := by
    ext index inRange
    simp
    grind
  rw [← BitVec.toNat_add_of_and_eq_zero apart, BitVec.add_eq_or_of_and_eq_zero _ _ apart, whole]

theorem toNat_and_not_of_mask {width exponent : ℕ} (word : BitVec width) {mask : BitVec width}
    (low : mask.toNat = 2 ^ exponent - 1) :
    (word &&& ~~~mask).toNat = word.toNat - word.toNat % 2 ^ exponent := by
  have parts := toNat_and_not_add_and word mask
  rw [BitVec.toNat_and word mask, low, Nat.and_two_pow_sub_one_eq_mod] at parts
  omega

theorem le_of_and_not_eq_zero {width : ℕ} {word mask : BitVec width}
    (clear : (word &&& ~~~mask).toNat = 0) : word.toNat ≤ mask.toNat := by
  have parts := toNat_and_not_add_and word mask
  rw [clear, Nat.zero_add, BitVec.toNat_and] at parts
  rw [← parts]
  exact Nat.and_le_right

/-- The unit is a power of two. -/
def PowerOfTwo (unit : ℕ) : Prop := ∃ exponent, unit = 2 ^ exponent

theorem PowerOfTwo.pos {unit : ℕ} (power : PowerOfTwo unit) : 0 < unit := by
  rcases power with ⟨exponent, rfl⟩
  exact Nat.two_pow_pos exponent

theorem PowerOfTwo.dvd_of_lt {unit bound : ℕ} (power : PowerOfTwo unit)
    (below : unit < 2 ^ bound) : unit ∣ 2 ^ bound := by
  rcases power with ⟨exponent, rfl⟩
  apply Nat.pow_dvd_pow
  exact le_of_lt ((Nat.pow_lt_pow_iff_right Nat.one_lt_two).1 below)

theorem PowerOfTwo.le_of_lt {unit bound : ℕ} (power : PowerOfTwo unit)
    (below : unit < 2 ^ (bound + 1)) : unit ≤ 2 ^ bound := by
  rcases power with ⟨exponent, rfl⟩
  apply Nat.pow_le_pow_right Nat.two_pos
  exact Nat.lt_succ_iff.1 ((Nat.pow_lt_pow_iff_right Nat.one_lt_two).1 below)

section UInt64

variable {unit : UInt64}

theorem toNat_sub_one (positive : 0 < unit.toNat) : (unit - 1).toNat = unit.toNat - 1 :=
  UInt64.toNat_sub_of_le _ _ (UInt64.le_iff_toNat_le.2 positive)

theorem toNat_down (power : PowerOfTwo unit.toNat) (word : UInt64) :
    (word &&& ~~~(unit - 1)).toNat = word.toNat - word.toNat % unit.toNat := by
  have mask := toNat_sub_one power.pos
  rcases power with ⟨exponent, power⟩
  rw [power] at mask ⊢
  exact toNat_and_not_of_mask word.toBitVec mask

end UInt64

section UInt32

variable {unit : UInt32}

theorem toNat_sub_one32 (positive : 0 < unit.toNat) : (unit - 1).toNat = unit.toNat - 1 :=
  UInt32.toNat_sub_of_le _ _ (UInt32.le_iff_toNat_le.2 positive)

theorem toNat_add_sub_one32 (power : PowerOfTwo unit.toNat) {word : UInt32}
    (small : word.toNat < 2 ^ 31) : (word + (unit - 1)).toNat = word.toNat + (unit.toNat - 1) := by
  have le : unit.toNat ≤ 2 ^ 31 := power.le_of_lt unit.toNat_lt
  rw [UInt32.toNat_add, toNat_sub_one32 power.pos]
  apply Nat.mod_eq_of_lt
  omega

theorem toNat_down32 (power : PowerOfTwo unit.toNat) (word : UInt32) :
    (word &&& ~~~(unit - 1)).toNat = word.toNat - word.toNat % unit.toNat := by
  have mask := toNat_sub_one32 power.pos
  rcases power with ⟨exponent, power⟩
  rw [power] at mask ⊢
  exact toNat_and_not_of_mask word.toBitVec mask

end UInt32

theorem le_of_dvd_of_lt_add {unit left right : ℕ} (leftDvd : unit ∣ left) (rightDvd : unit ∣ right)
    (short : left < right + unit) : left ≤ right := by
  by_contra above
  have le := Nat.le_of_dvd (by omega) (Nat.dvd_sub leftDvd rightDvd)
  omega

end Align
