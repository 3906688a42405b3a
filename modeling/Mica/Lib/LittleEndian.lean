import Mathlib.Data.Nat.Digits.Lemmas

/-!
# Little-endian integers

The value of a sequence of bytes read as a little-endian number, and the bytes
of a number. Two's complement values are obtained from the unsigned ones with
`Int.bmod`.
-/

namespace LittleEndian

def value (bytes : List UInt8) : ℕ := Nat.ofDigits 256 (bytes.map UInt8.toNat)

/-- The low `count` bytes of a number. -/
def bytes : ℕ → ℕ → List UInt8
  | 0, _ => []
  | count + 1, number => UInt8.ofNat number :: bytes count (number / 256)

/-- The low `count` bytes of a two's complement number. -/
def intBytes (count : ℕ) (number : ℤ) : List UInt8 :=
  bytes count (number % (256 : ℤ) ^ count).toNat

@[simp]
theorem length_bytes (count number : ℕ) : (bytes count number).length = count := by
  induction count generalizing number with
  | zero => rfl
  | succ count ih => simp [bytes, ih]

@[simp]
theorem length_intBytes (count : ℕ) (number : ℤ) : (intBytes count number).length = count := by
  simp [intBytes]

theorem value_bytes (count number : ℕ) : value (bytes count number) = number % 256 ^ count := by
  induction count generalizing number with
  | zero => simp [bytes, value, Nat.mod_one]
  | succ count ih =>
      have tail := ih (number / 256)
      simp only [value] at tail
      have low : (UInt8.ofNat number).toNat = number % 256 := UInt8.toNat_ofNat'
      simp only [value, bytes, List.map_cons, Nat.ofDigits_cons, tail, low]
      rw [Nat.pow_succ', Nat.mod_mul]

private theorem digit_lt (bytes : List UInt8) : ∀ digit ∈ bytes.map UInt8.toNat, digit < 256 := by
  intro digit member
  obtain ⟨byte, -, rfl⟩ := List.mem_map.1 member
  exact byte.toNat_lt

theorem value_lt (bytes : List UInt8) : value bytes < 256 ^ bytes.length := by
  have bound := Nat.ofDigits_lt_base_pow_length (by decide) (digit_lt bytes)
  simpa only [value, List.length_map] using bound

theorem value_take (bytes : List UInt8) (count : ℕ) :
    value (bytes.take count) = value bytes % 256 ^ count := by
  have split := Nat.ofDigits_mod_pow_eq_ofDigits_take count (by decide) _ (digit_lt bytes)
  rw [value, value, split, List.map_take]

theorem value_append (left right : List UInt8) :
    value (left ++ right) = value left + 256 ^ left.length * value right := by
  rw [value, List.map_append, Nat.ofDigits_append, List.length_map]
  rfl

theorem eq_of_value_eq {left right : List UInt8} (sameLength : left.length = right.length)
    (sameValue : value left = value right) : left = right := by
  have digits := Nat.ofDigits_inj_of_len_eq (by decide) (by simpa using sameLength)
    (digit_lt left) (digit_lt right) sameValue
  exact (List.map_injective_iff.2 fun _ _ => UInt8.toNat_inj.1) digits

end LittleEndian
