import Mathlib.Data.Int.Order.Basic
import Mathlib.Data.List.Basic
import Mathlib.Tactic.NormNum

/-!
# Values of C programs

Integers of a fixed width are the integers of their range; an operation is done
on integers and its result converted to the type. Conversion to a signed type
wraps around, as two's complement arithmetic does.

A C string is the sequence of bytes before its terminator, so it contains no
zero byte. `strlcpy` truncates to what fits into the destination together with
a terminator.
-/

namespace Errno

def eperm : ℤ := 1

def eagain : ℤ := 11

def enomem : ℤ := 12

def ebusy : ℤ := 16

def enodev : ℤ := 19

def einval : ℤ := 22

def enospc : ℤ := 28

end Errno

namespace MachineInt

/-- Conversion to a signed type of so many bits. -/
def signed (width : ℕ) (value : ℤ) : ℤ := value.bmod (2 ^ width)

/-- Conversion to an unsigned type of so many bits. -/
def unsigned (width : ℕ) (value : ℤ) : ℤ := value % 2 ^ width

theorem unsigned_of_lt {width : ℕ} {value : ℤ} (nonneg : 0 ≤ value) (less : value < 2 ^ width) :
    unsigned width value = value :=
  Int.emod_eq_of_lt nonneg less

theorem signed_of_lt {width : ℕ} {value : ℤ} (least : -2 ^ width ≤ value)
    (less : value < 2 ^ width) : signed (width + 1) value = value := by
  have twice : (2 : ℤ) ^ (width + 1) = 2 ^ width * 2 := pow_succ _ _
  apply Int.bmod_eq_of_le <;> push_cast <;> omega

theorem signed_of_le {width : ℕ} {value : ℤ} (large : 2 ^ width ≤ value)
    (less : value < 2 ^ (width + 1)) : signed (width + 1) value < 0 := by
  have twice : (2 : ℤ) ^ (width + 1) = 2 ^ width * 2 := pow_succ _ _
  have whole : value % 2 ^ (width + 1) = value :=
    Int.emod_eq_of_lt (le_trans (by positivity) large) less
  rw [signed, Int.bmod]
  push_cast
  rw [whole, if_neg (by omega)]
  omega

theorem signed_emod (width : ℕ) (value : ℤ) :
    signed width (value % 2 ^ width) = signed width value := by
  have same := @Int.emod_bmod value (2 ^ width)
  push_cast at same
  exact same

end MachineInt

@[ext]
structure CString where
  bytes : List UInt8
  noNul : 0 ∉ bytes
deriving DecidableEq

namespace CString

theorem noNul_nil : 0 ∉ ([] : List UInt8) := List.not_mem_nil

/-- `strlen` -/
def length (string : CString) : ℕ := string.bytes.length

/-- The contents of a `char dst[size]` after `strlcpy(dst, string, size)`, for a positive size. -/
def strlcpy (size : ℕ) (string : CString) : CString where
  bytes := string.bytes.take (size - 1)
  noNul := fun nul => string.noNul (List.mem_of_mem_take nul)

def append (left right : CString) : CString where
  bytes := left.bytes ++ right.bytes
  noNul := fun nul => (List.mem_append.1 nul).elim left.noNul right.noNul

theorem length_strlcpy_lt {size : ℕ} (positive : 0 < size) (string : CString) :
    (strlcpy size string).length < size := by
  simp only [length, strlcpy, List.length_take]
  omega

theorem strlcpy_of_lt {size : ℕ} {string : CString} (fits : string.length < size) :
    strlcpy size string = string := by
  simp only [length] at fits
  have whole : string.bytes.take (size - 1) = string.bytes :=
    List.take_of_length_le (by omega)
  cases string
  simpa [strlcpy] using whole

end CString
