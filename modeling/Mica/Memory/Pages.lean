import Mica.Lib.Align

/-!
# Ranges rounded to pages

Before `mmap` the code rounds a physical range to pages ("align to page
boundary"). The same four lines stand in `rproc_mmap` of both pedestals, in
`get_mmap_addr_info` and in `init_core_shared_memory`; the types are 64 bits
wide and the sums wrap.
-/

namespace Mica

namespace Memory

open Align

def alignedAddr (pagesize lpa : UInt64) : UInt64 := lpa &&& ~~~(pagesize - 1)

def pageOffset (pagesize lpa : UInt64) : UInt64 := lpa - alignedAddr pagesize lpa

def alignedSize (pagesize lpa size : UInt64) : UInt64 :=
  (pageOffset pagesize lpa + size + pagesize - 1) &&& ~~~(pagesize - 1)

variable {pagesize : UInt64}

theorem toNat_alignedAddr (power : PowerOfTwo pagesize.toNat) (lpa : UInt64) :
    (alignedAddr pagesize lpa).toNat = lpa.toNat - lpa.toNat % pagesize.toNat :=
  toNat_down power lpa

theorem toNat_pageOffset (power : PowerOfTwo pagesize.toNat) (lpa : UInt64) :
    (pageOffset pagesize lpa).toNat = lpa.toNat % pagesize.toNat := by
  have le := Nat.mod_le lpa.toNat pagesize.toNat
  have aligned := toNat_alignedAddr power lpa
  rw [pageOffset, UInt64.toNat_sub_of_le]
  · omega
  · rw [UInt64.le_iff_toNat_le]
    omega

theorem toNat_alignedSize (power : PowerOfTwo pagesize.toNat) (lpa size : UInt64) :
    (alignedSize pagesize lpa size).toNat =
      (lpa.toNat % pagesize.toNat + size.toNat + (pagesize.toNat - 1)) % 2 ^ 64 -
        (lpa.toNat % pagesize.toNat + size.toNat + (pagesize.toNat - 1)) % 2 ^ 64 %
          pagesize.toNat := by
  have sum : (pageOffset pagesize lpa + size + pagesize - 1).toNat =
      (lpa.toNat % pagesize.toNat + size.toNat + (pagesize.toNat - 1)) % 2 ^ 64 := by
    have regroup : pageOffset pagesize lpa + size + pagesize - 1 =
        pageOffset pagesize lpa + size + (pagesize - 1) := by grind
    rw [regroup, UInt64.toNat_add, UInt64.toNat_add, toNat_pageOffset power,
      toNat_sub_one power.pos, Nat.mod_add_mod]
  rw [alignedSize, toNat_down power, sum]

theorem aligned_between (power : PowerOfTwo pagesize.toNat) {lpa size : UInt64} {lower upper : ℕ}
    (lowerDvd : pagesize.toNat ∣ lower) (upperDvd : pagesize.toNat ∣ upper)
    (lowerLe : lower ≤ lpa.toNat) (leUpper : lpa.toNat + size.toNat ≤ upper)
    (unwrapped : lpa.toNat % pagesize.toNat + size.toNat + (pagesize.toNat - 1) < 2 ^ 64) :
    lower ≤ (alignedAddr pagesize lpa).toNat ∧
      (alignedAddr pagesize lpa).toNat + (alignedSize pagesize lpa size).toNat ≤ upper := by
  have pagePos := power.pos
  have addr := toNat_alignedAddr power lpa
  have length := toNat_alignedSize power lpa size
  rw [Nat.mod_eq_of_lt unwrapped] at length
  have addrDvd : pagesize.toNat ∣ (alignedAddr pagesize lpa).toNat := by
    rw [addr]
    exact Nat.dvd_sub_mod _
  have lengthDvd : pagesize.toNat ∣ (alignedSize pagesize lpa size).toNat := by
    rw [length]
    exact Nat.dvd_sub_mod _
  have offsetLt := Nat.mod_lt lpa.toNat pagePos
  have offsetLe := Nat.mod_le lpa.toNat pagesize.toNat
  constructor
  · apply le_of_dvd_of_lt_add lowerDvd addrDvd
    omega
  · apply le_of_dvd_of_lt_add (Nat.dvd_add addrDvd lengthDvd) upperDvd
    omega

end Memory

end Mica
