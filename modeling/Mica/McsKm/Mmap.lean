import Mica.Lib.CTypes
import Mathlib.Data.List.TakeWhile
import Mathlib.Data.Vector.Basic
import Mathlib.Tactic.Linarith

/-!
# Mapping reserved memory into user space

`mcs_mmap` of `mcs_km/mcs_km.c`, the only check between a user process and
physical memory. Kernel integers are 64-bit. `PAGE_SHIFT` is a constant of the
kernel configuration and `remap_pfn_range` a kernel function; both are
parameters. Page protection and `vm_ops` have no influence on what is mapped
and are left out.

The admission test compares the start of the request with the start of a region
and the length of the request with the length of the region. It never looks at
the end of the request, so a request may start in or behind a region and run
past its end.
-/

namespace Mica

namespace McsKm

open Errno

/-- `struct mcs_rproc_mem` -/
structure McsRprocMem where
  phyAddr : UInt64
  size : UInt64
deriving DecidableEq

def rprocMemMax : ℕ := 4

/-- The table `mem` of reserved regions; an entry with `phy_addr` 0 ends it. -/
abbrev MemTable := Vector McsRprocMem rprocMemMax

/-- The fields of `struct vm_area_struct` that describe a mapping request. -/
structure VmArea where
  vmStart : UInt64
  vmEnd : UInt64
  vmPgoff : UInt64
deriving DecidableEq

/-- The arguments `addr`, `pfn` and `size` of `remap_pfn_range`. -/
structure Remap where
  addr : UInt64
  pfn : UInt64
  size : UInt64
deriving DecidableEq

/-- The loop of `mcs_mmap` over the table. -/
def searchMem (offset size : UInt64) : List McsRprocMem → Bool
  | [] => false
  | region :: rest =>
      if region.phyAddr ≠ 0 then
        if offset ≥ region.phyAddr ∧ size ≤ region.size then true
        else searchMem offset size rest
      else false

/-- `mcs_mmap`: the call of `remap_pfn_range`, if there is one, and the return value. -/
def mcsMmap (pageShift : ℕ) (remapPfnRange : Remap → Int) (mem : MemTable) (vma : VmArea) :
    Option Remap × Int :=
  let size := vma.vmEnd - vma.vmStart
  let offset := UInt64.ofNat (vma.vmPgoff.toNat <<< pageShift)
  if offset.toNat >>> pageShift ≠ vma.vmPgoff.toNat then (none, -einval)
  else if offset + size - 1 < offset then (none, -einval)
  else if ¬searchMem offset size mem.toList then (none, -einval)
  else
    let remap : Remap := { addr := vma.vmStart, pfn := vma.vmPgoff, size := size }
    (some remap, if remapPfnRange remap < 0 then -eagain else 0)

/-- The regions listed before the first entry with address 0. -/
def reserved (mem : MemTable) : List McsRprocMem :=
  mem.toList.takeWhile fun region => region.phyAddr ≠ 0

namespace VmArea

def size (vma : VmArea) : ℕ := (vma.vmEnd - vma.vmStart).toNat

/-- The first physical address of the request, as a number without a width. -/
def physStart (pageShift : ℕ) (vma : VmArea) : ℕ := vma.vmPgoff.toNat * 2 ^ pageShift

end VmArea

/-- The request starts in or behind the region and is not longer than it. -/
def Admits (pageShift : ℕ) (vma : VmArea) (region : McsRprocMem) : Prop :=
  region.phyAddr.toNat ≤ vma.physStart pageShift ∧ vma.size ≤ region.size.toNat

/-- The region contains the request. -/
def Encloses (pageShift : ℕ) (vma : VmArea) (region : McsRprocMem) : Prop :=
  region.phyAddr.toNat ≤ vma.physStart pageShift ∧
    vma.physStart pageShift + vma.size ≤ region.phyAddr.toNat + region.size.toNat

/-- The request does not wrap and lies in one of the reserved regions. -/
def Contained (pageShift : ℕ) (mem : MemTable) (vma : VmArea) : Prop :=
  vma.physStart pageShift + vma.size ≤ 2 ^ 64 ∧
    ∃ region ∈ reserved mem, Encloses pageShift vma region

def ReachesRemap (pageShift : ℕ) (remapPfnRange : Remap → Int) (mem : MemTable)
    (vma : VmArea) : Prop :=
  (mcsMmap pageShift remapPfnRange mem vma).1.isSome

theorem searchMem_iff (offset size : UInt64) (regions : List McsRprocMem) :
    searchMem offset size regions = true ↔
      ∃ region ∈ regions.takeWhile (fun region => region.phyAddr ≠ 0),
        region.phyAddr.toNat ≤ offset.toNat ∧ size.toNat ≤ region.size.toNat := by
  induction regions with
  | nil => simp [searchMem]
  | cons region rest ih =>
      simp only [searchMem, List.takeWhile_cons]
      by_cases listed : region.phyAddr ≠ 0
      · simp only [if_pos listed, decide_eq_true listed, if_true]
        by_cases admits : offset ≥ region.phyAddr ∧ size ≤ region.size
        · rw [if_pos admits]
          simp only [ge_iff_le, UInt64.le_iff_toNat_le] at admits
          simp only [List.mem_cons, true_iff]
          exact ⟨region, Or.inl rfl, admits⟩
        · rw [if_neg admits, ih]
          simp only [ge_iff_le, UInt64.le_iff_toNat_le] at admits
          constructor
          · rintro ⟨other, otherMem, fits⟩
            exact ⟨other, List.mem_cons_of_mem _ otherMem, fits⟩
          · rintro ⟨other, otherMem, fits⟩
            rcases List.mem_cons.mp otherMem with rfl | inRest
            · exact absurd fits admits
            · exact ⟨other, inRest, fits⟩
      · simp [listed]

theorem shift_check_iff (pageShift : ℕ) (vma : VmArea) :
    (UInt64.ofNat (vma.vmPgoff.toNat <<< pageShift)).toNat >>> pageShift =
        vma.vmPgoff.toNat ↔ vma.physStart pageShift < 2 ^ 64 := by
  simp only [VmArea.physStart, UInt64.toNat_ofNat', Nat.shiftLeft_eq, Nat.shiftRight_eq_div_pow]
  have positive : 0 < 2 ^ pageShift := Nat.two_pow_pos pageShift
  constructor
  · intro same
    by_contra tooLarge
    have smaller : vma.vmPgoff.toNat * 2 ^ pageShift % 2 ^ 64 <
        vma.vmPgoff.toNat * 2 ^ pageShift :=
      (Nat.mod_lt _ (by decide)).trans_le (not_lt.mp tooLarge)
    have := (Nat.div_lt_iff_lt_mul positive).mpr smaller
    omega
  · intro below
    rw [Nat.mod_eq_of_lt below, Nat.mul_div_cancel _ positive]

theorem wrap_check_iff (offset size : UInt64) :
    ¬offset + size - 1 < offset ↔
      0 < size.toNat ∧ offset.toNat + size.toNat ≤ 2 ^ 64 ∨
        size.toNat = 0 ∧ offset.toNat = 0 := by
  have offsetBound := offset.toNat_lt
  have sizeBound := size.toNat_lt
  rw [UInt64.lt_iff_toNat_lt, UInt64.toNat_sub, UInt64.toNat_add, UInt64.toNat_one]
  omega

theorem phyAddr_pos {mem : MemTable} {region : McsRprocMem} (regionMem : region ∈ reserved mem) :
    0 < region.phyAddr.toNat := by
  have listed := List.mem_takeWhile_imp regionMem
  have notZero : region.phyAddr ≠ 0 := by simpa using listed
  apply Nat.pos_of_ne_zero
  intro isZero
  exact notZero (UInt64.toNat_inj.mp isZero)

theorem reachesRemap_iff (pageShift : ℕ) (remapPfnRange : Remap → Int) (mem : MemTable)
    (vma : VmArea) :
    ReachesRemap pageShift remapPfnRange mem vma ↔
      0 < vma.size ∧ vma.physStart pageShift + vma.size ≤ 2 ^ 64 ∧
        ∃ region ∈ reserved mem, Admits pageShift vma region := by
  have shiftCheck := shift_check_iff pageShift vma
  simp only [ReachesRemap, mcsMmap]
  by_cases fits : vma.physStart pageShift < 2 ^ 64
  · have offsetEq : (UInt64.ofNat (vma.vmPgoff.toNat <<< pageShift)).toNat =
        vma.physStart pageShift := by
      simp only [VmArea.physStart, UInt64.toNat_ofNat', Nat.shiftLeft_eq] at fits ⊢
      exact Nat.mod_eq_of_lt fits
    have wrapCheck := wrap_check_iff (UInt64.ofNat (vma.vmPgoff.toNat <<< pageShift))
      (vma.vmEnd - vma.vmStart)
    have search := searchMem_iff (UInt64.ofNat (vma.vmPgoff.toNat <<< pageShift))
      (vma.vmEnd - vma.vmStart) mem.toList
    rw [offsetEq] at wrapCheck search
    rw [if_neg (not_not.mpr (shiftCheck.mpr fits))]
    split
    · rename_i wraps
      have rejected := (not_congr wrapCheck).mp (not_not.mpr wraps)
      simp only [Option.isSome_none, Bool.false_eq_true, false_iff]
      rintro ⟨nonempty, noWrap, _⟩
      exact rejected (Or.inl ⟨nonempty, noWrap⟩)
    · rename_i noWrap
      split
      · rename_i notFound
        have noRegion := (not_congr search).mp notFound
        simp only [Option.isSome_none, Bool.false_eq_true, false_iff]
        rintro ⟨_, _, found⟩
        exact noRegion found
      · rename_i found
        have region := search.mp (not_not.mp found)
        simp only [Option.isSome_some, true_iff]
        rcases wrapCheck.mp noWrap with ⟨nonempty, below⟩ | ⟨_, atZero⟩
        · exact ⟨nonempty, below, region⟩
        · -- a request at address 0 starts before every listed region
          rcases region with ⟨region, regionMem, startsBefore, _⟩
          have := phyAddr_pos regionMem
          omega
  · rw [if_pos (fun same => fits (shiftCheck.mp same))]
    simp only [Option.isSome_none, Bool.false_eq_true, false_iff]
    rintro ⟨nonempty, noWrap, _⟩
    omega

theorem Encloses.admits {pageShift : ℕ} {vma : VmArea} {region : McsRprocMem}
    (encloses : Encloses pageShift vma region) : Admits pageShift vma region := by
  rcases encloses with ⟨start, finish⟩
  exact ⟨start, by omega⟩

/--
The admission test decides containment exactly when two things hold. For a
non-empty request that does not wrap: if it is admitted by some region then
some region also extends to its end. For an empty request: it does not lie in a
region, since the test rejects it anywhere.
-/
def AdmissionDecides (pageShift : ℕ) (mem : MemTable) (vma : VmArea) : Prop :=
  (0 < vma.size → vma.physStart pageShift + vma.size ≤ 2 ^ 64 →
    ∀ region ∈ reserved mem, Admits pageShift vma region →
      ∃ other ∈ reserved mem, Encloses pageShift vma other) ∧
  (vma.size = 0 → vma.physStart pageShift ≤ 2 ^ 64 →
    ∀ region ∈ reserved mem, region.phyAddr.toNat ≤ vma.physStart pageShift →
      region.phyAddr.toNat + region.size.toNat < vma.physStart pageShift)

/-- `mcs_mmap` maps exactly the contained requests if and only if `AdmissionDecides`. -/
theorem reachesRemap_iff_contained_iff (pageShift : ℕ) (remapPfnRange : Remap → Int)
    (mem : MemTable) (vma : VmArea) :
    (ReachesRemap pageShift remapPfnRange mem vma ↔ Contained pageShift mem vma) ↔
      AdmissionDecides pageShift mem vma := by
  rw [reachesRemap_iff]
  constructor
  · intro agree
    refine ⟨?_, ?_⟩
    · intro nonempty noWrap region regionMem admits
      exact (agree.mp ⟨nonempty, noWrap, region, regionMem, admits⟩).2
    · intro empty below region regionMem startsBefore
      by_contra notPast
      have contained : Contained pageShift mem vma := by
        refine ⟨by omega, region, regionMem, startsBefore, by omega⟩
      have nonempty := (agree.mpr contained).1
      omega
  · rintro ⟨onNonempty, onEmpty⟩
    constructor
    · rintro ⟨nonempty, noWrap, region, regionMem, admits⟩
      exact ⟨noWrap, onNonempty nonempty noWrap region regionMem admits⟩
    · rintro ⟨noWrap, region, regionMem, encloses⟩
      rcases Nat.eq_zero_or_pos vma.size with empty | nonempty
      · have past := onEmpty empty (by omega) region regionMem encloses.1
        have finish := encloses.2
        omega
      · exact ⟨nonempty, noWrap, region, regionMem, encloses.admits⟩

/-- One reserved region of 256 MiB at 0x70000000. -/
def oneRegion : MemTable :=
  #v[⟨0x70000000, 0x10000000⟩, ⟨0, 0⟩, ⟨0, 0⟩, ⟨0, 0⟩]

/-- A request for the page right behind the region is mapped. -/
theorem maps_page_behind_region :
    ReachesRemap 12 (fun _ => 0) oneRegion ⟨0x1000, 0x2000, 0x80000⟩ ∧
      ¬Contained 12 oneRegion ⟨0x1000, 0x2000, 0x80000⟩ := by
  refine ⟨?_, ?_⟩
  · simp only [ReachesRemap]
    decide
  · simp only [Contained, Encloses]
    decide

end McsKm

end Mica
