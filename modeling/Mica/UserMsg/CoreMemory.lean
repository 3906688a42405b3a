import Mica.McsKm.CopyMsg
import Mica.Memory.Pages
import Mica.Lib.Region

/-!
# The copy window in user space

`init_core_shared_memory` of `library/user_msg/user_msg_mem.c` asks the driver for
the window of an instance and maps it, rounded to pages. The driver compares the
start of the window with the end of the first reserved region and not its end, so
the last window that it gives out may stick out of the region.
-/

namespace Mica

namespace UserMsg

open McsKm Memory Align

/-- `struct core_msg_mem_info` -/
structure CoreMsgMemInfo where
  instanceId : UInt32
  phyAddr : UInt64
  virAddr : UInt64
  size : UInt64
  alignSize : UInt64
deriving DecidableEq

/-- What the system calls of `init_core_shared_memory` deliver: the descriptor that `open` returns,
whether the driver can copy the request from and to user space, and the address that `mmap` returns,
if it does not fail. -/
structure CoreResults where
  mcsFd : ℤ
  copied : Bool
  va : Option UInt64
deriving DecidableEq

/-- `IOC_GET_COPY_MSG_MEM` on a request in user space. -/
def ioctlGetCopyMsgMem (region : McsRprocMem) (copied : Bool) (info : CoreMsgMemInfo) :
    Option CoreMsgMemInfo :=
  if copied then
    match getCopyMsgMem region info.instanceId with
    | .error _ => none
    | .ok window => some { info with phyAddr := window.phyAddr, size := window.size }
  else none

/-- `init_core_shared_memory`: the request that it has filled in, or `none` if it returns -1. -/
def initCoreSharedMemory (pagesize : UInt64) (region : McsRprocMem) (results : CoreResults)
    (info : CoreMsgMemInfo) : Option CoreMsgMemInfo :=
  if results.mcsFd < 0 then none
  else
    match ioctlGetCopyMsgMem region results.copied info with
    | none => none
    | some info =>
        match results.va with
        | none => none
        | some va =>
            some { info with
              virAddr := va
              alignSize := alignedSize pagesize info.phyAddr info.size
              phyAddr := alignedAddr pagesize info.phyAddr }

/-- The reserved region as a range of addresses. -/
def reservedRange (region : McsRprocMem) : Region := ⟨region.phyAddr.toNat, region.size.toNat⟩

def windowRange (window : CopyWindow) : Region := ⟨window.phyAddr.toNat, window.size.toNat⟩

/-- The range that is mapped. -/
def CoreMsgMemInfo.mappedRange (info : CoreMsgMemInfo) : Region :=
  ⟨info.phyAddr.toNat, info.alignSize.toNat⟩

/-- The bytes that are mapped from `vir_addr` on: the window and the rest of its pages. -/
def CoreMsgMemInfo.mappedLength (info : CoreMsgMemInfo) : ℕ :=
  max info.size.toNat info.alignSize.toNat

/-- The windows that the driver gives out lie in the reserved region, as does what is mapped for
them if the region consists of pages, and they are apart from each other. -/
structure WindowsContained (region : McsRprocMem) : Prop where
  window : ∀ instanceId window, getCopyMsgMem region instanceId = .ok window →
    (windowRange window).Within (reservedRange region)
  mapped : ∀ pagesize results info mapped, PowerOfTwo pagesize.toNat →
    pagesize.toNat ∣ region.phyAddr.toNat → pagesize.toNat ∣ region.size.toNat →
      initCoreSharedMemory pagesize region results info = some mapped →
        mapped.mappedRange.Within (reservedRange region)
  apart : ∀ leftId rightId left right, getCopyMsgMem region leftId = .ok left →
    getCopyMsgMem region rightId = .ok right → leftId ≠ rightId →
      (windowRange left).Apart (windowRange right)

/-- The test of the driver: the window does not start behind the end of the region. -/
def StartsInside (region : McsRprocMem) (instanceId : UInt32) : Prop :=
  copyMsgAddr region instanceId ≤ region.phyAddr + region.size

/-- The window of an instance ends in the region, and its address does not wrap. -/
def WindowFits (region : McsRprocMem) (instanceId : UInt32) : Prop :=
  windowOffset instanceId.toNat + 0x200000 ≤ region.size.toNat ∧
    region.phyAddr.toNat + windowOffset instanceId.toNat < 2 ^ 64

section Windows

variable {region : McsRprocMem} {instanceId : UInt32} {window : CopyWindow} {pagesize : UInt64}

theorem getCopyMsgMem_eq_ok_iff :
    (∃ window, getCopyMsgMem region instanceId = .ok window) ↔
      instanceId.toNat ≤ rprocMemMax ∧ StartsInside region instanceId := by
  unfold getCopyMsgMem StartsInside
  split_ifs with tooLarge outside
  · simp [not_le.2 tooLarge]
  · simp [UInt64.not_le.2 outside]
  · simp [not_lt.1 tooLarge, UInt64.not_lt.1 outside]

theorem toNat_phyAddr (accepted : getCopyMsgMem region instanceId = .ok window) :
    window.phyAddr.toNat =
        (region.phyAddr.toNat + windowOffset instanceId.toNat) % 2 ^ 64 ∧
      window.size.toNat = 0x200000 ∧ instanceId.toNat ≤ 4 := by
  rcases getCopyMsgMem_ok accepted with ⟨small, size, offset, addr, offsetEq⟩
  refine ⟨?_, ?_, small⟩
  · rw [addr, UInt64.toNat_add, offsetEq]
  · rw [size]
    rfl

theorem within_iff_windowFits (accepted : getCopyMsgMem region instanceId = .ok window) :
    (windowRange window).Within (reservedRange region) ↔ WindowFits region instanceId := by
  rcases toNat_phyAddr accepted with ⟨addr, size, small⟩
  have sizeLt := region.size.toNat_lt
  have addrLt := region.phyAddr.toNat_lt
  rw [Region.within_iff]
  · simp only [Region.finish, windowRange, reservedRange, WindowFits, addr, size, windowOffset]
    omega
  · simp only [windowRange, size]
    omega

theorem wraps_or_not {base : UInt64} {addr offset : ℕ}
    (addrEq : addr = (base.toNat + offset) % 2 ^ 64) (small : offset < 2 ^ 64) :
    addr = base.toNat + offset ∨ addr + 2 ^ 64 = base.toNat + offset := by
  have baseLt := base.toNat_lt
  omega

theorem apart_windows_of_lt {leftId rightId : UInt32} {left right : CopyWindow}
    (leftOk : getCopyMsgMem region leftId = .ok left)
    (rightOk : getCopyMsgMem region rightId = .ok right)
    (before : leftId.toNat < rightId.toNat) : (windowRange left).Apart (windowRange right) := by
  rcases toNat_phyAddr leftOk with ⟨leftAddr, leftSize, leftSmall⟩
  rcases toNat_phyAddr rightOk with ⟨rightAddr, rightSize, rightSmall⟩
  rw [Region.apart_iff]
  simp only [Region.finish, windowRange, leftSize, rightSize]
  simp only [windowOffset] at leftAddr rightAddr
  rcases wraps_or_not leftAddr (by omega) with leftEq | leftEq <;>
    rcases wraps_or_not rightAddr (by omega) with rightEq | rightEq <;> omega

theorem apart_windows {leftId rightId : UInt32} {left right : CopyWindow}
    (leftOk : getCopyMsgMem region leftId = .ok left)
    (rightOk : getCopyMsgMem region rightId = .ok right) (distinct : leftId ≠ rightId) :
    (windowRange left).Apart (windowRange right) := by
  have numbers : leftId.toNat ≠ rightId.toNat := fun same => distinct (UInt32.toNat_inj.1 same)
  rcases lt_or_gt_of_ne numbers with before | behind
  · exact apart_windows_of_lt leftOk rightOk before
  · exact Region.Apart.symm (apart_windows_of_lt rightOk leftOk behind)

theorem initCoreSharedMemory_eq_some {results : CoreResults} {info mapped : CoreMsgMemInfo}
    (initialised : initCoreSharedMemory pagesize region results info = some mapped) :
    ∃ window, getCopyMsgMem region info.instanceId = .ok window ∧
      mapped.phyAddr = alignedAddr pagesize window.phyAddr ∧
      mapped.alignSize = alignedSize pagesize window.phyAddr window.size ∧
      mapped.size = window.size := by
  unfold initCoreSharedMemory ioctlGetCopyMsgMem at initialised
  cases accepted : getCopyMsgMem region info.instanceId with
  | error code =>
      simp [accepted] at initialised
  | ok window =>
      refine ⟨window, rfl, ?_⟩
      cases returned : results.va with
      | none =>
          simp only [accepted, returned] at initialised
          split_ifs at initialised
      | some va =>
          simp only [accepted, returned] at initialised
          split_ifs at initialised
          simp only [Option.some.injEq] at initialised
          rw [← initialised]
          exact ⟨rfl, rfl, rfl⟩

/-- What is mapped for a window that fits into a region of pages lies in the region. -/
theorem mappedRange_within (power : PowerOfTwo pagesize.toNat)
    (baseDvd : pagesize.toNat ∣ region.phyAddr.toNat) (sizeDvd : pagesize.toNat ∣ region.size.toNat)
    {results : CoreResults} {info mapped : CoreMsgMemInfo}
    (initialised : initCoreSharedMemory pagesize region results info = some mapped)
    (fits : WindowFits region info.instanceId) :
    mapped.mappedRange.Within (reservedRange region) := by
  rcases initCoreSharedMemory_eq_some initialised with ⟨window, accepted, addr, length, _⟩
  rcases toNat_phyAddr accepted with ⟨windowAddr, windowSize, small⟩
  rcases fits with ⟨sizeLe, unwrapped⟩
  rw [Nat.mod_eq_of_lt unwrapped] at windowAddr
  -- the window is as far into its page as its offset is
  have offsetLe : window.phyAddr.toNat % pagesize.toNat ≤ windowOffset info.instanceId.toNat := by
    rw [windowAddr, Nat.add_mod, Nat.mod_eq_zero_of_dvd baseDvd, Nat.zero_add, Nat.mod_mod]
    exact Nat.mod_le _ _
  have pageLe : pagesize.toNat ≤ 2 ^ 63 := power.le_of_lt pagesize.toNat_lt
  have between := @aligned_between pagesize power window.phyAddr window.size
    region.phyAddr.toNat (region.phyAddr.toNat + region.size.toNat) baseDvd
    (Nat.dvd_add baseDvd sizeDvd) (by omega) (by omega) (by
      rw [windowSize]
      rw [windowOffset] at offsetLe
      omega)
  apply Set.Ico_subset_Ico
  · simp only [reservedRange, CoreMsgMemInfo.mappedRange, addr]
    exact between.1
  · simp only [Region.finish, reservedRange, CoreMsgMemInfo.mappedRange, addr, length]
    exact between.2

/-- The windows are contained in the region exactly if every window that starts in it fits. -/
theorem windowsContained_iff (region : McsRprocMem) :
    WindowsContained region ↔
      ∀ instanceId, instanceId.toNat ≤ rprocMemMax → StartsInside region instanceId →
        WindowFits region instanceId := by
  constructor
  · intro contained instanceId small inside
    rcases getCopyMsgMem_eq_ok_iff.2 ⟨small, inside⟩ with ⟨window, accepted⟩
    exact (within_iff_windowFits accepted).1 (contained.window instanceId window accepted)
  · intro fits
    have fitting : ∀ instanceId window, getCopyMsgMem region instanceId = .ok window →
        WindowFits region instanceId := by
      intro instanceId window accepted
      rcases getCopyMsgMem_eq_ok_iff.1 ⟨window, accepted⟩ with ⟨small, inside⟩
      exact fits instanceId small inside
    refine ⟨?_, ?_, ?_⟩
    · intro instanceId window accepted
      exact (within_iff_windowFits accepted).2 (fitting instanceId window accepted)
    · intro pagesize results info mapped power baseDvd sizeDvd initialised
      rcases initCoreSharedMemory_eq_some initialised with ⟨window, accepted, -⟩
      exact mappedRange_within power baseDvd sizeDvd initialised (fitting _ window accepted)
    · intro leftId rightId left right leftOk rightOk distinct
      exact apart_windows leftOk rightOk distinct

/-- In a region in the lower half of the address space, a window that starts inside fits unless the
region ends in its 2 MiB. -/
theorem windowFits_iff_of_low (low : region.phyAddr.toNat + region.size.toNat < 2 ^ 63)
    (small : instanceId.toNat ≤ rprocMemMax) :
    (StartsInside region instanceId → WindowFits region instanceId) ↔
      ¬(windowOffset instanceId.toNat ≤ region.size.toNat ∧
        region.size.toNat < windowOffset instanceId.toNat + 0x200000) := by
  rcases copyMsgAddr_eq region small with ⟨offset, addr, offsetEq⟩
  simp only [rprocMemMax] at small
  rw [StartsInside, WindowFits, addr, UInt64.le_iff_toNat_le, UInt64.toNat_add, UInt64.toNat_add,
    offsetEq]
  simp only [windowOffset]
  omega

/-- A region that ends in the middle of the window of instance 0. -/
def shortRegion : McsRprocMem := ⟨0x70000000, 0xe00000⟩

theorem not_windowsContained_shortRegion : ¬WindowsContained shortRegion := by
  intro contained
  have within := contained.window 0 ⟨0x70d00000, 0x200000⟩ (by rfl)
  rw [Region.within_iff (by decide)] at within
  revert within
  decide

end Windows

end UserMsg

end Mica
