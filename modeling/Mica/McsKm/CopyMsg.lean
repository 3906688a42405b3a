import Mica.McsKm.Mmap

/-!
# Copy windows for user messages

The request `IOC_GET_COPY_MSG_MEM` of `mcs_ioctl` in `mcs_km/mcs_km.c`. Every
message instance has a window of 2 MiB in the first reserved region, at a stride
of 36 MiB. `instance_id` is 32 bits wide and so is its product with the stride.
Copying the request from and to user space is left out.
-/

namespace Mica

/-- The constant of the kernel module and of the user library. -/
def openampShmCopySize : ℕ := 0x100000

namespace McsKm

open Errno

def instanceSize : UInt32 := 0x2400000

def openampShmSize : UInt64 := 0x1000000

/-- The fields of `struct core_msg_mem_info` that the request sets. -/
structure CopyWindow where
  phyAddr : UInt64
  size : UInt64
deriving DecidableEq

/-- The address that the request computes for an instance. -/
def copyMsgAddr (region : McsRprocMem) (instanceId : UInt32) : UInt64 :=
  region.phyAddr + (instanceId * instanceSize).toUInt64 + openampShmSize -
    openampShmCopySize.toUInt64 * 3

/-- `IOC_GET_COPY_MSG_MEM`, with the first reserved region. -/
def getCopyMsgMem (region : McsRprocMem) (instanceId : UInt32) : Except Int CopyWindow :=
  if instanceId.toNat > rprocMemMax then .error (-einval)
  else if copyMsgAddr region instanceId > region.phyAddr + region.size then .error (-einval)
  else .ok { phyAddr := copyMsgAddr region instanceId, size := openampShmCopySize.toUInt64 * 2 }

/-- The offset of the window of an instance in the region. -/
def windowOffset (instanceId : ℕ) : ℕ := 0xd00000 + instanceId * 0x2400000

theorem copyMsgAddr_eq (region : McsRprocMem) {instanceId : UInt32}
    (small : instanceId.toNat ≤ rprocMemMax) :
    ∃ offset : UInt64, copyMsgAddr region instanceId = region.phyAddr + offset ∧
      offset.toNat = windowOffset instanceId.toNat := by
  refine ⟨(instanceId * instanceSize).toUInt64 + 0xd00000, ?_, ?_⟩
  · have rest : openampShmSize - openampShmCopySize.toUInt64 * 3 = 0xd00000 := by decide
    rw [← rest, copyMsgAddr]
    grind
  · have product : (instanceId * instanceSize).toUInt64.toNat =
        instanceId.toNat * 0x2400000 := by
      rw [UInt32.toNat_toUInt64, UInt32.toNat_mul]
      apply Nat.mod_eq_of_lt
      rw [rprocMemMax] at small
      change instanceId.toNat * 0x2400000 < 2 ^ 32
      omega
    rw [UInt64.toNat_add, product, windowOffset]
    change (_ + 0xd00000) % 2 ^ 64 = _
    rw [rprocMemMax] at small
    omega

theorem getCopyMsgMem_ok {region : McsRprocMem} {instanceId : UInt32} {window : CopyWindow}
    (accepted : getCopyMsgMem region instanceId = .ok window) :
    instanceId.toNat ≤ rprocMemMax ∧ window.size = 0x200000 ∧
      ∃ offset : UInt64, window.phyAddr = region.phyAddr + offset ∧
        offset.toNat = windowOffset instanceId.toNat := by
  rw [getCopyMsgMem] at accepted
  split_ifs at accepted with tooLarge outside
  have small := not_lt.1 tooLarge
  have twoMiB : openampShmCopySize.toUInt64 * 2 = 0x200000 := by decide
  rw [← Except.ok.inj accepted]
  exact ⟨small, twoMiB, copyMsgAddr_eq region small⟩

end McsKm

end Mica
