import Mica.Lib.Region
import Mica.McsKm.CopyMsg
import Mica.Micad.Listener

/-!
# The layout of reserved memory

Three places divide the first reserved region without a common definition of how.
`rproc_config` (`library/remoteproc/baremetal_rproc.c`) gives a bare-metal client a
pool of 128 KiB at a stride of its CPU number, the driver gives a message
instance a window of 2 MiB at a stride of 36 MiB from 13 MiB on, and the daemon
decides which clients there are.

The pools of the CPUs 104 to 119 are where the window of instance 0 is, and so on
every 288 CPUs; and since the daemon accepts several clients on one CPU, these
share a pool. The product of the CPU number with the stride is 32 bits wide, so
numbers that differ by a multiple of `2 ^ 15` also meet.
-/

namespace Mica

namespace Memory

open McsKm Micad

def shmPoolSize : UInt32 := 0x20000

/-- The physical address that `rproc_config` passes to `init_shmem_pool`. -/
def poolAddr (region : McsRprocMem) (cpuId : UInt32) : UInt64 :=
  region.phyAddr + (cpuId * shmPoolSize).toUInt64

def poolSpan (region : McsRprocMem) (client : Micad.MicaClient) : Set UInt64 :=
  span (poolAddr region client.cpuId) shmPoolSize.toNat

def windowSpan (window : CopyWindow) : Set UInt64 := span window.phyAddr window.size.toNat

/-- The pools of the clients and the windows of the accepted instances are pairwise disjoint. -/
structure LayoutApart (region : McsRprocMem) (clients : List Micad.MicaClient) : Prop where
  pools : clients.Pairwise fun left right =>
    Disjoint (poolSpan region left) (poolSpan region right)
  windows : ∀ leftId rightId leftWindow rightWindow,
    getCopyMsgMem region leftId = .ok leftWindow →
      getCopyMsgMem region rightId = .ok rightWindow → leftId ≠ rightId →
        Disjoint (windowSpan leftWindow) (windowSpan rightWindow)
  poolsWindows : ∀ client ∈ clients, ∀ instanceId window,
    getCopyMsgMem region instanceId = .ok window →
      Disjoint (poolSpan region client) (windowSpan window)

/-- The slot of a CPU, in pools from the start of the region. -/
def poolSlot (client : Micad.MicaClient) : ℕ := client.cpuId.toNat % 2 ^ 15

/-- The slots that the window of an instance covers. -/
def WindowCovers (instanceId : UInt32) (slot : ℕ) : Prop :=
  104 + 288 * instanceId.toNat ≤ slot ∧ slot < 120 + 288 * instanceId.toNat

/-- No two clients have one slot, and no client has one that an accepted window covers. -/
structure NoClash (region : McsRprocMem) (clients : List Micad.MicaClient) : Prop where
  slots : clients.Pairwise fun left right => poolSlot left ≠ poolSlot right
  uncovered : ∀ client ∈ clients, ∀ instanceId window,
    getCopyMsgMem region instanceId = .ok window → ¬WindowCovers instanceId (poolSlot client)

section Offsets

variable {region : McsRprocMem} {client left right : Micad.MicaClient}

theorem poolOffset_toNat (client : Micad.MicaClient) :
    (client.cpuId * shmPoolSize).toUInt64.toNat = poolSlot client * 0x20000 := by
  rw [UInt32.toNat_toUInt64, UInt32.toNat_mul, poolSlot]
  change client.cpuId.toNat * 0x20000 % 2 ^ 32 = _
  omega

theorem poolSlot_lt (client : Micad.MicaClient) : poolSlot client < 2 ^ 15 :=
  Nat.mod_lt _ (Nat.two_pow_pos 15)

theorem disjoint_pools_iff :
    Disjoint (poolSpan region left) (poolSpan region right) ↔ poolSlot left ≠ poolSlot right := by
  have leftLt := poolSlot_lt left
  have rightLt := poolSlot_lt right
  have size : shmPoolSize.toNat = 0x20000 := rfl
  simp only [poolSpan, poolAddr]
  rw [disjoint_span_offset_iff, Region.apart_iff, poolOffset_toNat, poolOffset_toNat, size]
  · simp only [Region.finish]
    omega
  all_goals
    try rw [poolOffset_toNat]
    omega

theorem disjoint_windows {leftId rightId : UInt32} {leftWindow rightWindow : CopyWindow}
    (leftOk : getCopyMsgMem region leftId = .ok leftWindow)
    (rightOk : getCopyMsgMem region rightId = .ok rightWindow) (distinct : leftId ≠ rightId) :
    Disjoint (windowSpan leftWindow) (windowSpan rightWindow) := by
  rcases getCopyMsgMem_ok leftOk with ⟨leftSmall, leftSize, leftOffset, leftAddr, leftEq⟩
  rcases getCopyMsgMem_ok rightOk with ⟨rightSmall, rightSize, rightOffset, rightAddr, rightEq⟩
  have numbers : leftId.toNat ≠ rightId.toNat := fun same => distinct (UInt32.toNat_inj.1 same)
  have size : (0x200000 : UInt64).toNat = 0x200000 := rfl
  simp only [rprocMemMax, windowOffset] at leftSmall rightSmall leftEq rightEq
  simp only [windowSpan, leftAddr, rightAddr, leftSize, rightSize, size]
  rw [disjoint_span_offset_iff, Region.apart_iff]
  · simp only [Region.finish]
    omega
  all_goals omega

theorem disjoint_pool_window_iff {instanceId : UInt32} {window : CopyWindow}
    (accepted : getCopyMsgMem region instanceId = .ok window) :
    Disjoint (poolSpan region client) (windowSpan window) ↔
      ¬WindowCovers instanceId (poolSlot client) := by
  rcases getCopyMsgMem_ok accepted with ⟨small, windowSize, offset, addr, offsetEq⟩
  have slotLt := poolSlot_lt client
  have poolSize : shmPoolSize.toNat = 0x20000 := rfl
  have size : (0x200000 : UInt64).toNat = 0x200000 := rfl
  simp only [rprocMemMax, windowOffset] at small offsetEq
  simp only [poolSpan, poolAddr, windowSpan, addr, windowSize, size, poolSize, WindowCovers]
  rw [disjoint_span_offset_iff, Region.apart_iff, poolOffset_toNat]
  · simp only [Region.finish]
    omega
  all_goals
    try rw [poolOffset_toNat]
    omega

theorem layoutApart_iff_noClash (clients : List Micad.MicaClient) :
    LayoutApart region clients ↔ NoClash region clients := by
  constructor
  · intro apart
    refine ⟨apart.pools.imp disjoint_pools_iff.1, ?_⟩
    intro client listed instanceId window accepted
    exact (disjoint_pool_window_iff accepted).1
      (apart.poolsWindows client listed instanceId window accepted)
  · intro noClash
    refine ⟨noClash.slots.imp disjoint_pools_iff.2, ?_, ?_⟩
    · intro leftId rightId leftWindow rightWindow leftOk rightOk distinct
      exact disjoint_windows leftOk rightOk distinct
    · intro client listed instanceId window accepted
      exact (disjoint_pool_window_iff accepted).2
        (noClash.uncovered client listed instanceId window accepted)

end Offsets

section Daemon

variable {region : McsRprocMem} {nprocessors : Int} {events : List Event}

/-- For the clients that the daemon has after any events, the pools and the windows are pairwise
disjoint exactly if no two clients share a slot and none has one under a window. -/
theorem layoutApart_listenersAfter_iff (region : McsRprocMem) (nprocessors : Int)
    (events : List Event) :
    LayoutApart region (bareMetalClients (listenersAfter nprocessors events)) ↔
      NoClash region (bareMetalClients (listenersAfter nprocessors events)) :=
  layoutApart_iff_noClash _

/-- On a machine with at most 104 CPUs all that matters is that every client has its own. -/
theorem layoutApart_iff_distinct_cpus (few : nprocessors ≤ 104) :
    LayoutApart region (bareMetalClients (listenersAfter nprocessors events)) ↔
      (bareMetalClients (listenersAfter nprocessors events)).Pairwise
        fun left right => left.cpuId ≠ right.cpuId := by
  have slot : ∀ client ∈ bareMetalClients (listenersAfter nprocessors events),
      poolSlot client = client.cpuId.toNat ∧ client.cpuId.toNat < 104 := by
    intro client listed
    have configured := cpuId_lt_of_mem_bareMetalClients listed
    have small : client.cpuId.toNat < 104 := by omega
    exact ⟨Nat.mod_eq_of_lt (by omega), small⟩
  have slots : ∀ left ∈ bareMetalClients (listenersAfter nprocessors events),
      ∀ right ∈ bareMetalClients (listenersAfter nprocessors events),
        poolSlot left ≠ poolSlot right ↔ left.cpuId ≠ right.cpuId := by
    intro left leftListed right rightListed
    rw [(slot left leftListed).1, (slot right rightListed).1, ne_eq, UInt32.toNat_inj]
  rw [layoutApart_iff_noClash]
  constructor
  · intro noClash
    apply noClash.slots.imp_of_mem
    intro left right leftListed rightListed
    exact (slots left leftListed right rightListed).1
  · intro distinct
    refine ⟨distinct.imp_of_mem ?_, ?_⟩
    · intro left right leftListed rightListed
      exact (slots left leftListed right rightListed).2
    · rintro client listed instanceId window - ⟨covered, -⟩
      rcases slot client listed with ⟨slotEq, small⟩
      omega

/-- A create message that nothing outside the daemon refuses. -/
def createOn (cpu : UInt32) (letter : UInt8) (letterNe : 0 ∉ [letter]) : Event :=
  .create ⟨0, false, 0, 0⟩ ⟨cpu, ⟨[letter], letterNe⟩, ⟨[letter], letterNe⟩,
    ⟨[], CString.noNul_nil⟩⟩

/-- 256 MiB at `0x70000000`. -/
def reservedRegion : McsRprocMem := ⟨0x70000000, 0x10000000⟩

/-- Two clients on CPU 1 of a machine with four CPUs share a pool, and a client on CPU 104 of a
machine with 128 CPUs has its pool in the window of instance 0. -/
theorem not_layoutApart_same_cpu_or_cpu104 :
    ¬LayoutApart reservedRegion (bareMetalClients
        (listenersAfter 4 [createOn 1 0x61 (by decide), createOn 1 0x62 (by decide)])) ∧
      ¬LayoutApart reservedRegion (bareMetalClients
        (listenersAfter 128 [createOn 104 0x61 (by decide)])) := by
  constructor
  · intro apart
    have slots := (layoutApart_iff_noClash _).1 apart |>.slots
    revert slots
    decide
  · intro apart
    apply ((layoutApart_iff_noClash _).1 apart).uncovered ⟨104, .bareMetal⟩ (by decide) 0
      ⟨0x70d00000, 0x200000⟩ (by rfl)
    exact ⟨by decide, by decide⟩

end Daemon

end Memory

end Mica
