import Mica.Lib.AddressSpace
import Mica.Lifecycle.Basic
import Mica.Memory.Pages
import Mica.Memory.ShmPool

/-!
# Mappings of the remote processor

`rproc_mmap` and `rproc_shutdown` of `library/remoteproc/baremetal_rproc.c` and
`library/remoteproc/jailhouse_rproc.c`. A mapping is recorded in `rproc->mems` by
the address behind the offset in the page, the physical address and the size that
was asked for, and shutdown walks the list and unmaps every entry. On bare metal
`get_mmap_addr_info` computes the rounded range again; the copy for jailhouse
passes what is recorded, so `munmap` refuses a mapping with an offset and its pages
stay behind. Before it walks the list, bare-metal shutdown tells the remote through the
resource table to switch itself off, without a check that there is a table.

`remoteproc_init_mem` and `metal_io_init` store their arguments, and
`remoteproc_add_mem` appends to the list.
-/

namespace Mica

namespace Remoteproc

open AddressSpace Memory

/-- The fields of `struct metal_io_region` that shutdown uses; `physmap` is what the pointer of
this name points to, the field `pa` of the memory. -/
structure MetalIoRegion where
  virt : UInt64
  physmap : UInt64
  size : UInt64
deriving DecidableEq

/-- `struct remoteproc_mem` -/
structure RemoteprocMem where
  pa : UInt64
  da : UInt64
  size : UInt64
  io : MetalIoRegion
deriving DecidableEq

/-- A call of `rproc_mmap`: its arguments, the address that `mmap` returns, if it does not fail,
and whether the two allocations succeed. -/
structure MmapCall where
  pa : UInt64
  da : UInt64
  size : UInt64
  va : Option UInt64
  memAllocated : Bool
  ioAllocated : Bool
deriving DecidableEq

namespace MmapCall

/-- The physical address; a bad one is replaced by the device address. -/
def lpa (call : MmapCall) : UInt64 := if call.pa = metalBadPhys then call.da else call.pa

def lda (call : MmapCall) : UInt64 := if call.da = metalBadPhys then call.lpa else call.da

end MmapCall

/-- The remote processor: its list `mems`, and the calls that have changed the mappings of the
process. -/
structure Rproc where
  mems : List RemoteprocMem
  log : List Syscall
deriving DecidableEq

/-- The memory that is recorded for a mapping at `va`. -/
def recorded (pagesize : UInt64) (call : MmapCall) (va : UInt64) : RemoteprocMem where
  pa := call.lpa
  da := call.lda
  size := call.size
  io := { virt := va + pageOffset pagesize call.lpa, physmap := call.lpa, size := call.size }

/-- `rproc_mmap` of a pedestal that maps an aligned physical address at `fileOffset` of its device.
The call has succeeded if memory is recorded. -/
def rprocMmap (fileOffset : UInt64 → UInt64) (pagesize : UInt64) (call : MmapCall) :
    List Syscall × Option RemoteprocMem :=
  if call.pa = metalBadPhys ∧ call.da = metalBadPhys then ([], none)
  else
    let length := alignedSize pagesize call.lpa call.size
    match call.va with
    | none => ([], none)
    | some va =>
        let mapping := Syscall.mmap va length (fileOffset (alignedAddr pagesize call.lpa))
        if call.memAllocated ∧ call.ioAllocated then
          ([mapping], some (recorded pagesize call va))
        else ([mapping, .munmap va length], none)

/-- The remote processor after a call of the `rproc_mmap` of its pedestal. -/
def Rproc.mmap (rprocMmap : MmapCall → List Syscall × Option RemoteprocMem) (rproc : Rproc)
    (call : MmapCall) : Rproc :=
  let (syscalls, memory) := rprocMmap call
  { mems := rproc.mems ++ memory.toList, log := rproc.log ++ syscalls }

/-- The remote processor after some calls. -/
def Rproc.after (rprocMmap : MmapCall → List Syscall × Option RemoteprocMem)
    (calls : List MmapCall) : Rproc :=
  calls.foldl (Rproc.mmap rprocMmap) ⟨[], []⟩

/-- The loop of `rproc_shutdown`, with the nodes before the cursor and those from it on. A node is
deleted after the cursor has gone back to its predecessor, so the next one is the one behind the
deleted node. The result is what is unmapped and what is left of the list. -/
def shutdownMems (unmap : MetalIoRegion → Syscall) (before : List RemoteprocMem) :
    List RemoteprocMem → List Syscall × List RemoteprocMem
  | [] => ([], before)
  | mem :: rest =>
      let (syscalls, left) := shutdownMems unmap before rest
      (unmap mem.io :: syscalls, left)

def Rproc.unmapAll (unmap : MetalIoRegion → Syscall) (rproc : Rproc) : Rproc :=
  let (syscalls, left) := shutdownMems unmap [] rproc.mems
  { mems := left, log := rproc.log ++ syscalls }

namespace BareMetal

def rprocMmap (pagesize : UInt64) (call : MmapCall) : List Syscall × Option RemoteprocMem :=
  Remoteproc.rprocMmap id pagesize call

/-- `get_mmap_addr_info`: the address and the length to unmap. -/
def getMmapAddrInfo (pagesize : UInt64) (io : MetalIoRegion) : UInt64 × UInt64 :=
  (io.virt - pageOffset pagesize io.physmap, alignedSize pagesize io.physmap io.size)

/-- The remote processor with `rsc_table`, if it is not null: the word `reserved[0]` of the table
that it points to. `notified` is the word that the remote finds at its last notification. -/
structure Remote extends Rproc where
  rscTable : Option UInt32
  notified : Option UInt32
deriving DecidableEq

namespace Remote

/-- `set_cpu_status` stores through the pointer. -/
def setCpuStatus (remote : Remote) (status : UInt32) : Option Remote :=
  remote.rscTable.map fun _ => { remote with rscTable := some status }

/-- `rproc_notify` -/
def notify (remote : Remote) : Remote := { remote with notified := remote.rscTable }

end Remote

/-- The process does not survive a null pointer, and nothing has been unmapped then. -/
def rprocShutdown (pagesize : UInt64) (remote : Remote) : Option Remote := do
  let remote ← remote.setCpuStatus Lifecycle.cpuOffFuncid
  let remote := remote.notify
  let rproc := remote.unmapAll fun io =>
    let (virt, size) := getMmapAddrInfo pagesize io
    .munmap virt size
  return { remote with toRproc := rproc, rscTable := none }

end BareMetal

namespace Jailhouse

/-- The mapping starts behind the register page and the state table of the ivshmem device at
`shmemAddr`. -/
def rprocMmap (shmemAddr pagesize : UInt64) (call : MmapCall) :
    List Syscall × Option RemoteprocMem :=
  Remoteproc.rprocMmap (fun aligned => aligned - shmemAddr + 2 * pagesize) pagesize call

/-- `rproc_shutdown` with the result of the command that shuts the cell down. -/
def rprocShutdown (ret : ℤ) (rproc : Rproc) : ℤ × Rproc :=
  if ret ≠ 0 then (ret, rproc)
  else (0, rproc.unmapAll fun io => .munmap io.virt io.size)

end Jailhouse

/-! ## The list and the system calls -/

theorem shutdownMems_eq (unmap : MetalIoRegion → Syscall) (before mems : List RemoteprocMem) :
    shutdownMems unmap before mems = (mems.map fun mem => unmap mem.io, before) := by
  induction mems with
  | nil => rfl
  | cons mem mems ih => simp only [shutdownMems, ih, List.map_cons]

section Calls

variable {fileOffset : UInt64 → UInt64} {pagesize : UInt64} {calls : List MmapCall}

/-- Every call has succeeded. -/
def Succeeded (rprocMmap : MmapCall → List Syscall × Option RemoteprocMem)
    (calls : List MmapCall) : Prop :=
  ∀ call ∈ calls, (rprocMmap call).2.isSome

instance (rprocMmap : MmapCall → List Syscall × Option RemoteprocMem) (calls : List MmapCall) :
    Decidable (Succeeded rprocMmap calls) :=
  inferInstanceAs (Decidable (∀ call ∈ calls, (rprocMmap call).2.isSome))

/-- The address of the mapping of a call that has succeeded. -/
def MmapCall.address (call : MmapCall) : UInt64 := call.va.getD 0

/-- The system call of a call that has succeeded. -/
def MmapCall.mapping (fileOffset : UInt64 → UInt64) (pagesize : UInt64) (call : MmapCall) :
    Syscall :=
  .mmap call.address (alignedSize pagesize call.lpa call.size)
    (fileOffset (alignedAddr pagesize call.lpa))

theorem rprocMmap_of_isSome {call : MmapCall}
    (succeeded : (rprocMmap fileOffset pagesize call).2.isSome) :
    rprocMmap fileOffset pagesize call =
      ([call.mapping fileOffset pagesize], some (recorded pagesize call call.address)) := by
  unfold rprocMmap at succeeded ⊢
  cases returned : call.va with
  | none => simp [returned] at succeeded
  | some va =>
      simp only [returned] at succeeded ⊢
      split_ifs at succeeded ⊢
      · cases succeeded
      · simp only [MmapCall.mapping, MmapCall.address, returned, Option.getD_some]
      · cases succeeded

theorem after_eq (succeeded : Succeeded (rprocMmap fileOffset pagesize) calls) :
    Rproc.after (rprocMmap fileOffset pagesize) calls =
      ⟨calls.map fun call => recorded pagesize call call.address,
        calls.map fun call => call.mapping fileOffset pagesize⟩ := by
  induction calls using List.reverseRecOn with
  | nil => rfl
  | append_singleton earlier call ih =>
      have last := succeeded call (List.mem_append_right _ (List.mem_singleton_self _))
      have before := ih fun other listed => succeeded other (List.mem_append_left _ listed)
      rw [Rproc.after] at before ⊢
      rw [Run.foldl_concat, before, Rproc.mmap, rprocMmap_of_isSome last]
      simp

end Calls

/-! ## Bare metal -/

/-- The address and the length of every mapping that has been made. -/
def mappings (log : List Syscall) : List (UInt64 × UInt64) :=
  log.filterMap fun syscall =>
    match syscall with
    | .mmap addr length _ => some (addr, length)
    | .munmap _ _ => none

theorem mappings_map_mapping (fileOffset : UInt64 → UInt64) (pagesize : UInt64)
    (calls : List MmapCall) :
    mappings (calls.map fun call => call.mapping fileOffset pagesize) =
      calls.map fun call => (call.address, alignedSize pagesize call.lpa call.size) := by
  simp [mappings, MmapCall.mapping, List.filterMap_map]

namespace BareMetal

theorem getMmapAddrInfo_recorded (pagesize va : UInt64) (call : MmapCall) :
    getMmapAddrInfo pagesize (recorded pagesize call va).io =
      (va, alignedSize pagesize call.lpa call.size) := by
  simp only [getMmapAddrInfo, recorded]
  congr 1
  grind

theorem rprocShutdown_of_table (pagesize : UInt64) {remote : Remote} {status : UInt32}
    (table : remote.rscTable = some status) :
    rprocShutdown pagesize remote = some
      { mems := []
        log := remote.log ++ remote.mems.map fun mem =>
          .munmap (getMmapAddrInfo pagesize mem.io).1 (getMmapAddrInfo pagesize mem.io).2
        rscTable := none
        notified := some Lifecycle.cpuOffFuncid } := by
  simp [rprocShutdown, Remote.setCpuStatus, Remote.notify, table, Rproc.unmapAll, shutdownMems_eq]

theorem rprocShutdown_of_null (pagesize : UInt64) {remote : Remote}
    (null : remote.rscTable = none) : rprocShutdown pagesize remote = none := by
  simp [rprocShutdown, Remote.setCpuStatus, null]

/-- Shutdown unmaps every mapping once, at its address and with its length, and empties the list,
exactly if there is a resource table. -/
theorem rprocShutdown_unmaps_iff (pagesize : UInt64) (calls : List MmapCall)
    (succeeded : Succeeded (rprocMmap pagesize) calls) (remote : Remote)
    (made : remote.toRproc = Rproc.after (rprocMmap pagesize) calls) :
    (mappings remote.log).length = calls.length ∧
      ((∃ stopped, rprocShutdown pagesize remote = some stopped ∧ stopped.mems = [] ∧
          stopped.log =
            remote.log ++ (mappings remote.log).map fun mapping => .munmap mapping.1 mapping.2) ↔
        remote.rscTable ≠ none) := by
  have after : Rproc.after (rprocMmap pagesize) calls = _ := after_eq succeeded
  rw [after] at made
  simp only [made, mappings_map_mapping, List.length_map, true_and]
  constructor
  · rintro ⟨stopped, returns, -⟩ null
    rw [rprocShutdown_of_null pagesize null] at returns
    cases returns
  · intro table
    obtain ⟨status, table⟩ := Option.ne_none_iff_exists'.1 table
    refine ⟨_, rprocShutdown_of_table pagesize table, rfl, ?_⟩
    simp only [made, List.map_map]
    apply congrArg
    apply List.map_congr_left
    intro call listed
    simp only [Function.comp_apply, getMmapAddrInfo_recorded]

/-- A range that starts inside a page, and one with a device address only. -/
def twoCalls : List MmapCall :=
  [⟨0x70000123, metalBadPhys, 0x1000, some 0x400000, true, true⟩,
    ⟨metalBadPhys, 0x70010fff, 1, some 0x402000, true, true⟩]

theorem rprocShutdown_unmaps_twoCalls :
    ∃ stopped, rprocShutdown 0x1000
        ⟨Rproc.after (rprocMmap 0x1000) twoCalls, some 0xC4000003, none⟩ = some stopped ∧
      stopped.mems = [] ∧
      stopped.log = [.mmap 0x400000 0x2000 0x70000000, .mmap 0x402000 0x1000 0x70010000,
        .munmap 0x400000 0x2000, .munmap 0x402000 0x1000] :=
  ((rprocShutdown_unmaps_iff 0x1000 twoCalls (by decide)
    ⟨Rproc.after (rprocMmap 0x1000) twoCalls, some 0xC4000003, none⟩ rfl).2).2 (by decide)

/-- An image without a resource table has been loaded: two mappings are recorded and none of them
is undone. -/
theorem rprocShutdown_twoCalls_null :
    let rproc := Rproc.after (rprocMmap 0x1000) twoCalls
    Succeeded (rprocMmap 0x1000) twoCalls ∧ rproc.mems.length = 2 ∧
      rprocShutdown 0x1000 ⟨rproc, none, none⟩ = none := by
  decide

end BareMetal

/-! ## The pages of the process -/

section Pages

open Align

variable {pagesize : UInt64}

theorem alignedSize_of_aligned (power : PowerOfTwo pagesize.toNat) {lpa size : UInt64}
    (aligned : lpa.toNat % pagesize.toNat = 0)
    (positive : 0 < (alignedSize pagesize lpa size).toNat) :
    size.toNat ≤ (alignedSize pagesize lpa size).toNat ∧
      (alignedSize pagesize lpa size).toNat % pagesize.toNat = 0 ∧
      (alignedSize pagesize lpa size).toNat < size.toNat + pagesize.toNat := by
  have pagePos := power.pos
  have pageLt := pagesize.toNat_lt
  have sizeLt := size.toNat_lt
  have value := toNat_alignedSize power lpa size
  rw [aligned, Nat.zero_add] at value
  by_cases wraps : size.toNat + (pagesize.toNat - 1) < 2 ^ 64
  · rw [Nat.mod_eq_of_lt wraps] at value
    have remainder := Nat.mod_lt (size.toNat + (pagesize.toNat - 1)) pagePos
    refine ⟨by omega, ?_, by omega⟩
    rw [value]
    exact Nat.mod_eq_zero_of_dvd (Nat.dvd_sub_mod _)
  · -- what is left of the sum is less than a page and rounds down to 0
    exfalso
    have rest : (size.toNat + (pagesize.toNat - 1)) % 2 ^ 64 < pagesize.toNat := by omega
    rw [Nat.mod_eq_of_lt rest] at value
    omega

theorem add_pageOffset_mod (power : PowerOfTwo pagesize.toNat) {va lpa : UInt64}
    (aligned : va.toNat % pagesize.toNat = 0) :
    (va + pageOffset pagesize lpa).toNat % pagesize.toNat = lpa.toNat % pagesize.toNat := by
  have dvd : pagesize.toNat ∣ 2 ^ 64 := power.dvd_of_lt pagesize.toNat_lt
  rw [UInt64.toNat_add, Nat.mod_mod_of_dvd _ dvd, toNat_pageOffset power, Nat.add_mod, aligned,
    Nat.zero_add, Nat.mod_mod, Nat.mod_mod]

theorem unmapped_recorded (power : PowerOfTwo pagesize.toNat) {va lpa size : UInt64}
    (positive : 0 < (alignedSize pagesize lpa size).toNat)
    (aligned : va.toNat % pagesize.toNat = 0) :
    unmapped pagesize.toNat (va + pageOffset pagesize lpa) size =
      if lpa.toNat % pagesize.toNat = 0 then
        pages pagesize.toNat va.toNat (alignedSize pagesize lpa size).toNat
      else ∅ := by
  rw [unmapped, add_pageOffset_mod power aligned]
  split_ifs with lpaAligned
  · have noOffset : va + pageOffset pagesize lpa = va := by
      apply UInt64.toNat_inj.1
      rw [UInt64.toNat_add, toNat_pageOffset power, lpaAligned, Nat.add_zero]
      exact Nat.mod_eq_of_lt va.toNat_lt
    rcases alignedSize_of_aligned power lpaAligned positive with ⟨le, multiple, short⟩
    rw [noOffset, pages_eq_of_up aligned le multiple short]
  · rfl

theorem unmapped_recorded_eq_iff (power : PowerOfTwo pagesize.toNat) {va lpa size : UInt64}
    (positive : 0 < (alignedSize pagesize lpa size).toNat)
    (aligned : va.toNat % pagesize.toNat = 0) :
    unmapped pagesize.toNat (va + pageOffset pagesize lpa) size =
        pages pagesize.toNat va.toNat (alignedSize pagesize lpa size).toNat ↔
      lpa.toNat % pagesize.toNat = 0 := by
  rw [unmapped_recorded power positive aligned]
  constructor
  · intro same
    by_contra unaligned
    rw [if_neg unaligned] at same
    have inside := mem_pages_start positive aligned power.pos
    rw [← same] at inside
    exact inside
  · intro lpaAligned
    rw [if_pos lpaAligned]

end Pages

/-- The pages that are mapped after some system calls. -/
def mappedAfter (pagesize : UInt64) (initial : Set ℕ) (log : List Syscall) : Set ℕ :=
  log.foldl (act pagesize.toNat) initial

/-- Every `mmap` has returned what it guarantees. -/
def MmapsFresh (pagesize : UInt64) (initial : Set ℕ) (log : List Syscall) : Prop :=
  Run.AllSteps (act pagesize.toNat) initial (Fresh pagesize.toNat) log

theorem mmapsFresh_singleton {pagesize addr length offset : UInt64} (positive : 0 < length.toNat)
    (aligned : addr.toNat % pagesize.toNat = 0) :
    MmapsFresh pagesize ∅ [.mmap addr length offset] :=
  Run.allSteps_cons.2 ⟨⟨positive, aligned, Set.disjoint_empty _⟩, Run.allSteps_nil⟩

namespace BareMetal

open Align

/-- Shutdown leaves the pages that were mapped before the calls. -/
theorem rprocShutdown_restores (pagesize : UInt64) (power : PowerOfTwo pagesize.toNat)
    (initial : Set ℕ) (calls : List MmapCall) (succeeded : Succeeded (rprocMmap pagesize) calls)
    {remote stopped : Remote} (made : remote.toRproc = Rproc.after (rprocMmap pagesize) calls)
    (fresh : MmapsFresh pagesize initial remote.log)
    (returns : rprocShutdown pagesize remote = some stopped) :
    mappedAfter pagesize initial stopped.log = initial := by
  have after : Rproc.after (rprocMmap pagesize) calls = _ := after_eq succeeded
  rw [made, after] at fresh
  have each := (apart_of_fresh fresh).1
  have removed : ∀ call ∈ calls, unmapped pagesize.toNat call.address
      (alignedSize pagesize call.lpa call.size) =
      pages pagesize.toNat call.address.toNat (alignedSize pagesize call.lpa call.size).toNat := by
    intro call listed
    rw [unmapped, if_pos (each call listed).2.1]
  cases table : remote.rscTable with
  | none => simp [rprocShutdown_of_null pagesize table] at returns
  | some status =>
  rw [rprocShutdown_of_table pagesize table, Option.some.injEq] at returns
  simp only [← returns, made, after, List.map_map, mappedAfter, Function.comp_def,
    getMmapAddrInfo_recorded]
  refine (foldl_eq_initial_iff power.pos fresh ?_).2 removed
  exact fun call listed => Or.inl (removed call listed)

end BareMetal

namespace Jailhouse

open Align

/-- A successful shutdown leaves the pages that were mapped before the calls exactly if the physical
address of every call is that of a page. -/
theorem rprocShutdown_restores_iff (pagesize shmemAddr : UInt64)
    (power : PowerOfTwo pagesize.toNat) (initial : Set ℕ) (calls : List MmapCall)
    (succeeded : Succeeded (rprocMmap shmemAddr pagesize) calls)
    (fresh : MmapsFresh pagesize initial (Rproc.after (rprocMmap shmemAddr pagesize) calls).log)
    (ret : ℤ)
    (success : (rprocShutdown ret (Rproc.after (rprocMmap shmemAddr pagesize) calls)).1 = 0) :
    mappedAfter pagesize initial
        (rprocShutdown ret (Rproc.after (rprocMmap shmemAddr pagesize) calls)).2.log = initial ↔
      ∀ call ∈ calls, call.lpa.toNat % pagesize.toNat = 0 := by
  have after : Rproc.after (rprocMmap shmemAddr pagesize) calls = _ := after_eq succeeded
  have commandSucceeded : ret = 0 := by
    by_contra failed
    rw [rprocShutdown, if_pos failed] at success
    exact failed success
  rw [after] at fresh ⊢
  have each := (apart_of_fresh fresh).1
  simp only [rprocShutdown, commandSucceeded, ne_eq, not_true, if_false, Rproc.unmapAll,
    shutdownMems_eq, List.map_map, mappedAfter, Function.comp_def, recorded]
  refine (foldl_eq_initial_iff power.pos fresh ?_).trans ?_
  · intro call listed
    rw [unmapped_recorded power (each call listed).1 (each call listed).2.1]
    split_ifs
    · exact Or.inl rfl
    · exact Or.inr rfl
  · apply forall₂_congr
    intro call listed
    exact unmapped_recorded_eq_iff power (each call listed).1 (each call listed).2.1

/-- One mapping at a page. -/
def alignedCall : MmapCall := ⟨0x70000000, metalBadPhys, 0x1000, some 0x400000, true, true⟩

/-- One mapping of a page's length from the middle of a page on. -/
def unalignedCall : MmapCall := ⟨0x70000800, metalBadPhys, 0x1000, some 0x400000, true, true⟩

theorem rprocShutdown_restores_alignedCall :
    (rprocShutdown 0 (Rproc.after (rprocMmap 0x70000000 0x1000) [alignedCall])).1 = 0 ∧
      mappedAfter 0x1000 ∅
        (rprocShutdown 0 (Rproc.after (rprocMmap 0x70000000 0x1000) [alignedCall])).2.log = ∅ := by
  have log : (Rproc.after (rprocMmap 0x70000000 0x1000) [alignedCall]).log =
      [.mmap 0x400000 0x1000 0x2000] := by decide
  refine ⟨by decide, (rprocShutdown_restores_iff 0x1000 0x70000000 ⟨12, rfl⟩ ∅ [alignedCall]
    (by decide) ?_ 0 (by decide)).2 (by decide)⟩
  rw [log]
  exact mmapsFresh_singleton (by decide) (by decide)

/-- Shutdown succeeds and the two pages of the mapping are still there. -/
theorem mapped_unalignedCall :
    let rproc := Rproc.after (rprocMmap 0x70000000 0x1000) [unalignedCall]
    Succeeded (rprocMmap 0x70000000 0x1000) [unalignedCall] ∧ MmapsFresh 0x1000 ∅ rproc.log ∧
      (rprocShutdown 0 rproc).1 = 0 ∧
      mappedAfter 0x1000 ∅ (rprocShutdown 0 rproc).2.log = {0x400, 0x401} := by
  have log : (Rproc.after (rprocMmap 0x70000000 0x1000) [unalignedCall]).log =
      [.mmap 0x400000 0x2000 0x2000] := by decide
  have shutdownLog :
      (rprocShutdown 0 (Rproc.after (rprocMmap 0x70000000 0x1000) [unalignedCall])).2.log =
        [.mmap 0x400000 0x2000 0x2000, .munmap 0x400800 0x1000] := by decide
  simp only [log, shutdownLog]
  refine ⟨by decide, mmapsFresh_singleton (by decide) (by decide), by decide, ?_⟩
  ext page
  simp [mappedAfter, act, pages]
  omega

end Jailhouse

end Remoteproc

end Mica
