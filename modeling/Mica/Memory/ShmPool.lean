import Mica.Lib.CTypes
import Mathlib.Data.UInt
import Mica.Lib.Region
import Mica.Lib.Run

/-!
# The shared-memory pool of a client

`init_shmem_pool` and `alloc_shmem_region` of `library/memory/shm_pool.c`. A pool
is one mapping of physical memory, and regions are cut from it by moving
`unused_shmem_start` upwards. A caller either takes the next free address
(`phys` is 0) or asks for a fixed physical address; both move the same pointer.

Pointers and sizes are 64 bits wide. The bound test of `alloc_shmem_region`
computes `va + size` in that width: for a size close to `2 ^ 64` the sum wraps to
an address below the end of the pool and the test passes.
-/

namespace Mica

namespace Memory

open Errno

def null : UInt64 := 0

def metalBadPhys : UInt64 := 0xffffffffffffffff

/-- The address translations of a `struct metal_io_region`. -/
structure MetalIoRegion where
  physToVirt : UInt64 → UInt64
  virtToPhys : UInt64 → UInt64

namespace MetalIoRegion

/-- The region maps `size` bytes of physical memory at `pa` to the address `va`. -/
structure Maps (io : MetalIoRegion) (pa va size : UInt64) : Prop where
  physToVirt_inside : ∀ phys : UInt64, pa.toNat ≤ phys.toNat →
    phys.toNat < pa.toNat + size.toNat → io.physToVirt phys = va + (phys - pa)
  physToVirt_outside : ∀ phys : UInt64,
    ¬(pa.toNat ≤ phys.toNat ∧ phys.toNat < pa.toNat + size.toNat) → io.physToVirt phys = null
  virtToPhys_inside : ∀ virt : UInt64, va.toNat ≤ virt.toNat →
    virt.toNat < va.toNat + size.toNat → io.virtToPhys virt = pa + (virt - va)
  virtToPhys_outside : ∀ virt : UInt64,
    ¬(va.toNat ≤ virt.toNat ∧ virt.toNat < va.toNat + size.toNat) →
      io.virtToPhys virt = metalBadPhys

/-- A region of one contiguous mapping. -/
def linear (pa va size : UInt64) : MetalIoRegion where
  physToVirt phys :=
    if pa.toNat ≤ phys.toNat ∧ phys.toNat < pa.toNat + size.toNat then va + (phys - pa) else null
  virtToPhys virt :=
    if va.toNat ≤ virt.toNat ∧ virt.toNat < va.toNat + size.toNat then pa + (virt - va)
    else metalBadPhys

theorem linear_maps (pa va size : UInt64) : (linear pa va size).Maps pa va size where
  physToVirt_inside _ above below := if_pos ⟨above, below⟩
  physToVirt_outside _ outside := if_neg outside
  virtToPhys_inside _ above below := if_pos ⟨above, below⟩
  virtToPhys_outside _ outside := if_neg outside

end MetalIoRegion

/-- What `remoteproc_mmap` gives back: the mapped address, or `null`, and the I/O region. -/
structure Mapping where
  va : UInt64
  io : MetalIoRegion

/-- The mapping is the one asked for, and its end is an address. -/
structure Mapping.Valid (mapping : Mapping) (pa size : UInt64) : Prop where
  maps : mapping.io.Maps pa mapping.va size
  unwrapped : mapping.va.toNat + size.toNat < 2 ^ 64

/-- The pool fields of `struct mica_client`. -/
structure MicaClient where
  physShmemStart : UInt64
  shmemSize : UInt32
  virtShmemStart : UInt64
  virtShmemEnd : UInt64
  unusedShmemStart : UInt64
  shbufIo : MetalIoRegion

def shmPoolPhysToVirt (client : MicaClient) (phys : UInt64) : UInt64 :=
  client.shbufIo.physToVirt phys

def shmPoolVirtToPhys (client : MicaClient) (va : UInt64) : UInt64 :=
  client.shbufIo.virtToPhys va

/-- `init_shmem_pool`, with `remoteproc_mmap` as a parameter. -/
def initShmemPool (remoteprocMmap : UInt64 → UInt64 → Mapping) (pa size : UInt64) :
    Except Int MicaClient :=
  let mapping := remoteprocMmap pa size
  if mapping.va = null then .error (-eperm)
  else .ok {
    physShmemStart := pa
    shmemSize := size.toUInt32
    virtShmemStart := mapping.va
    virtShmemEnd := mapping.va + size
    unusedShmemStart := mapping.va
    shbufIo := mapping.io }

/-- The address a region for `phys` starts at, before its size is looked at. -/
def placement (client : MicaClient) (phys : UInt64) : Option UInt64 :=
  if phys = 0 then some client.unusedShmemStart
  else
    let va := shmPoolPhysToVirt client phys
    if va = null then none
    else if va < client.unusedShmemStart then none
    else some va

/-- `alloc_shmem_region`: the address returned, or `null`, and the client afterwards. -/
def allocShmemRegion (client : MicaClient) (phys size : UInt64) : UInt64 × MicaClient :=
  match placement client phys with
  | none => (null, client)
  | some va =>
      if va + size > client.virtShmemEnd then (null, client)
      else (va, { client with unusedShmemStart := va + size })

/-- The arguments of a call of `alloc_shmem_region`. -/
structure Request where
  phys : UInt64
  size : UInt64

/-- A client with the regions it has been given, newest first. -/
structure Run where
  client : MicaClient
  granted : List Region

namespace Run

def step (run : Run) (request : Request) : Run :=
  let (va, client) := allocShmemRegion run.client request.phys request.size
  if va = null then { run with client := client }
  else ⟨client, ⟨va.toNat, request.size.toNat⟩ :: run.granted⟩

end Run

/-- The run of a fresh pool through the requests. -/
def serve (client : MicaClient) (requests : List Request) : Run :=
  requests.foldl Run.step ⟨client, []⟩

/-- The pointer to unused memory lies in the pool. -/
def Bounded (client : MicaClient) : Prop :=
  client.virtShmemStart.toNat ≤ client.unusedShmemStart.toNat ∧
    client.unusedShmemStart.toNat ≤ client.virtShmemEnd.toNat

/-- A successful call gives a region in the pool and apart from those given before; a failed
call changes nothing. -/
def CallCorrect (run : Run) (request : Request) : Prop :=
  let (va, client) := allocShmemRegion run.client request.phys request.size
  let region : Region := ⟨va.toNat, request.size.toNat⟩
  if va = null then client = run.client
  else run.client.virtShmemStart.toNat ≤ region.start ∧
    region.finish ≤ run.client.virtShmemEnd.toNat ∧
    ∀ earlier ∈ run.granted, region.Apart earlier

/-- The pointer stays in the pool throughout the requests and every call is correct. -/
def PoolCorrect (client : MicaClient) (requests : List Request) : Prop :=
  Run.AllStates Run.step ⟨client, []⟩ (fun run => Bounded run.client) requests ∧
    Run.AllSteps Run.step ⟨client, []⟩ CallCorrect requests

/-- The end of the region that the call would place is an address. -/
def Unwrapped (client : MicaClient) (request : Request) : Prop :=
  if request.phys = 0 then client.unusedShmemStart.toNat + request.size.toNat < 2 ^ 64
  else
    let va := shmPoolPhysToVirt client request.phys
    va ≠ null → client.unusedShmemStart ≤ va → va.toNat + request.size.toNat < 2 ^ 64

instance (client : MicaClient) (request : Request) : Decidable (Unwrapped client request) := by
  unfold Unwrapped
  infer_instance

/-- The fields of a client that `init_shmem_pool` has set up and no allocation changes. -/
structure IsPool (client : MicaClient) (pa size : UInt64) : Prop where
  maps : client.shbufIo.Maps pa client.virtShmemStart size
  start_pos : 0 < client.virtShmemStart.toNat
  end_eq : client.virtShmemEnd.toNat = client.virtShmemStart.toNat + size.toNat

section Setup

variable {remoteprocMmap : UInt64 → UInt64 → Mapping} {pa size : UInt64} {client : MicaClient}

theorem isPool_of_initShmemPool (valid : (remoteprocMmap pa size).Valid pa size)
    (initialised : initShmemPool remoteprocMmap pa size = .ok client) :
    IsPool client pa size ∧ client.unusedShmemStart = client.virtShmemStart := by
  rw [initShmemPool] at initialised
  split_ifs at initialised with failed
  cases initialised
  refine ⟨⟨valid.maps, ?_, ?_⟩, rfl⟩
  · apply Nat.pos_of_ne_zero
    intro zero
    exact failed (UInt64.toNat_inj.1 zero)
  · have unwrapped := valid.unwrapped
    simp only [UInt64.toNat_add]
    exact Nat.mod_eq_of_lt unwrapped

theorem virtShmemStart_of_initShmemPool
    (initialised : initShmemPool remoteprocMmap pa size = .ok client) :
    client.virtShmemStart = (remoteprocMmap pa size).va := by
  rw [initShmemPool] at initialised
  split_ifs at initialised
  cases initialised
  rfl

end Setup

section Calls

variable {client : MicaClient} {pa size : UInt64} {phys length va : UInt64}

theorem IsPool.withUnused (pool : IsPool client pa size) (unused : UInt64) :
    IsPool { client with unusedShmemStart := unused } pa size :=
  ⟨pool.maps, pool.start_pos, pool.end_eq⟩

theorem unwrapped_iff {request : Request} : Unwrapped client request ↔
    ∀ va, placement client request.phys = some va →
      va.toNat + request.size.toNat < 2 ^ 64 := by
  simp only [Unwrapped, placement]
  split_ifs with next missing behind
  · simp
  · simp [missing]
  · simp [missing, UInt64.not_le.2 behind]
  · simp [missing, UInt64.not_lt.1 behind]

theorem physToVirt_lt_end (pool : IsPool client pa size)
    (found : shmPoolPhysToVirt client phys ≠ null) :
    (shmPoolPhysToVirt client phys).toNat < client.virtShmemEnd.toNat := by
  have mapped : pa.toNat ≤ phys.toNat ∧ phys.toNat < pa.toNat + size.toNat := by
    by_contra outside
    exact found (pool.maps.physToVirt_outside phys outside)
  rcases mapped with ⟨above, below⟩
  have offset : (phys - pa).toNat = phys.toNat - pa.toNat :=
    UInt64.toNat_sub_of_le _ _ (UInt64.le_iff_toNat_le.2 above)
  rw [shmPoolPhysToVirt, pool.maps.physToVirt_inside phys above below, UInt64.toNat_add, offset,
    pool.end_eq]
  apply lt_of_le_of_lt (Nat.mod_le _ _)
  omega

theorem placement_bounds (pool : IsPool client pa size) (bounded : Bounded client)
    (placed : placement client phys = some va) :
    client.unusedShmemStart.toNat ≤ va.toNat ∧ va.toNat ≤ client.virtShmemEnd.toNat := by
  simp only [placement] at placed
  split_ifs at placed with next missing behind
  · cases placed
    exact ⟨le_rfl, bounded.2⟩
  · cases placed
    refine ⟨UInt64.le_iff_toNat_le.1 (UInt64.not_lt.1 behind), ?_⟩
    exact le_of_lt (physToVirt_lt_end pool missing)

theorem placement_ne_null (pool : IsPool client pa size) (bounded : Bounded client)
    (placed : placement client phys = some va) : va ≠ null := by
  rintro rfl
  have above := (placement_bounds pool bounded placed).1
  have positive := lt_of_lt_of_le pool.start_pos (le_trans bounded.1 above)
  exact absurd positive (lt_irrefl 0)

theorem allocShmemRegion_of_placement_none (unplaced : placement client phys = none) :
    allocShmemRegion client phys length = (null, client) := by
  rw [allocShmemRegion, unplaced]

theorem allocShmemRegion_of_placement (placed : placement client phys = some va) :
    allocShmemRegion client phys length =
      if va + length > client.virtShmemEnd then (null, client)
      else (va, { client with unusedShmemStart := va + length }) := by
  rw [allocShmemRegion, placed]

/-- All that a call can do when the end of the region it would place is an address. -/
theorem allocShmemRegion_cases (pool : IsPool client pa size) (bounded : Bounded client)
    (unwrapped : Unwrapped client ⟨phys, length⟩) :
    allocShmemRegion client phys length = (null, client) ∨
      ∃ va, va ≠ null ∧
        allocShmemRegion client phys length =
          (va, { client with unusedShmemStart := va + length }) ∧
        (va + length).toNat = va.toNat + length.toNat ∧
        client.unusedShmemStart.toNat ≤ va.toNat ∧
        va.toNat + length.toNat ≤ client.virtShmemEnd.toNat := by
  cases placed : placement client phys with
  | none => exact Or.inl (allocShmemRegion_of_placement_none placed)
  | some va =>
      have sum : (va + length).toNat = va.toNat + length.toNat := by
        rw [UInt64.toNat_add]
        exact Nat.mod_eq_of_lt (unwrapped_iff.1 unwrapped va placed)
      rw [allocShmemRegion_of_placement placed]
      split_ifs with tooLong
      · exact Or.inl rfl
      · refine Or.inr ⟨va, placement_ne_null pool bounded placed, rfl, sum,
          (placement_bounds pool bounded placed).1, ?_⟩
        rw [← sum]
        exact UInt64.le_iff_toNat_le.1 (UInt64.not_lt.1 tooLong)

theorem allocShmemRegion_of_wrap (pool : IsPool client pa size) (bounded : Bounded client)
    (placed : placement client phys = some va)
    (wraps : 2 ^ 64 ≤ va.toNat + length.toNat) :
    allocShmemRegion client phys length =
      (va, { client with unusedShmemStart := va + length }) := by
  rw [allocShmemRegion_of_placement placed, if_neg]
  apply UInt64.not_lt.2
  rw [UInt64.le_iff_toNat_le, UInt64.toNat_add]
  apply le_trans _ (placement_bounds pool bounded placed).2
  have vaLt := va.toNat_lt
  have lengthLt := length.toNat_lt
  omega

end Calls

section Runs

variable {client : MicaClient} {pa size : UInt64} {run : Run} {request : Request}

theorem callCorrect_of_null (refused : allocShmemRegion run.client request.phys request.size =
    (null, run.client)) : CallCorrect run request := by
  simp [CallCorrect, refused]

/-- The run is one of the arena between the bounds of the pool. -/
structure Refines (run : Run) (client : MicaClient)
    (arena : Arena client.virtShmemStart.toNat client.virtShmemEnd.toNat) : Prop where
  fields : run.client = { client with unusedShmemStart := run.client.unusedShmemStart }
  unused : run.client.unusedShmemStart.toNat = arena.unused
  granted : run.granted = arena.taken

namespace Refines

variable {arena : Arena client.virtShmemStart.toNat client.virtShmemEnd.toNat}

theorem start_eq (refines : Refines run client arena) :
    run.client.virtShmemStart = client.virtShmemStart := by
  rw [refines.fields]

theorem end_eq (refines : Refines run client arena) :
    run.client.virtShmemEnd = client.virtShmemEnd := by
  rw [refines.fields]

theorem isPool (refines : Refines run client arena) (pool : IsPool client pa size) :
    IsPool run.client pa size := by
  rw [refines.fields]
  exact pool.withUnused _

theorem bounded (refines : Refines run client arena) : Bounded run.client := by
  rw [Bounded, refines.start_eq, refines.end_eq, refines.unused]
  exact ⟨arena.lower_le, arena.le_upper⟩

theorem step (refines : Refines run client arena) (pool : IsPool client pa size)
    (unwrapped : Unwrapped run.client request) :
    CallCorrect run request ∧ ∃ after, Refines (run.step request) client after := by
  rcases allocShmemRegion_cases (refines.isPool pool) refines.bounded unwrapped with
    refused | ⟨va, nonNull, granted, sum, above, below⟩
  · refine ⟨callCorrect_of_null refused, arena, ?_⟩
    have unchanged : run.step request = run := by simp [Run.step, refused]
    rwa [unchanged]
  · rw [refines.unused] at above
    rw [refines.end_eq] at below
    have apart : ∀ earlier ∈ run.granted,
        Region.Apart ⟨va.toNat, request.size.toNat⟩ earlier := by
      rw [refines.granted]
      exact arena.apart_of_unused_le above
    constructor
    · simp only [CallCorrect, granted, if_neg nonNull, refines.start_eq, refines.end_eq]
      exact ⟨le_trans arena.lower_le above, below, apart⟩
    · refine ⟨arena.take ⟨va.toNat, request.size.toNat⟩ above below, ?_⟩
      have after : run.step request = ⟨{ run.client with unusedShmemStart := va + request.size },
          ⟨va.toNat, request.size.toNat⟩ :: run.granted⟩ := by
        simp [Run.step, granted, nonNull]
      rw [after]
      refine ⟨?_, sum, congrArg _ refines.granted⟩
      dsimp only
      rw [refines.fields]

end Refines

theorem unwrapped_of_callCorrect (pool : IsPool run.client pa size)
    (bounded : Bounded run.client) (correct : CallCorrect run request) :
    Unwrapped run.client request := by
  rw [unwrapped_iff]
  intro va placed
  by_contra wraps
  have granted := allocShmemRegion_of_wrap pool bounded placed (not_lt.1 wraps)
  have nonNull := placement_ne_null pool bounded placed
  simp only [CallCorrect, granted, if_neg nonNull] at correct
  apply wraps
  exact lt_of_le_of_lt correct.2.1 (UInt64.toNat_lt _)

/-- The run is one of an arena. -/
def IsArena (client : MicaClient) (run : Run) : Prop := ∃ arena, Refines run client arena

theorem isArena_fresh (pool : IsPool client pa size)
    (fresh : client.unusedShmemStart = client.virtShmemStart) :
    IsArena client ⟨client, []⟩ := by
  have startLe : client.virtShmemStart.toNat ≤ client.virtShmemEnd.toNat := by
    rw [pool.end_eq]
    exact Nat.le_add_right _ _
  exact ⟨Arena.empty startLe, rfl, congrArg UInt64.toNat fresh, rfl⟩

/-- In a pool set up by `init_shmem_pool`, a sequence of calls keeps the allocator's promise
exactly if no call of it places a region whose end wraps. -/
theorem poolCorrect_iff (remoteprocMmap : UInt64 → UInt64 → Mapping) (pa size : UInt64)
    (valid : (remoteprocMmap pa size).Valid pa size)
    (initialised : initShmemPool remoteprocMmap pa size = .ok client)
    (requests : List Request) :
    PoolCorrect client requests ↔
      Run.AllSteps Run.step ⟨client, []⟩ (fun run => Unwrapped run.client) requests := by
  rcases isPool_of_initShmemPool valid initialised with ⟨pool, fresh⟩
  have kept : ∀ run request, IsArena client run → Unwrapped run.client request →
      IsArena client (run.step request) := by
    rintro run request ⟨arena, refines⟩ unwrapped
    exact (refines.step pool unwrapped).2
  have decides : ∀ run request, IsArena client run →
      (CallCorrect run request ↔ Unwrapped run.client request) := by
    rintro run request ⟨arena, refines⟩
    exact ⟨unwrapped_of_callCorrect (refines.isPool pool) refines.bounded,
      fun unwrapped => (refines.step pool unwrapped).1⟩
  have initially := isArena_fresh pool fresh
  have calls := Run.allSteps_iff_allSteps initially kept decides requests
  constructor
  · intro correct
    exact calls.1 correct.2
  · intro unwrapped
    refine ⟨?_, calls.2 unwrapped⟩
    intro before isPrefix
    rcases unwrapped.allStates initially kept before isPrefix with ⟨arena, refines⟩
    exact refines.bounded

/-- A pool of 64 KiB at the physical address `0x70000000`. -/
def smallPool : MicaClient where
  physShmemStart := 0x70000000
  shmemSize := 0x10000
  virtShmemStart := 0x7f0000000000
  virtShmemEnd := 0x7f0000010000
  unusedShmemStart := 0x7f0000000000
  shbufIo := .linear 0x70000000 0x7f0000000000 0x10000

def smallMmap (pa size : UInt64) : Mapping := ⟨0x7f0000000000, .linear pa 0x7f0000000000 size⟩

theorem initShmemPool_small : initShmemPool smallMmap 0x70000000 0x10000 = .ok smallPool := by
  rw [initShmemPool, if_neg]
  · rfl
  · decide

/-- A page, two pages at a fixed address, a fixed address that is already used, and a region
behind all of them. -/
def fourRequests : List Request :=
  [⟨0, 0x1000⟩, ⟨0x70004000, 0x2000⟩, ⟨0x70001000, 0x10⟩, ⟨0, 0x800⟩]

theorem poolCorrect_fourRequests :
    PoolCorrect smallPool fourRequests ∧
      (serve smallPool fourRequests).granted.map Region.start =
        [0x7f0000006000, 0x7f0000004000, 0x7f0000000000] := by
  refine ⟨?_, by decide⟩
  apply (poolCorrect_iff smallMmap 0x70000000 0x10000
    ⟨MetalIoRegion.linear_maps _ _ _, by decide⟩ initShmemPool_small _).2
  decide

/-- A request for all but one of the `2 ^ 64` addresses is granted and moves the pointer to
one address before the pool. -/
theorem not_poolCorrect_wrapping :
    initShmemPool smallMmap 0x70000000 0x10000 = .ok smallPool ∧
      (allocShmemRegion smallPool 0 0xffffffffffffffff).1 = 0x7f0000000000 ∧
      (serve smallPool [⟨0, 0xffffffffffffffff⟩]).client.unusedShmemStart = 0x7effffffffff ∧
      ¬PoolCorrect smallPool [⟨0, 0xffffffffffffffff⟩] := by
  refine ⟨initShmemPool_small, by decide, by decide, ?_⟩
  intro correct
  have bounded : Bounded (serve smallPool [⟨0, 0xffffffffffffffff⟩]).client :=
    correct.1 _ (List.prefix_refl _)
  revert bounded
  rw [Bounded]
  decide

end Runs

end Memory

end Mica
