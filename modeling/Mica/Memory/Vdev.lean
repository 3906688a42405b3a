import Mica.Lib.CTypes
import Mica.Lib.Align
import Mica.Memory.ShmPool

/-!
# The vrings of the vdev

`setup_vdev` of `library/rpmsg_device/rpmsg_vdev.c` gives every vring of the
resource table, and then the shared buffers, memory from the pool of the client. A
vring without an address (`FW_RSC_U32_ADDR_ANY`) takes the next free region and
its address is written to the table. When the host restarts while the client goes
on, the table has addresses and `setup_vdev` has to find the same memory again,
on a pool that may be mapped at another virtual address.

`vring_size` and `remoteproc_mmap` are functions of OpenAMP and parameters here.
The buffers are also zeroed; their contents are not part of the layout.
-/

namespace Mica

namespace Memory

open Errno

def fwRscU32AddrAny : UInt32 := 0xffffffff

/-- The fields of `struct fw_rsc_vdev_vring` that `setup_vdev` uses. -/
structure FwRscVdevVring where
  da : UInt32
  align : UInt32
  num : UInt32
deriving DecidableEq

/-- The macro `ALIGN_UP` at the type `unsigned int`. -/
def alignUp (x alignTo : UInt32) : UInt32 := (x + (alignTo - 1)) &&& ~~~(alignTo - 1)

/-- What `setup_vdev` uses of OpenAMP: the result of `vring_size` as an `unsigned int`, and the
device address after `remoteproc_mmap` as a function of `pa`, `da` and the size. -/
structure OpenAmp where
  vringSize : UInt32 → UInt32 → UInt32
  remoteprocMmapDa : UInt64 → UInt64 → UInt64 → UInt64

/-- Memory given out by `setup_vdev`, at its virtual address. -/
structure ShmBuffer where
  buf : UInt64
  bufsz : UInt64
deriving DecidableEq

/-- What `setup_vdev` leaves behind: the client, the vrings of the resource table, the memory of
the vrings in order and the buffer pool `vdev_shpool`. -/
structure Setup where
  client : MicaClient
  vrings : List FwRscVdevVring
  buffers : List ShmBuffer
  vdevShpool : Option ShmBuffer

/-- The physical address and the size of a buffer. -/
def ShmBuffer.physical (buffer : ShmBuffer) (client : MicaClient) : UInt64 × UInt64 :=
  (shmPoolVirtToPhys client buffer.buf, buffer.bufsz)

/-- The physical layout of the vrings and of the buffer pool. -/
def Setup.layout (setup : Setup) : List (UInt64 × UInt64) × Option (UInt64 × UInt64) :=
  (setup.buffers.map fun buffer => buffer.physical setup.client,
    setup.vdevShpool.map fun buffer => buffer.physical setup.client)

namespace OpenAmp

variable (openAmp : OpenAmp)

/-- The size of the memory of a vring. -/
def vringBufsz (vring : FwRscVdevVring) : UInt64 :=
  (alignUp (openAmp.vringSize vring.num vring.align) vring.align).toUInt64

/-- The body of the loop of `setup_vdev`; `none` if there is no memory. -/
def setupVring (client : MicaClient) (vring : FwRscVdevVring) :
    Option (ShmBuffer × MicaClient × FwRscVdevVring) :=
  let bufsz := openAmp.vringBufsz vring
  if vring.da = fwRscU32AddrAny then
    let (buf, client) := allocShmemRegion client 0 bufsz
    if buf = null then none
    else
      let pa := shmPoolVirtToPhys client buf
      let da := openAmp.remoteprocMmapDa pa metalBadPhys bufsz
      some (⟨buf, bufsz⟩, client, { vring with da := da.toUInt32 })
  else
    let (buf, client) := allocShmemRegion client vring.da.toUInt64 bufsz
    if buf = null then none else some (⟨buf, bufsz⟩, client, vring)

/-- The loop of `setup_vdev`: the value to return, or 0 if it runs to the end. -/
def setupVrings (client : MicaClient) : List FwRscVdevVring → Int × Setup
  | [] => (0, ⟨client, [], [], none⟩)
  | vring :: rest =>
      match openAmp.setupVring client vring with
      | none => (-enomem, ⟨client, vring :: rest, [], none⟩)
      | some (buffer, client, vring) =>
          let (ret, setup) := setupVrings client rest
          (ret, { setup with
            vrings := vring :: setup.vrings, buffers := buffer :: setup.buffers })

/-- The size of the buffer pool, computed from the last vring. -/
def shpoolBufsz (vring : FwRscVdevVring) : UInt64 := (512 * vring.num * 2).toUInt64

/-- The part of `setup_vdev` behind the loop, which allocates the buffer pool. -/
def setupShpool (setup : Setup) : Int × Setup :=
  match setup.vrings.getLast? with
  | none => (-enodev, setup)
  | some vring =>
      let (buf, client) := allocShmemRegion setup.client 0 (shpoolBufsz vring)
      if buf = null then (-enomem, setup)
      else (0, { setup with
        client := client, vdevShpool := some ⟨buf, shpoolBufsz vring⟩ })

/-- `setup_vdev`, with the vrings of the first vdev of the resource table, if it has one. -/
def setupVdev (client : MicaClient) (vdev : Option (List FwRscVdevVring)) : Int × Setup :=
  match vdev with
  | none => (-enodev, ⟨client, [], [], none⟩)
  | some vrings =>
      let (ret, setup) := openAmp.setupVrings client vrings
      if ret ≠ 0 then (ret, setup) else setupShpool setup

end OpenAmp

section AlignUp

variable {x alignTo : UInt32}

theorem alignUp_ne_zero (positive : 0 < x.toNat) (small : x.toNat < 2 ^ 31)
    (powerOfTwo : ∃ exponent, alignTo.toNat = 2 ^ exponent) : alignUp x alignTo ≠ 0 := by
  have power : Align.PowerOfTwo alignTo.toNat := powerOfTwo
  have sum := Align.toNat_add_sub_one32 power small
  intro zero
  have le : (x + (alignTo - 1)).toNat ≤ (alignTo - 1).toNat :=
    Align.le_of_and_not_eq_zero (UInt32.toNat_inj.2 zero)
  rw [sum, Align.toNat_sub_one32 power.pos] at le
  omega

end AlignUp

/-- A pool of which the first `offset` bytes are in use, mapped in user space. -/
structure UsedUpTo (client : MicaClient) (pa size : UInt64) (offset : ℕ) : Prop where
  pool : IsPool client pa size
  userSpace : client.virtShmemEnd.toNat ≤ 2 ^ 63
  unused : client.unusedShmemStart.toNat = client.virtShmemStart.toNat + offset
  offset_le : offset ≤ size.toNat

namespace UsedUpTo

variable {client : MicaClient} {pa size : UInt64} {offset : ℕ} {phys length : UInt64}

theorem bounded (used : UsedUpTo client pa size offset) : Bounded client := by
  rw [Bounded, used.pool.end_eq, used.unused]
  exact ⟨Nat.le_add_right _ _, Nat.add_le_add_left used.offset_le _⟩

theorem placement_next : placement client 0 = some client.unusedShmemStart := rfl

theorem unused_ne_null (used : UsedUpTo client pa size offset) :
    client.unusedShmemStart ≠ null :=
  placement_ne_null used.pool used.bounded placement_next

theorem toNat_next (used : UsedUpTo client pa size offset) (short : length.toNat < 2 ^ 32) :
    (client.unusedShmemStart + length).toNat =
      client.virtShmemStart.toNat + (offset + length.toNat) := by
  have userSpace := used.userSpace
  have offsetLe := used.offset_le
  rw [used.pool.end_eq] at userSpace
  rw [UInt64.toNat_add, used.unused, Nat.add_assoc]
  apply Nat.mod_eq_of_lt
  omega

theorem allocShmemRegion_next (used : UsedUpTo client pa size offset)
    (short : length.toNat < 2 ^ 32) :
    allocShmemRegion client 0 length =
      if offset + length.toNat ≤ size.toNat then
        (client.unusedShmemStart,
          { client with unusedShmemStart := client.unusedShmemStart + length })
      else (null, client) := by
  have test : client.unusedShmemStart + length > client.virtShmemEnd ↔
      ¬offset + length.toNat ≤ size.toNat := by
    rw [gt_iff_lt, UInt64.lt_iff_toNat_lt, used.toNat_next short, used.pool.end_eq, not_le]
    exact Nat.add_lt_add_iff_left
  rw [allocShmemRegion_of_placement placement_next]
  simp only [test, ite_not]

theorem advance (used : UsedUpTo client pa size offset) (short : length.toNat < 2 ^ 32)
    (fits : offset + length.toNat ≤ size.toNat) :
    UsedUpTo { client with unusedShmemStart := client.unusedShmemStart + length } pa size
      (offset + length.toNat) :=
  ⟨used.pool.withUnused _, used.userSpace, used.toNat_next short, fits⟩

theorem placement_fixed (used : UsedUpTo client pa size offset)
    (here : phys.toNat = pa.toNat + offset) (room : offset < size.toNat) :
    placement client phys = some client.unusedShmemStart := by
  have above : pa.toNat ≤ phys.toNat := by omega
  have translated : shmPoolPhysToVirt client phys = client.unusedShmemStart := by
    have inside := used.pool.maps.physToVirt_inside phys above (by omega)
    rw [shmPoolPhysToVirt, inside]
    apply UInt64.toNat_inj.1
    have offsetEq : (phys - pa).toNat = offset := by
      rw [UInt64.toNat_sub_of_le _ _ (UInt64.le_iff_toNat_le.2 above)]
      omega
    rw [UInt64.toNat_add, offsetEq, ← used.unused]
    exact Nat.mod_eq_of_lt (UInt64.toNat_lt _)
  simp only [placement, translated, used.unused_ne_null, UInt64.lt_irrefl, if_false, ite_self]

theorem allocShmemRegion_fixed (used : UsedUpTo client pa size offset)
    (here : phys.toNat = pa.toNat + offset) (room : offset < size.toNat) :
    allocShmemRegion client phys length = allocShmemRegion client 0 length := by
  rw [allocShmemRegion_of_placement (used.placement_fixed here room),
    allocShmemRegion_of_placement placement_next]

theorem virtToPhys_unused (used : UsedUpTo client pa size offset) :
    shmPoolVirtToPhys client client.unusedShmemStart =
      if offset < size.toNat then pa + UInt64.ofNat offset else metalBadPhys := by
  split_ifs with room
  · have inside := used.pool.maps.virtToPhys_inside client.unusedShmemStart
      (by rw [used.unused]; omega) (by rw [used.unused]; omega)
    rw [shmPoolVirtToPhys, inside]
    congr 1
    apply UInt64.toNat_inj.1
    rw [UInt64.toNat_sub_of_le _ _ (UInt64.le_iff_toNat_le.2 used.bounded.1), used.unused]
    have offsetLt := lt_of_lt_of_le room (le_of_lt size.toNat_lt)
    rw [UInt64.toNat_ofNat_of_lt' offsetLt]
    omega
  · apply used.pool.maps.virtToPhys_outside
    rw [used.unused]
    omega

end UsedUpTo

namespace OpenAmp

variable {openAmp : OpenAmp}

/-- The bytes of a ring in the virtio layout: the descriptors and the available ring, rounded up
to the alignment, and the used ring. -/
def ringBytes (num align : ℕ) : ℕ :=
  (16 * num + (6 + 2 * num) + (align - 1)) / align * align + (6 + 8 * num)

/-- The vring has no address yet, its alignment is a power of two, and `vring_size`, which
returns an `int`, computes the bytes of its ring without overflow. -/
structure Unplaced (openAmp : OpenAmp) (vring : FwRscVdevVring) : Prop where
  anyAddress : vring.da = fwRscU32AddrAny
  powerOfTwo : ∃ exponent, vring.align.toNat = 2 ^ exponent
  size_eq : (openAmp.vringSize vring.num vring.align).toNat =
    ringBytes vring.num.toNat vring.align.toNat
  size_lt : ringBytes vring.num.toNat vring.align.toNat < 2 ^ 31

theorem vringBufsz_lt (vring : FwRscVdevVring) : (openAmp.vringBufsz vring).toNat < 2 ^ 32 := by
  rw [vringBufsz, UInt32.toNat_toUInt64]
  exact UInt32.toNat_lt _

theorem shpoolBufsz_lt (vring : FwRscVdevVring) : (shpoolBufsz vring).toNat < 2 ^ 32 := by
  rw [shpoolBufsz, UInt32.toNat_toUInt64]
  exact UInt32.toNat_lt _

theorem vringBufsz_pos {vring : FwRscVdevVring} (unplaced : Unplaced openAmp vring) :
    0 < (openAmp.vringBufsz vring).toNat := by
  rw [vringBufsz, UInt32.toNat_toUInt64]
  apply Nat.pos_of_ne_zero
  intro zero
  have positive : 0 < ringBytes vring.num.toNat vring.align.toNat := by
    rw [ringBytes]
    omega
  refine alignUp_ne_zero ?_ ?_ unplaced.powerOfTwo (UInt32.toNat_inj.1 zero)
  · exact lt_of_lt_of_eq positive unplaced.size_eq.symm
  · exact lt_of_eq_of_lt unplaced.size_eq unplaced.size_lt

section Step

variable {first second : MicaClient} {pa size : UInt64} {offset : ℕ}

/-- The address that the table holds for a vring placed at an offset into the pool. -/
def placed (pa : UInt64) (offset : ℕ) (vring : FwRscVdevVring) : FwRscVdevVring :=
  { vring with da := UInt32.ofNat (pa.toNat + offset) }

theorem placed_da_toNat (vring : FwRscVdevVring) (low : pa.toNat + size.toNat < 2 ^ 32 - 1)
    (room : offset < size.toNat) : (placed pa offset vring).da.toNat = pa.toNat + offset := by
  apply UInt32.toNat_ofNat_of_lt'
  change pa.toNat + offset < 2 ^ 32
  omega

theorem placed_da_ne_any (vring : FwRscVdevVring) (low : pa.toNat + size.toNat < 2 ^ 32 - 1)
    (room : offset < size.toNat) : (placed pa offset vring).da ≠ fwRscU32AddrAny := by
  intro any
  have value := placed_da_toNat vring low room
  rw [any] at value
  change 2 ^ 32 - 1 = _ at value
  omega

/-- `remoteproc_mmap` gives memory whose device address is not known its physical address. -/
def SetsDa (openAmp : OpenAmp) : Prop :=
  ∀ pa size, openAmp.remoteprocMmapDa pa metalBadPhys size = pa

theorem setupVring_unplaced {vring : FwRscVdevVring} (setsDa : SetsDa openAmp)
    (used : UsedUpTo first pa size offset) (unplaced : Unplaced openAmp vring) :
    openAmp.setupVring first vring =
      if offset + (openAmp.vringBufsz vring).toNat ≤ size.toNat then
        some (⟨first.unusedShmemStart, openAmp.vringBufsz vring⟩,
          { first with
            unusedShmemStart := first.unusedShmemStart + openAmp.vringBufsz vring },
          placed pa offset vring)
      else none := by
  simp only [setupVring, if_pos unplaced.anyAddress, setsDa _ _,
    used.allocShmemRegion_next (vringBufsz_lt vring)]
  by_cases fits : offset + (openAmp.vringBufsz vring).toNat ≤ size.toNat
  · have room : offset < size.toNat := by
      have positive := vringBufsz_pos unplaced
      omega
    have phys : (shmPoolVirtToPhys first first.unusedShmemStart).toUInt32 =
        UInt32.ofNat (pa.toNat + offset) := by
      rw [used.virtToPhys_unused, if_pos room]
      apply UInt32.toNat_inj.1
      simp
    simp only [if_pos fits, used.unused_ne_null, if_false, placed, ← phys]
    rfl
  · simp only [if_neg fits, if_true]

theorem setupVring_placed {vring : FwRscVdevVring} (used : UsedUpTo second pa size offset)
    (unplaced : Unplaced openAmp vring) (low : pa.toNat + size.toNat < 2 ^ 32 - 1)
    (fits : offset + (openAmp.vringBufsz vring).toNat ≤ size.toNat) :
    openAmp.setupVring second (placed pa offset vring) =
      some (⟨second.unusedShmemStart, openAmp.vringBufsz vring⟩,
        { second with
          unusedShmemStart := second.unusedShmemStart + openAmp.vringBufsz vring },
        placed pa offset vring) := by
  have room : offset < size.toNat := by
    have positive := vringBufsz_pos unplaced
    omega
  have here : (placed pa offset vring).da.toUInt64.toNat = pa.toNat + offset := by
    rw [UInt32.toNat_toUInt64]
    exact placed_da_toNat vring low room
  have bufsz : openAmp.vringBufsz (placed pa offset vring) = openAmp.vringBufsz vring := rfl
  simp only [setupVring, if_neg (placed_da_ne_any vring low room), bufsz,
    used.allocShmemRegion_fixed here room, used.allocShmemRegion_next (vringBufsz_lt vring),
    if_pos fits, used.unused_ne_null, if_false]

end Step

/-- The second setup finds the memory of the first one, and both leave the same part of the
pool unused. -/
structure Restores (first second : MicaClient) (pa size : UInt64) (offset : ℕ) (setup : Setup)
    (again : Int × Setup) : Prop where
  returns : again.1 = 0
  vrings : again.2.vrings = setup.vrings
  firstUsed : UsedUpTo setup.client pa size offset
  secondUsed : UsedUpTo again.2.client pa size offset
  firstIo : setup.client.shbufIo = first.shbufIo
  secondIo : again.2.client.shbufIo = second.shbufIo
  buffers : again.2.buffers.map (fun buffer => buffer.physical second) =
    setup.buffers.map fun buffer => buffer.physical first

section Loop

variable {first second : MicaClient} {pa size : UInt64} {offset : ℕ}

theorem physical_unused_eq (firstUsed : UsedUpTo first pa size offset)
    (secondUsed : UsedUpTo second pa size offset) (bufsz : UInt64) :
    ShmBuffer.physical ⟨second.unusedShmemStart, bufsz⟩ second =
      ShmBuffer.physical ⟨first.unusedShmemStart, bufsz⟩ first := by
  simp only [ShmBuffer.physical, firstUsed.virtToPhys_unused, secondUsed.virtToPhys_unused]

/-- The loop over a table that the loop has updated restores its memory. The induction is on the
vrings; what carries it is that both pools are used up to the same offset. -/
theorem setupVrings_restores (setsDa : SetsDa openAmp)
    (low : pa.toNat + size.toNat < 2 ^ 32 - 1) (vrings : List FwRscVdevVring)
    (unplaced : ∀ vring ∈ vrings, Unplaced openAmp vring)
    (firstUsed : UsedUpTo first pa size offset) (secondUsed : UsedUpTo second pa size offset)
    (returns : (openAmp.setupVrings first vrings).1 = 0) :
    ∃ last, Restores first second pa size last (openAmp.setupVrings first vrings).2
      (openAmp.setupVrings second (openAmp.setupVrings first vrings).2.vrings) := by
  induction vrings generalizing first second offset with
  | nil => exact ⟨offset, rfl, rfl, firstUsed, secondUsed, rfl, rfl, rfl⟩
  | cons vring rest ih =>
      have head := unplaced vring List.mem_cons_self
      have firstStep := setupVring_unplaced setsDa firstUsed head
      by_cases fits : offset + (openAmp.vringBufsz vring).toNat ≤ size.toNat
      · rw [if_pos fits] at firstStep
        have secondStep := setupVring_placed secondUsed head low fits
        simp only [setupVrings, firstStep] at returns
        have short := @vringBufsz_lt openAmp vring
        rcases ih (fun other listed => unplaced other (List.mem_cons_of_mem _ listed))
          (firstUsed.advance short fits) (secondUsed.advance short fits) returns with
          ⟨last, restores⟩
        refine ⟨last, ?_⟩
        simp only [setupVrings, firstStep, secondStep]
        refine ⟨restores.returns, congrArg (List.cons _) restores.vrings, restores.firstUsed,
          restores.secondUsed, restores.firstIo, restores.secondIo, ?_⟩
        simp only [List.map_cons]
        rw [physical_unused_eq firstUsed secondUsed]
        exact congrArg (List.cons _) restores.buffers
      · rw [if_neg fits] at firstStep
        simp [setupVrings, firstStep, enomem] at returns

theorem setupShpool_of_getLast {setup : Setup} {vring : FwRscVdevVring}
    (last : setup.vrings.getLast? = some vring) (used : UsedUpTo setup.client pa size offset) :
    setupShpool setup =
      if offset + (shpoolBufsz vring).toNat ≤ size.toNat then
        (0, { setup with
          client := { setup.client with
            unusedShmemStart := setup.client.unusedShmemStart + shpoolBufsz vring }
          vdevShpool := some ⟨setup.client.unusedShmemStart, shpoolBufsz vring⟩ })
      else (-enomem, setup) := by
  simp only [setupShpool, last, used.allocShmemRegion_next (shpoolBufsz_lt vring)]
  by_cases fits : offset + (shpoolBufsz vring).toNat ≤ size.toNat
  · simp only [if_pos fits, used.unused_ne_null, if_false]
  · simp only [if_neg fits, if_true]

theorem setupShpool_restores {setup : Setup} {again : Int × Setup}
    (restores : Restores first second pa size offset setup again)
    (returns : (setupShpool setup).1 = 0) :
    (setupShpool again.2).1 = 0 ∧
      (setupShpool again.2).2.vrings = setup.vrings ∧
      (setupShpool again.2).2.layout = (setupShpool setup).2.layout := by
  cases last : setup.vrings.getLast? with
  | none => simp [setupShpool, last, enodev] at returns
  | some vring =>
      have secondLast : again.2.vrings.getLast? = some vring := by
        rw [restores.vrings]
        exact last
      rw [setupShpool_of_getLast last restores.firstUsed] at returns ⊢
      rw [setupShpool_of_getLast secondLast restores.secondUsed]
      split_ifs at returns ⊢ with fits
      · refine ⟨rfl, restores.vrings, ?_⟩
        have shpool := physical_unused_eq restores.firstUsed restores.secondUsed
          (shpoolBufsz vring)
        have buffers := restores.buffers
        simp only [ShmBuffer.physical, shmPoolVirtToPhys] at shpool buffers
        simp only [Setup.layout, ShmBuffer.physical, shmPoolVirtToPhys, restores.firstIo,
          restores.secondIo, buffers, Option.map_some]
        rw [← restores.firstIo, ← restores.secondIo, shpool]
      · simp [enomem] at returns

end Loop

/-- The mapping is the one asked for, in the lower half of the address space, where the kernel
places the mappings of a process. -/
structure UserMapping (mapping : Mapping) (pa size : UInt64) : Prop where
  maps : mapping.io.Maps pa mapping.va size
  lowerHalf : mapping.va.toNat + size.toNat ≤ 2 ^ 63

theorem UserMapping.valid {mapping : Mapping} {pa size : UInt64}
    (user : UserMapping mapping pa size) : mapping.Valid pa size :=
  ⟨user.maps, lt_of_le_of_lt user.lowerHalf (by omega)⟩

section Restart

variable {pa size : UInt64} {first second : MicaClient}

theorem usedUpTo_of_initShmemPool {remoteprocMmap : UInt64 → UInt64 → Mapping}
    (user : UserMapping (remoteprocMmap pa size) pa size)
    (initialised : initShmemPool remoteprocMmap pa size = .ok first) :
    UsedUpTo first pa size 0 := by
  rcases isPool_of_initShmemPool user.valid initialised with ⟨pool, fresh⟩
  refine ⟨pool, ?_, congrArg UInt64.toNat fresh, Nat.zero_le _⟩
  rw [pool.end_eq, virtShmemStart_of_initShmemPool initialised]
  exact user.lowerHalf

theorem setupVdev_of_loop {openAmp : OpenAmp} {vrings : List FwRscVdevVring}
    (looped : (openAmp.setupVrings first vrings).1 = 0) :
    openAmp.setupVdev first (some vrings) =
      setupShpool (openAmp.setupVrings first vrings).2 := by
  simp only [setupVdev, looped, ne_eq, not_true, if_false]

theorem loop_of_setupVdev {openAmp : OpenAmp} {vrings : List FwRscVdevVring}
    (returns : (openAmp.setupVdev first (some vrings)).1 = 0) :
    (openAmp.setupVrings first vrings).1 = 0 := by
  by_contra failed
  simp only [setupVdev, ne_eq, failed, not_false_eq_true, if_true] at returns

theorem vrings_setupShpool (setup : Setup) : (setupShpool setup).2.vrings = setup.vrings := by
  unfold setupShpool
  split
  · rfl
  · simp only
    split_ifs <;> rfl

theorem length_buffers_setupVrings {openAmp : OpenAmp} {client : MicaClient}
    {vrings : List FwRscVdevVring} (returns : (openAmp.setupVrings client vrings).1 = 0) :
    (openAmp.setupVrings client vrings).2.buffers.length = vrings.length := by
  induction vrings generalizing client with
  | nil => rfl
  | cons vring rest ih =>
      rw [setupVrings] at returns ⊢
      cases placed : openAmp.setupVring client vring with
      | none => simp [placed, enomem] at returns
      | some result =>
          rw [placed] at returns
          exact congrArg (· + 1) (ih returns)

theorem length_layout_setupShpool {setup : Setup} (returns : (setupShpool setup).1 = 0) :
    (setupShpool setup).2.layout.1.length = setup.buffers.length ∧
      (setupShpool setup).2.layout.2.isSome := by
  rw [setupShpool] at returns ⊢
  cases last : setup.vrings.getLast? with
  | none => simp [last, enodev] at returns
  | some vring =>
      rw [last] at returns
      dsimp only at returns ⊢
      split_ifs at returns ⊢ with failed
      · simp [enomem] at returns
      · simp [Setup.layout]

/-- If `setup_vdev` succeeds on a fresh pool, it has memory for every vring and a buffer pool. It
succeeds again on a fresh pool at the same
physical place with the table it has updated, leaves the table alone and gives every vring and
the buffer pool the same physical address and size. -/
theorem setupVdev_restored (openAmp : OpenAmp) (setsDa : SetsDa openAmp)
    (low : pa.toNat + size.toNat < 2 ^ 32 - 1) (vrings : List FwRscVdevVring)
    (unplaced : ∀ vring ∈ vrings, Unplaced openAmp vring)
    (firstMmap secondMmap : UInt64 → UInt64 → Mapping)
    (firstUser : UserMapping (firstMmap pa size) pa size)
    (secondUser : UserMapping (secondMmap pa size) pa size)
    (firstPool : initShmemPool firstMmap pa size = .ok first)
    (secondPool : initShmemPool secondMmap pa size = .ok second)
    (returns : (openAmp.setupVdev first (some vrings)).1 = 0) :
    let setup := (openAmp.setupVdev first (some vrings)).2
    let again := openAmp.setupVdev second (some setup.vrings)
    setup.layout.1.length = vrings.length ∧ setup.layout.2.isSome ∧
      again.1 = 0 ∧ again.2.vrings = setup.vrings ∧ again.2.layout = setup.layout := by
  have firstUsed := usedUpTo_of_initShmemPool firstUser firstPool
  have secondUsed := usedUpTo_of_initShmemPool secondUser secondPool
  have looped := loop_of_setupVdev returns
  rcases setupVrings_restores setsDa low vrings unplaced firstUsed secondUsed looped with
    ⟨last, restores⟩
  rw [setupVdev_of_loop looped] at returns ⊢
  dsimp only
  rw [vrings_setupShpool, setupVdev_of_loop restores.returns, ← length_buffers_setupVrings looped]
  exact and_assoc.mp ⟨length_layout_setupShpool returns, setupShpool_restores restores returns⟩

/-- The ring layout of virtio in 32-bit arithmetic, without an address translation. -/
def virtioOpenAmp : OpenAmp where
  vringSize num align := alignUp (16 * num + (6 + 2 * num)) align + (6 + 8 * num)
  remoteprocMmapDa pa _ _ := pa

/-- Two vrings of four descriptors without an address. -/
def twoVrings : List FwRscVdevVring :=
  [⟨fwRscU32AddrAny, 0x1000, 4⟩, ⟨fwRscU32AddrAny, 0x1000, 4⟩]

theorem setupVdev_restored_twoVrings :
    let setup := (virtioOpenAmp.setupVdev smallPool (some twoVrings)).2
    let again := virtioOpenAmp.setupVdev smallPool (some setup.vrings)
    setup.layout.1.length = 2 ∧ setup.layout.2.isSome ∧
      again.1 = 0 ∧ again.2.vrings = setup.vrings ∧ again.2.layout = setup.layout := by
  have user : UserMapping (smallMmap 0x70000000 0x10000) 0x70000000 0x10000 :=
    ⟨MetalIoRegion.linear_maps _ _ _, by decide⟩
  have unplaced : ∀ vring ∈ twoVrings, Unplaced virtioOpenAmp vring := by
    intro vring listed
    simp only [twoVrings, List.mem_cons, List.not_mem_nil, or_false, or_self] at listed
    subst listed
    exact ⟨rfl, ⟨12, rfl⟩, by decide, by decide⟩
  exact setupVdev_restored virtioOpenAmp (fun _ _ => rfl) (by decide) twoVrings unplaced
    smallMmap smallMmap user user initShmemPool_small initShmemPool_small (by decide)

end Restart

end OpenAmp

end Memory

end Mica
