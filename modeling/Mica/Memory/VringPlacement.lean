import Mica.Lib.Align
import Mica.Memory.Vdev

/-!
# Placement of the vrings

The pool hands out memory without regard to alignment, so where `setup_vdev` puts a
vring depends on the rounded sizes of the vrings before it. A vring starts at a
multiple of its alignment if they do; with vrings of one alignment that is always
so. The size of the shared buffers is computed with 32 bits and wraps from `2 ^ 22`
descriptors on.
-/

namespace Mica

namespace Memory

open Errno

def ShmBuffer.region (buffer : ShmBuffer) : Region := ⟨buffer.buf.toNat, buffer.bufsz.toNat⟩

namespace OpenAmp

open Align

variable {openAmp : OpenAmp}

/-- The bytes of the ring, rounded up to its alignment. -/
def paddedBytes (vring : FwRscVdevVring) : ℕ :=
  ringBytes vring.num.toNat vring.align.toNat + (vring.align.toNat - 1) -
    (ringBytes vring.num.toNat vring.align.toNat + (vring.align.toNat - 1)) % vring.align.toNat

/-- The memory of a vring starts at a multiple of its alignment, in the process and in physical
memory, and has the bytes that `vring_size` asks for. -/
structure Holds (openAmp : OpenAmp) (client : MicaClient) (vring : FwRscVdevVring)
    (buffer : ShmBuffer) : Prop where
  virt : vring.align.toNat ∣ buffer.buf.toNat
  phys : vring.align.toNat ∣ (buffer.physical client).1.toNat
  size : (openAmp.vringSize vring.num vring.align).toNat ≤ buffer.bufsz.toNat

/-- Every vring has its memory, the buffer pool has two buffers of 512 bytes for every descriptor of
the last vring, and all of it is apart. -/
structure Placement (openAmp : OpenAmp) (vrings : List FwRscVdevVring) (setup : Setup) : Prop where
  holds : List.Forall₂ (Holds openAmp setup.client) vrings setup.buffers
  shpool : ∃ last ∈ vrings.getLast?, ∃ buffer ∈ setup.vdevShpool,
    2 * 512 * last.num.toNat ≤ buffer.bufsz.toNat
  apart : ((setup.buffers ++ setup.vdevShpool.toList).map ShmBuffer.region).Pairwise Region.Apart

/-- Every vring finds the pool used up to a multiple of its alignment. -/
def AlignedFrom : ℕ → List FwRscVdevVring → Prop
  | _, [] => True
  | offset, vring :: rest =>
      vring.align.toNat ∣ offset ∧ AlignedFrom (offset + paddedBytes vring) rest

instance decidableAlignedFrom : ∀ offset vrings, Decidable (AlignedFrom offset vrings)
  | _, [] => isTrue trivial
  | offset, vring :: rest =>
      have := decidableAlignedFrom (offset + paddedBytes vring) rest
      inferInstanceAs (Decidable (_ ∧ _))

/-- The buffers of the last vring do not need more bytes than 32 bits can count. -/
def BuffersCounted (vrings : List FwRscVdevVring) : Prop :=
  ∀ last ∈ vrings.getLast?, 2 * 512 * last.num.toNat < 2 ^ 32

section Sizes

theorem vringBufsz_toNat {vring : FwRscVdevVring} (unplaced : Unplaced openAmp vring) :
    (openAmp.vringBufsz vring).toNat = paddedBytes vring := by
  have power : PowerOfTwo vring.align.toNat := unplaced.powerOfTwo
  have small : (openAmp.vringSize vring.num vring.align).toNat < 2 ^ 31 := by
    rw [unplaced.size_eq]
    exact unplaced.size_lt
  rw [vringBufsz, UInt32.toNat_toUInt64, alignUp, toNat_down32 power,
    toNat_add_sub_one32 power small, unplaced.size_eq, paddedBytes]

theorem ringBytes_le_paddedBytes {vring : FwRscVdevVring} (unplaced : Unplaced openAmp vring) :
    ringBytes vring.num.toNat vring.align.toNat ≤ paddedBytes vring := by
  have power : PowerOfTwo vring.align.toNat := unplaced.powerOfTwo
  have below := Nat.mod_lt (ringBytes vring.num.toNat vring.align.toNat + (vring.align.toNat - 1))
    power.pos
  rw [paddedBytes]
  omega

theorem le_shpoolBufsz_iff (vring : FwRscVdevVring) :
    2 * 512 * vring.num.toNat ≤ (shpoolBufsz vring).toNat ↔ 2 * 512 * vring.num.toNat < 2 ^ 32 := by
  have value : (shpoolBufsz vring).toNat = 2 * 512 * vring.num.toNat % 2 ^ 32 := by
    rw [shpoolBufsz, UInt32.toNat_toUInt64, UInt32.toNat_mul, UInt32.toNat_mul]
    change 512 * vring.num.toNat % 2 ^ 32 * 2 % 2 ^ 32 = _
    omega
  rw [value]
  omega

end Sizes

section Loop

variable {client : MicaClient} {pa size : UInt64} {offset : ℕ}

theorem setupVring_next {vring : FwRscVdevVring} (used : UsedUpTo client pa size offset)
    (anyAddress : vring.da = fwRscU32AddrAny)
    (fits : offset + (openAmp.vringBufsz vring).toNat ≤ size.toNat) :
    ∃ da, openAmp.setupVring client vring =
      some (⟨client.unusedShmemStart, openAmp.vringBufsz vring⟩,
        { client with unusedShmemStart := client.unusedShmemStart + openAmp.vringBufsz vring },
        { vring with da := da }) := by
  simp only [setupVring, if_pos anyAddress, used.allocShmemRegion_next (vringBufsz_lt vring),
    if_pos fits, used.unused_ne_null, if_false]
  exact ⟨_, rfl⟩

theorem setupVring_full {vring : FwRscVdevVring} (used : UsedUpTo client pa size offset)
    (anyAddress : vring.da = fwRscU32AddrAny)
    (full : ¬offset + (openAmp.vringBufsz vring).toNat ≤ size.toNat) :
    openAmp.setupVring client vring = none := by
  simp only [setupVring, if_pos anyAddress, used.allocShmemRegion_next (vringBufsz_lt vring),
    if_neg full, if_true]

/-- The vrings have the memory from one offset into the pool up to another, in order. -/
inductive PlacedFrom (client : MicaClient) (pa : UInt64) :
    ℕ → List FwRscVdevVring → List ShmBuffer → ℕ → Prop
  | nil (offset : ℕ) : PlacedFrom client pa offset [] [] offset
  | cons {offset last : ℕ} {vring : FwRscVdevVring} {buffer : ShmBuffer}
      {vrings : List FwRscVdevVring} {buffers : List ShmBuffer}
      (virt : buffer.buf.toNat = client.virtShmemStart.toNat + offset)
      (phys : (buffer.physical client).1.toNat = (pa.toNat + offset) % 2 ^ 64)
      (size : buffer.bufsz.toNat = paddedBytes vring)
      (rest : PlacedFrom client pa (offset + paddedBytes vring) vrings buffers last) :
      PlacedFrom client pa offset (vring :: vrings) (buffer :: buffers) last

theorem physical_unused {bufsz : UInt64} (used : UsedUpTo client pa size offset)
    (room : offset < size.toNat) :
    ((⟨client.unusedShmemStart, bufsz⟩ : ShmBuffer).physical client).1.toNat =
      (pa.toNat + offset) % 2 ^ 64 := by
  have offsetLt : offset < 2 ^ 64 := lt_trans room size.toNat_lt
  rw [ShmBuffer.physical, used.virtToPhys_unused, if_pos room, UInt64.toNat_add,
    UInt64.toNat_ofNat_of_lt' offsetLt]

/-- What a loop that runs to the end leaves behind. -/
structure LoopPlaced (client : MicaClient) (pa size : UInt64) (offset : ℕ)
    (vrings : List FwRscVdevVring) (setup : Setup) (last : ℕ) : Prop where
  used : UsedUpTo setup.client pa size last
  start : setup.client.virtShmemStart = client.virtShmemStart
  io : setup.client.shbufIo = client.shbufIo
  placed : PlacedFrom client pa offset vrings setup.buffers last
  nums : setup.vrings.map FwRscVdevVring.num = vrings.map FwRscVdevVring.num
  shpool : setup.vdevShpool = none

theorem PlacedFrom.congr {other : MicaClient} {vrings : List FwRscVdevVring}
    {buffers : List ShmBuffer} {last : ℕ}
    (start : other.virtShmemStart = client.virtShmemStart) (io : other.shbufIo = client.shbufIo)
    (placed : PlacedFrom other pa offset vrings buffers last) :
    PlacedFrom client pa offset vrings buffers last := by
  induction placed with
  | nil offset => exact .nil offset
  | cons virt phys size rest ih =>
      refine .cons ?_ ?_ size ih
      · rw [virt, start]
      · rw [← phys, ShmBuffer.physical, ShmBuffer.physical, shmPoolVirtToPhys, shmPoolVirtToPhys,
          io]

/-- The loop places the vrings one behind the other. The induction is on the vrings; what carries it
is how far the pool is used. -/
theorem setupVrings_placed (vrings : List FwRscVdevVring)
    (unplaced : ∀ vring ∈ vrings, Unplaced openAmp vring)
    (used : UsedUpTo client pa size offset)
    (returns : (openAmp.setupVrings client vrings).1 = 0) :
    ∃ last, LoopPlaced client pa size offset vrings (openAmp.setupVrings client vrings).2 last := by
  induction vrings generalizing client offset with
  | nil => exact ⟨offset, used, rfl, rfl, .nil offset, rfl, rfl⟩
  | cons vring rest ih =>
      have head := unplaced vring List.mem_cons_self
      by_cases fits : offset + (openAmp.vringBufsz vring).toNat ≤ size.toNat
      · rcases setupVring_next used head.anyAddress fits with ⟨da, step⟩
        simp only [setupVrings, step] at returns ⊢
        have advanced := used.advance (vringBufsz_lt vring) fits
        rcases ih (fun other listed => unplaced other (List.mem_cons_of_mem _ listed)) advanced
          returns with ⟨last, loop⟩
        have bufsz := vringBufsz_toNat head
        have room : offset < size.toNat := by
          have positive := vringBufsz_pos head
          omega
        refine ⟨last, loop.used, loop.start, loop.io, ?_, ?_, loop.shpool⟩
        · refine .cons used.unused (physical_unused used room) bufsz ?_
          rw [← bufsz]
          refine PlacedFrom.congr ?_ ?_ loop.placed
          · rfl
          · rfl
        · rw [List.map_cons, List.map_cons, loop.nums]
      · simp [setupVrings, setupVring_full used head.anyAddress fits, enomem] at returns

end Loop

section Placed

variable {client : MicaClient} {pa : UInt64} {offset last : ℕ} {vrings : List FwRscVdevVring}
  {buffers : List ShmBuffer}

theorem holds_iff {pagesize : ℕ} {vring : FwRscVdevVring} {buffer : ShmBuffer}
    (unplaced : Unplaced openAmp vring) (alignDvd : vring.align.toNat ∣ pagesize)
    (startDvd : pagesize ∣ client.virtShmemStart.toNat) (paDvd : pagesize ∣ pa.toNat)
    (virt : buffer.buf.toNat = client.virtShmemStart.toNat + offset)
    (phys : (buffer.physical client).1.toNat = (pa.toNat + offset) % 2 ^ 64)
    (size : buffer.bufsz.toNat = paddedBytes vring) :
    Holds openAmp client vring buffer ↔ vring.align.toNat ∣ offset := by
  have power : PowerOfTwo vring.align.toNat := unplaced.powerOfTwo
  have wordDvd : vring.align.toNat ∣ 2 ^ 64 :=
    (power.dvd_of_lt vring.align.toNat_lt).trans (Nat.pow_dvd_pow 2 (by decide))
  constructor
  · intro holds
    have start := holds.virt
    rw [virt] at start
    exact (Nat.dvd_add_right (alignDvd.trans startDvd)).1 start
  · intro aligned
    refine ⟨?_, ?_, ?_⟩
    · rw [virt]
      exact Nat.dvd_add (alignDvd.trans startDvd) aligned
    · rw [phys, Nat.dvd_mod_iff wordDvd]
      exact Nat.dvd_add (alignDvd.trans paDvd) aligned
    · rw [size, unplaced.size_eq]
      exact ringBytes_le_paddedBytes unplaced

theorem PlacedFrom.holds_iff_alignedFrom {pagesize : ℕ}
    (placed : PlacedFrom client pa offset vrings buffers last)
    (unplaced : ∀ vring ∈ vrings, Unplaced openAmp vring)
    (alignDvd : ∀ vring ∈ vrings, vring.align.toNat ∣ pagesize)
    (startDvd : pagesize ∣ client.virtShmemStart.toNat) (paDvd : pagesize ∣ pa.toNat) :
    List.Forall₂ (Holds openAmp client) vrings buffers ↔ AlignedFrom offset vrings := by
  induction placed with
  | nil offset => exact iff_of_true .nil trivial
  | cons virt phys size rest ih =>
      rw [List.forall₂_cons, AlignedFrom,
        holds_iff (unplaced _ List.mem_cons_self) (alignDvd _ List.mem_cons_self) startDvd paDvd
          virt phys size,
        ih (fun vring listed => unplaced vring (List.mem_cons_of_mem _ listed))
          (fun vring listed => alignDvd vring (List.mem_cons_of_mem _ listed))]

theorem PlacedFrom.between (placed : PlacedFrom client pa offset vrings buffers last) :
    offset ≤ last ∧ ∀ buffer ∈ buffers,
      client.virtShmemStart.toNat + offset ≤ buffer.region.start ∧
        buffer.region.finish ≤ client.virtShmemStart.toNat + last := by
  induction placed with
  | nil offset => simp
  | cons virt phys size rest ih =>
      rcases ih with ⟨le, later⟩
      refine ⟨by omega, ?_⟩
      intro buffer listed
      rcases List.mem_cons.1 listed with rfl | listed
      · simp only [ShmBuffer.region, Region.finish, virt, size]
        omega
      · have bounds := later buffer listed
        omega

theorem PlacedFrom.apart (placed : PlacedFrom client pa offset vrings buffers last) :
    (buffers.map ShmBuffer.region).Pairwise Region.Apart := by
  induction placed with
  | nil offset => exact List.Pairwise.nil
  | cons virt phys size rest ih =>
      refine List.Pairwise.cons ?_ ih
      intro region listed
      rcases List.mem_map.1 listed with ⟨buffer, buffered, rfl⟩
      apply Region.apart_of_finish_le_start
      have above := (rest.between.2 buffer buffered).1
      simp only [ShmBuffer.region, Region.finish, virt, size] at above ⊢
      omega

end Placed

section Setup

variable {client : MicaClient} {pa size : UInt64} {offset : ℕ} {vrings : List FwRscVdevVring}

theorem setupShpool_placed {setup : Setup} {last : ℕ}
    (loop : LoopPlaced client pa size offset vrings setup last)
    (returns : (setupShpool setup).1 = 0) :
    ∃ vring ∈ vrings.getLast?, (setupShpool setup).2.buffers = setup.buffers ∧
      (setupShpool setup).2.client.virtShmemStart = client.virtShmemStart ∧
      (setupShpool setup).2.client.shbufIo = client.shbufIo ∧
      (setupShpool setup).2.vdevShpool =
        some ⟨setup.client.unusedShmemStart, shpoolBufsz vring⟩ := by
  cases found : setup.vrings.getLast? with
  | none => simp [setupShpool, found, enodev] at returns
  | some updated =>
      have num : (vrings.map FwRscVdevVring.num).getLast? = some updated.num := by
        rw [← loop.nums, List.getLast?_map, found]
        rfl
      rw [List.getLast?_map, Option.map_eq_some_iff] at num
      rcases num with ⟨vring, listed, numEq⟩
      have bufsz : shpoolBufsz updated = shpoolBufsz vring := by
        rw [shpoolBufsz, shpoolBufsz, numEq]
      rw [setupShpool_of_getLast found loop.used] at returns ⊢
      by_cases fits : last + (shpoolBufsz updated).toNat ≤ size.toNat
      · rw [if_pos fits]
        refine ⟨vring, listed, rfl, loop.start, loop.io, ?_⟩
        simp only [bufsz]
      · rw [if_neg fits] at returns
        simp [enomem] at returns

theorem LoopPlaced.apart_unused {setup : Setup} {last : ℕ}
    (loop : LoopPlaced client pa size offset vrings setup last) {buffer : ShmBuffer}
    (buffered : buffer ∈ setup.buffers) (bufsz : UInt64) :
    buffer.region.Apart (ShmBuffer.region ⟨setup.client.unusedShmemStart, bufsz⟩) := by
  apply Region.apart_of_finish_le_start
  have below := (loop.placed.between.2 buffer buffered).2
  have unused := loop.used.unused
  rw [loop.start] at unused
  rw [ShmBuffer.region, ShmBuffer.region, unused]
  exact below

theorem buffersCounted_iff {vring : FwRscVdevVring} (listed : vring ∈ vrings.getLast?) :
    BuffersCounted vrings ↔ 2 * 512 * vring.num.toNat < 2 ^ 32 := by
  constructor
  · exact fun all => all vring listed
  · intro few other otherListed
    rw [Option.mem_unique otherListed listed]
    exact few

/-- If `setup_vdev` returns 0 on a pool of pages, the vrings are placed as they should be exactly if
each finds the pool used up to a multiple of its alignment and the buffers can be counted. -/
theorem setupVdev_placement_iff (openAmp : OpenAmp) (pagesize : ℕ)
    (used : UsedUpTo client pa size offset) (startDvd : pagesize ∣ client.virtShmemStart.toNat)
    (paDvd : pagesize ∣ pa.toNat) (vrings : List FwRscVdevVring)
    (unplaced : ∀ vring ∈ vrings, Unplaced openAmp vring)
    (alignDvd : ∀ vring ∈ vrings, vring.align.toNat ∣ pagesize)
    (returns : (openAmp.setupVdev client (some vrings)).1 = 0) :
    Placement openAmp vrings (openAmp.setupVdev client (some vrings)).2 ↔
      AlignedFrom offset vrings ∧ BuffersCounted vrings := by
  have looped := loop_of_setupVdev returns
  rcases setupVrings_placed vrings unplaced used looped with ⟨last, loop⟩
  rw [setupVdev_of_loop looped] at returns ⊢
  rcases setupShpool_placed loop returns with ⟨vring, listed, buffers, start, io, shpool⟩
  have placed := loop.placed.congr start.symm io.symm
  rw [← start] at startDvd
  have holds := placed.holds_iff_alignedFrom unplaced alignDvd startDvd paDvd
  have counted := buffersCounted_iff listed
  constructor
  · intro placement
    refine ⟨?_, counted.2 ((le_shpoolBufsz_iff vring).1 ?_)⟩
    · rw [← holds, ← buffers]
      exact placement.holds
    · rcases placement.shpool with ⟨other, otherListed, buffer, isShpool, large⟩
      rw [shpool] at isShpool
      rw [Option.mem_unique otherListed listed, ← Option.some.inj isShpool] at large
      exact large
  · rintro ⟨aligned, few⟩
    refine ⟨?_, ?_, ?_⟩
    · rw [buffers]
      exact holds.2 aligned
    · exact ⟨vring, listed, _, shpool, (le_shpoolBufsz_iff vring).2 (counted.1 few)⟩
    · rw [buffers, shpool, Option.toList_some, List.map_append, List.map_singleton]
      apply List.pairwise_append.2
      refine ⟨placed.apart, List.pairwise_singleton _ _, ?_⟩
      intro region regionListed pool poolListed
      rcases List.mem_map.1 regionListed with ⟨buffer, buffered, rfl⟩
      rw [List.mem_singleton.1 poolListed]
      exact loop.apart_unused buffered _

theorem align_dvd_paddedBytes (vring : FwRscVdevVring) :
    vring.align.toNat ∣ paddedBytes vring :=
  Nat.dvd_sub_mod _

/-- Vrings of one alignment do not disturb each other. -/
theorem alignedFrom_of_same {align : UInt32} (same : ∀ vring ∈ vrings, vring.align = align)
    (dvd : align.toNat ∣ offset) : AlignedFrom offset vrings := by
  induction vrings generalizing offset with
  | nil => trivial
  | cons vring rest ih =>
      have head := same vring List.mem_cons_self
      refine ⟨?_, ih (fun other listed => same other (List.mem_cons_of_mem _ listed)) ?_⟩
      · rw [head]
        exact dvd
      · apply Nat.dvd_add dvd
        rw [← head]
        exact align_dvd_paddedBytes vring

theorem usedUpTo_smallPool : UsedUpTo smallPool 0x70000000 0x10000 0 :=
  usedUpTo_of_initShmemPool ⟨MetalIoRegion.linear_maps _ _ _, by decide⟩ initShmemPool_small

theorem setupVdev_placement_twoVrings :
    (Placement virtioOpenAmp twoVrings (virtioOpenAmp.setupVdev smallPool (some twoVrings)).2 ↔
      AlignedFrom 0 twoVrings ∧ BuffersCounted twoVrings) ∧ AlignedFrom 0 twoVrings := by
  have each : ∀ vring ∈ twoVrings, vring = ⟨fwRscU32AddrAny, 0x1000, 4⟩ := by decide
  refine ⟨setupVdev_placement_iff virtioOpenAmp 0x1000 usedUpTo_smallPool (by decide) (by decide)
    twoVrings ?_ (by decide) (by decide), by decide⟩
  intro vring listed
  rw [each vring listed]
  exact ⟨rfl, ⟨12, rfl⟩, by decide, by decide⟩

/-- A vring of a small alignment before one of a page. -/
def mixedVrings : List FwRscVdevVring :=
  [⟨fwRscU32AddrAny, 0x10, 4⟩, ⟨fwRscU32AddrAny, 0x1000, 4⟩]

/-- A vring of `2 ^ 22` descriptors. -/
def longVring : FwRscVdevVring := ⟨fwRscU32AddrAny, 0x1000, 0x400000⟩

/-- A pool of 256 MiB. -/
def largePool : MicaClient where
  physShmemStart := 0x70000000
  shmemSize := 0x10000000
  virtShmemStart := 0x7f0000000000
  virtShmemEnd := 0x7f0010000000
  unusedShmemStart := 0x7f0000000000
  shbufIo := .linear 0x70000000 0x7f0000000000 0x10000000

/-- The second of the mixed vrings starts 128 bytes into the pool, and the buffer pool of the long
vring is empty; `setup_vdev` returns 0 for both. -/
theorem not_placement_mixedVrings_and_longVring :
    ((virtioOpenAmp.setupVdev smallPool (some mixedVrings)).1 = 0 ∧
      ¬Placement virtioOpenAmp mixedVrings
        (virtioOpenAmp.setupVdev smallPool (some mixedVrings)).2) ∧
    ((virtioOpenAmp.setupVdev largePool (some [longVring])).1 = 0 ∧
      ¬Placement virtioOpenAmp [longVring]
        (virtioOpenAmp.setupVdev largePool (some [longVring])).2) := by
  refine ⟨⟨by decide, ?_⟩, by decide, ?_⟩
  · intro placement
    have buffers : (virtioOpenAmp.setupVdev smallPool (some mixedVrings)).2.buffers =
        [⟨0x7f0000000000, 0x80⟩, ⟨0x7f0000000080, 0x2000⟩] := by decide
    have holds := placement.holds
    rw [buffers, mixedVrings, List.forall₂_cons, List.forall₂_cons] at holds
    have virt := holds.2.1.virt
    revert virt
    decide
  · intro placement
    have shpool : (virtioOpenAmp.setupVdev largePool (some [longVring])).2.vdevShpool =
        some ⟨0x7f0006802000, 0⟩ := by decide
    rcases placement.shpool with ⟨last, listed, buffer, isShpool, large⟩
    rw [shpool] at isShpool
    rw [← Option.some.inj listed, ← Option.some.inj isShpool] at large
    revert large
    decide

end Setup

end OpenAmp

end Memory

end Mica
