import Mica.Lib.Cells
import Mica.Memory.Vdev
import Mica.RingBuffer.Basic

/-!
# The ring-buffer device

`setup_rbuf_dev` of `library/rbuf_device/rbuf_dev.c` takes the memory that the
resource table asks for from the pool, halves it into an `int` and lays a ring in
each half. `ring_buffer_pair_init` compares the half with the size of a header as
a `size_t` and reports a refusal by its return value, which is not looked at: a
device whose rings have not been initialised is set up like any other.
-/

namespace Mica

namespace Memory

open Errno Cells RingBuffer

/-- The memory of the process, by address. -/
abbrev ProcessMemory := Address Unit → UInt8

/-- The 32-bit word at an offset from an address. -/
def wordAt (addr : UInt64) (off : ℕ) : Extent Unit := ⟨(), addr.toNat + off, 4⟩

def storeWord (memory : ProcessMemory) (addr : UInt64) (off : ℕ) (word : UInt32) : ProcessMemory :=
  overwrite memory (wordAt addr off) (LittleEndian.bytes 4 word.toNat)

def loadWord (memory : ProcessMemory) (addr : UInt64) (off : ℕ) : UInt32 :=
  UInt32.ofNat ((wordAt addr off).nat memory)

/-- The ring at an address. -/
def ringAt (memory : ProcessMemory) (addr : UInt64) : RingBuffer where
  inIndex := loadWord memory addr 0
  outIndex := loadWord memory addr 4
  len := loadWord memory addr 8
  data i := memory ⟨(), addr.toNat + sizeofRingBuffer + i⟩

/-- `ring_buffer_init` in memory. -/
def ringBufferInitAt (memory : ProcessMemory) (addr : UInt64) (len : Int32) : ProcessMemory :=
  storeWord (storeWord (storeWord memory addr 4 0) addr 0 0) addr 8 len.toUInt32

/-- `ring_buffer_pair_init` in memory, with the value it returns. -/
def ringBufferPairInitAt (memory : ProcessMemory) (rxaddr txaddr : UInt64) (len : Int32) :
    ℤ × ProcessMemory :=
  if rxaddr = null ∨ txaddr = null ∨ toSizeT len ≤ sizeofRingBuffer then (-1, memory)
  else
    let ringLen := Int32.ofNat (toSizeT len - sizeofRingBuffer)
    (0, ringBufferInitAt (ringBufferInitAt memory rxaddr ringLen) txaddr ringLen)

/-- `struct rbuf_device` -/
structure RbufDevice where
  txVa : UInt64
  rxVa : UInt64
  rbufLen : Int32
deriving DecidableEq

/-- The fields of `struct fw_rsc_rbuf_pair` that the setup uses. -/
structure FwRscRbufPair where
  da : UInt64
  pa : UInt64
  len : UInt64
  state : UInt8
deriving DecidableEq

def rbufStateInit : UInt8 := 1

/-- What `setup_rbuf_dev` works on: the client, its device, the resource and the memory. -/
structure RbufSetup where
  client : MicaClient
  device : RbufDevice
  resource : FwRscRbufPair
  memory : ProcessMemory

/-- The length of each ring: half the length of the resource as an `int`. -/
def rbufLen (len : UInt64) : Int32 := Int32.ofNat (len / 2).toNat

/-- `setup_rbuf_dev`; `found` tells whether the resource table has the resource. -/
def setupRbufDev (found : Bool) (setup : RbufSetup) : ℤ × RbufSetup :=
  if ¬found then (-enodev, setup)
  else
    let (rbVa, client) := allocShmemRegion setup.client 0 setup.resource.len
    if rbVa = null then (-enomem, { setup with client := client })
    else
      let length := rbufLen setup.resource.len
      let device : RbufDevice :=
        { rxVa := rbVa, rbufLen := length, txVa := rbVa + UInt64.ofNat (toSizeT length) }
      let pa := shmPoolVirtToPhys client rbVa
      -- what the initialisation returns is not looked at
      let (_, memory) := ringBufferPairInitAt setup.memory device.rxVa device.txVa device.rbufLen
      (0, { client := client
            device := device
            resource := { setup.resource with pa := pa, da := pa, state := rbufStateInit }
            memory := memory })

/-- The ring is empty and has `rbufLen` bytes but for its header. -/
structure RingReady (ring : RingBuffer) (rbufLen : Int32) : Prop where
  inIndex : ring.inIndex = 0
  outIndex : ring.outIndex = 0
  len : (ring.len.toNat : ℤ) = rbufLen.toInt - sizeofRingBuffer
  nonempty : 1 ≤ ring.len.toNat

theorem RingReady.atLeast {ring : RingBuffer} {rbufLen : Int32} (ready : RingReady ring rbufLen) :
    17 ≤ rbufLen.toInt := by
  have len := ready.len
  have nonempty := ready.nonempty
  rw [sizeofRingBuffer] at len
  omega

/-- Both rings are ready, and their ranges are apart and in the region of `len` bytes from `rbVa`
on. -/
structure DeviceReady (memory : ProcessMemory) (device : RbufDevice) (rbVa len : UInt64) :
    Prop where
  rx : RingReady (ringAt memory device.rxVa) device.rbufLen
  tx : RingReady (ringAt memory device.txVa) device.rbufLen
  apart : Disjoint (span device.rxVa device.rbufLen.toInt.toNat)
    (span device.txVa device.rbufLen.toInt.toNat)
  rxInside : span device.rxVa device.rbufLen.toInt.toNat ⊆ span rbVa len.toNat
  txInside : span device.txVa device.rbufLen.toInt.toNat ⊆ span rbVa len.toNat

section Words

variable {memory : ProcessMemory} {addr other : UInt64} {off otherOff : ℕ} {word : UInt32}

theorem loadWord_storeWord_self : loadWord (storeWord memory addr off word) addr off = word := by
  have stored := Extent.nat_overwrite_bytes memory (wordAt addr off) word.toNat
  rw [loadWord, storeWord]
  apply UInt32.toNat_inj.1
  rw [show LittleEndian.bytes 4 word.toNat =
    LittleEndian.bytes (wordAt addr off).size word.toNat from rfl, stored]
  simp [wordAt]

theorem loadWord_storeWord_of_apart
    (apart : other.toNat + otherOff + 4 ≤ addr.toNat + off ∨
      addr.toNat + off + 4 ≤ other.toNat + otherOff) :
    loadWord (storeWord memory addr off word) other otherOff = loadWord memory other otherOff := by
  rw [loadWord, storeWord, Extent.nat_overwrite_of_apart]
  · rfl
  · exact Or.inr apart
  · rw [LittleEndian.length_bytes]
    exact le_rfl

end Words

section Rings

variable {memory : ProcessMemory} {addr other : UInt64} {len : Int32}

theorem loadWord_ringBufferInitAt :
    loadWord (ringBufferInitAt memory addr len) addr 0 = 0 ∧
      loadWord (ringBufferInitAt memory addr len) addr 4 = 0 ∧
      loadWord (ringBufferInitAt memory addr len) addr 8 = len.toUInt32 := by
  unfold ringBufferInitAt
  refine ⟨?_, ?_, loadWord_storeWord_self⟩
  · rw [loadWord_storeWord_of_apart (by omega), loadWord_storeWord_self]
  · rw [loadWord_storeWord_of_apart (by omega), loadWord_storeWord_of_apart (by omega),
      loadWord_storeWord_self]

theorem loadWord_ringBufferInitAt_of_apart {off : ℕ} (inHeader : off + 4 ≤ 12)
    (apart : other.toNat + 12 ≤ addr.toNat ∨ addr.toNat + 12 ≤ other.toNat) :
    loadWord (ringBufferInitAt memory addr len) other off = loadWord memory other off := by
  unfold ringBufferInitAt
  rw [loadWord_storeWord_of_apart (by omega), loadWord_storeWord_of_apart (by omega),
    loadWord_storeWord_of_apart (by omega)]

theorem toSizeT_eq {length : ℕ} (lengthEq : len.toInt = length) : toSizeT len = length := by
  have upper := len.toInt_lt
  rw [toSizeT, lengthEq]
  omega

theorem ringReady_of_empty {ring : RingBuffer} {length : ℕ} (lengthEq : len.toInt = length)
    (holds : sizeofRingBuffer < length) (inZero : ring.inIndex = 0) (outZero : ring.outIndex = 0)
    (lenEq : ring.len = (Int32.ofNat (toSizeT len - sizeofRingBuffer)).toUInt32) :
    RingReady ring len := by
  have lengthLt : length < 2 ^ 31 := by
    have upper := len.toInt_lt
    omega
  have ringLen : ring.len.toNat = length - sizeofRingBuffer := by
    rw [lenEq, toSizeT_eq lengthEq]
    exact Nat.mod_eq_of_lt (lt_of_le_of_lt (Nat.sub_le _ _) (by omega))
  refine ⟨inZero, outZero, ?_, ?_⟩
  · rw [ringLen, lengthEq]
    omega
  · rw [ringLen]
    omega

theorem ringReady_pair {rxaddr txaddr : UInt64} {length : ℕ} (lengthEq : len.toInt = length)
    (rxNe : rxaddr ≠ null) (txNe : txaddr ≠ null) (holds : sizeofRingBuffer < length)
    (apart : rxaddr.toNat + 12 ≤ txaddr.toNat ∨ txaddr.toNat + 12 ≤ rxaddr.toNat) :
    RingReady (ringAt (ringBufferPairInitAt memory rxaddr txaddr len).2 rxaddr) len ∧
      RingReady (ringAt (ringBufferPairInitAt memory rxaddr txaddr len).2 txaddr) len := by
  have accepted : ¬(rxaddr = null ∨ txaddr = null ∨ toSizeT len ≤ sizeofRingBuffer) := by
    rw [toSizeT_eq lengthEq]
    exact fun refused => refused.elim rxNe fun refused => refused.elim txNe (not_le.2 holds)
  rw [ringBufferPairInitAt, if_neg accepted]
  constructor
  · apply ringReady_of_empty lengthEq holds
    · exact (loadWord_ringBufferInitAt_of_apart (by omega) apart).trans loadWord_ringBufferInitAt.1
    · exact (loadWord_ringBufferInitAt_of_apart (by omega) apart).trans
        loadWord_ringBufferInitAt.2.1
    · exact (loadWord_ringBufferInitAt_of_apart (by omega) apart).trans
        loadWord_ringBufferInitAt.2.2
  · apply ringReady_of_empty lengthEq holds
    · exact loadWord_ringBufferInitAt.1
    · exact loadWord_ringBufferInitAt.2.1
    · exact loadWord_ringBufferInitAt.2.2

end Rings

section Lengths

theorem rbufLen_toInt {len : UInt64} (positive : 0 < (rbufLen len).toInt) :
    ∃ length : ℕ, (rbufLen len).toInt = length ∧ length < 2 ^ 31 ∧ 2 * length ≤ len.toNat := by
  refine ⟨(rbufLen len).toInt.toNat, ?_, ?_, ?_⟩
  · omega
  · have upper := (rbufLen len).toInt_lt
    omega
  · have half : (len / 2).toNat = len.toNat / 2 := UInt64.toNat_div len 2
    have size : Int32.size = 2 ^ 32 := rfl
    rw [rbufLen, half, Int32.toInt_ofNat', size, Int.bmod_def]
    split_ifs <;> omega

theorem span_halves {rbVa : UInt64} {length whole : ℕ} (positive : 0 < length)
    (short : length < 2 ^ 31) (fits : 2 * length ≤ whole) :
    Disjoint (span rbVa length) (span (rbVa + UInt64.ofNat length) length) ∧
      span rbVa length ⊆ span rbVa whole ∧
      span (rbVa + UInt64.ofNat length) length ⊆ span rbVa whole := by
  have lengthNat : (UInt64.ofNat length).toNat = length := UInt64.toNat_ofNat_of_lt' (by
    change length < 2 ^ 64
    omega)
  refine ⟨?_, ?_, ?_⟩
  · rw [disjoint_span_iff positive positive]
    have forward : rbVa + UInt64.ofNat length - rbVa = UInt64.ofNat length := by grind
    have backward : rbVa - (rbVa + UInt64.ofNat length) = 0 - UInt64.ofNat length := by grind
    rw [forward, backward, UInt64.toNat_sub, lengthNat]
    change length ≤ length ∧ length ≤ (2 ^ 64 - length + 0) % 2 ^ 64
    omega
  · intro address inside
    have inside : (address - rbVa).toNat < length := inside
    change (address - rbVa).toNat < whole
    omega
  · intro address inside
    have inside : (address - (rbVa + UInt64.ofNat length)).toNat < length := inside
    change (address - rbVa).toNat < whole
    have regroup : address - rbVa =
        address - (rbVa + UInt64.ofNat length) + UInt64.ofNat length := by grind
    rw [regroup, UInt64.toNat_add, lengthNat]
    omega

end Lengths

section Setup

/-- The rings fit with a byte each, and the second one does not start at address 0. -/
def RingsFit (client : MicaClient) (len : UInt64) : Prop :=
  17 ≤ (rbufLen len).toInt ∧
    client.unusedShmemStart.toNat + (rbufLen len).toInt.toNat ≠ 2 ^ 64

/-- Whatever memory held before, a setup that returns 0 leaves the device ready. -/
def SetsUp (client : MicaClient) (resource : FwRscRbufPair) : Prop :=
  ∀ device memory, (setupRbufDev true ⟨client, device, resource, memory⟩).1 = 0 →
    let setup := (setupRbufDev true ⟨client, device, resource, memory⟩).2
    DeviceReady setup.memory setup.device client.unusedShmemStart resource.len

variable {client : MicaClient} {resource : FwRscRbufPair}

theorem allocShmemRegion_eq_unused {length : UInt64}
    (granted : (allocShmemRegion client 0 length).1 ≠ null) :
    (allocShmemRegion client 0 length).1 = client.unusedShmemStart := by
  rw [allocShmemRegion_of_placement UsedUpTo.placement_next] at granted ⊢
  split_ifs at granted ⊢
  · exact absurd rfl granted
  · rfl

theorem setupRbufDev_of_granted (granted : (allocShmemRegion client 0 resource.len).1 ≠ null)
    (device : RbufDevice) (memory : ProcessMemory) :
    let setup := setupRbufDev true ⟨client, device, resource, memory⟩
    let txVa := client.unusedShmemStart + UInt64.ofNat (toSizeT (rbufLen resource.len))
    setup.1 = 0 ∧
      setup.2.device = ⟨txVa, client.unusedShmemStart, rbufLen resource.len⟩ ∧
      setup.2.memory =
        (ringBufferPairInitAt memory client.unusedShmemStart txVa (rbufLen resource.len)).2 := by
  have start := allocShmemRegion_eq_unused granted
  rw [start] at granted
  simp only [setupRbufDev, start, granted, not_true, if_false]
  exact ⟨trivial, trivial, trivial⟩

section Addresses

variable {rbVa len : UInt64}

theorem txVa_toNat (positive : 0 < (rbufLen len).toInt) :
    (rbVa + UInt64.ofNat (toSizeT (rbufLen len))).toNat =
      (rbVa.toNat + (rbufLen len).toInt.toNat) % 2 ^ 64 := by
  rcases rbufLen_toInt positive with ⟨length, lengthEq, short, -⟩
  rw [toSizeT_eq lengthEq, lengthEq, UInt64.toNat_add, UInt64.toNat_ofNat']
  simp

theorem txVa_eq_null_of_wraps (positive : 0 < (rbufLen len).toInt)
    (wraps : rbVa.toNat + (rbufLen len).toInt.toNat = 2 ^ 64) :
    rbVa + UInt64.ofNat (toSizeT (rbufLen len)) = null := by
  apply UInt64.toNat_inj.1
  rw [txVa_toNat positive, wraps]
  rfl

theorem deviceReady_of_fits {memory : ProcessMemory} (rxNe : rbVa ≠ null)
    (atLeast : 17 ≤ (rbufLen len).toInt)
    (unwrapped : rbVa.toNat + (rbufLen len).toInt.toNat ≠ 2 ^ 64) :
    let txVa := rbVa + UInt64.ofNat (toSizeT (rbufLen len))
    DeviceReady (ringBufferPairInitAt memory rbVa txVa (rbufLen len)).2
      ⟨txVa, rbVa, rbufLen len⟩ rbVa len := by
  intro txVa
  have txNat : txVa.toNat = _ := txVa_toNat (lt_of_lt_of_le (by decide) atLeast)
  rcases rbufLen_toInt (lt_of_lt_of_le (by decide) atLeast) with ⟨length, lengthEq, short, fits⟩
  have rxLt := rbVa.toNat_lt
  rw [lengthEq] at txNat unwrapped atLeast
  have txNe : txVa ≠ null := by
    intro isNull
    have zero := congrArg UInt64.toNat isNull
    change txVa.toNat = 0 at zero
    omega
  rcases ringReady_pair lengthEq rxNe txNe (by rw [sizeofRingBuffer]; omega) (by omega) with
    ⟨rx, tx⟩
  have txEq : txVa = rbVa + UInt64.ofNat length := by rw [← toSizeT_eq lengthEq]
  rcases span_halves (by omega) short fits with ⟨apart, rxInside, txInside⟩
  rw [← txEq] at apart txInside
  have size : (rbufLen len).toInt.toNat = length := by rw [lengthEq, Int.toNat_natCast]
  refine ⟨rx, tx, ?_, ?_, ?_⟩
  · simp only [size]
    exact apart
  · simp only [size]
    exact rxInside
  · simp only [size]
    exact txInside

end Addresses

/-- The device is ready after every setup exactly if the rings fit. -/
theorem setsUp_iff_ringsFit (client : MicaClient) (resource : FwRscRbufPair)
    (granted : (allocShmemRegion client 0 resource.len).1 ≠ null) :
    SetsUp client resource ↔ RingsFit client resource.len := by
  have rxNe : client.unusedShmemStart ≠ null := by
    rw [← allocShmemRegion_eq_unused granted]
    exact granted
  have outcome := setupRbufDev_of_granted granted
  constructor
  · intro setsUp
    -- a word that is not 0 tells a ring that is not initialised
    have ready := setsUp ⟨0, 0, 0⟩ (storeWord (fun _ => 0) client.unusedShmemStart 0 1)
      (outcome _ _).1
    dsimp only at ready
    rw [(outcome _ _).2.1, (outcome _ _).2.2] at ready
    have atLeast : 17 ≤ (rbufLen resource.len).toInt := ready.rx.atLeast
    refine ⟨atLeast, ?_⟩
    intro wraps
    have txNull := txVa_eq_null_of_wraps (lt_of_lt_of_le (by decide) atLeast) wraps
    have inIndex : loadWord _ client.unusedShmemStart 0 = 0 := ready.rx.inIndex
    rw [ringBufferPairInitAt, if_pos (Or.inr (Or.inl txNull)), loadWord_storeWord_self] at inIndex
    exact absurd inIndex (by decide)
  · rintro ⟨atLeast, unwrapped⟩ device memory -
    dsimp only
    rw [(outcome _ _).2.1, (outcome _ _).2.2]
    exact deviceReady_of_fits rxNe atLeast unwrapped

/-- A page for both rings. -/
def pageForRings : FwRscRbufPair := ⟨0, 0, 0x1000, 0⟩

theorem setsUp_pageForRings :
    (SetsUp smallPool pageForRings ↔ RingsFit smallPool pageForRings.len) ∧
      RingsFit smallPool pageForRings.len :=
  ⟨setsUp_iff_ringsFit smallPool pageForRings (by decide), by decide, by decide⟩

/-- As much as the two headers take. -/
def headersOnly : FwRscRbufPair := ⟨0, 0, 32, 0⟩

/-- The setup reports success although the rings have no room and are not initialised. -/
theorem not_ready_headersOnly :
    let setup := setupRbufDev true ⟨smallPool, ⟨0, 0, 0⟩, headersOnly, fun _ => 0⟩
    setup.1 = 0 ∧ setup.2.memory = (fun _ => 0) ∧
      ¬DeviceReady setup.2.memory setup.2.device smallPool.unusedShmemStart headersOnly.len := by
  have granted : (allocShmemRegion smallPool 0 headersOnly.len).1 ≠ null := by decide
  rcases setupRbufDev_of_granted granted ⟨0, 0, 0⟩ (fun _ => 0) with
    ⟨returns, deviceEq, memoryEq⟩
  refine ⟨returns, memoryEq, ?_⟩
  intro ready
  rw [deviceEq] at ready
  have atLeast : 17 ≤ (rbufLen headersOnly.len).toInt := ready.rx.atLeast
  revert atLeast
  decide

end Setup

end Memory

end Mica
