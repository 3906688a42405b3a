import Mica.Lib.Circular

/-!
# The shared-memory ring buffer

`library/rbuf_device/ring_buffer.c`. A ring is a header of 32-bit words
followed by `len` data bytes; `in` and `out` are free-running counters and the
slot of a byte is its counter modulo `len`.

The bytes that follow the header are a memory `ℕ → UInt8` that does not end at
`len`. The header word `esize` is neither initialised nor read by the code and
is left out, and the write barriers have no effect on a single thread.
-/

namespace Mica

/-- The bytes at and after an address. -/
abbrev Memory := ℕ → UInt8

/-- `struct ring_buffer`; the fields `in` and `out` are the two index counters. -/
structure RingBuffer where
  inIndex : UInt32
  outIndex : UInt32
  len : UInt32
  data : Memory

namespace RingBuffer

/-- `sizeof(ring_buffer_t)`: four 32-bit words, the data array is empty. -/
def sizeofRingBuffer : ℕ := 16

/-- The value of a C `int` after conversion to the 64-bit `size_t`. -/
def toSizeT (value : Int32) : ℕ := (value.toInt % 2 ^ 64).toNat

def ringBufferInit (addr : Memory) (len : Int32) : RingBuffer where
  inIndex := 0
  outIndex := 0
  len := len.toUInt32
  data := addr

/--
`ring_buffer_pair_init`. The comparison and the subtraction are made in
`size_t`, and the difference is converted back to `int` at the call. An address
is `none` for `NULL`; the result is `none` where the code returns -1.
-/
def ringBufferPairInit (rxaddr txaddr : Option Memory) (len : Int32) :
    Option (RingBuffer × RingBuffer) :=
  match rxaddr, txaddr with
  | some rx, some tx =>
      if toSizeT len ≤ sizeofRingBuffer then none
      else
        let ringLen := Int32.ofNat (toSizeT len - sizeofRingBuffer)
        some (ringBufferInit rx ringLen, ringBufferInit tx ringLen)
  | _, _ => none

/-- The macro `min` of the file, at the type of its arguments. -/
def minU32 (a b : UInt32) : UInt32 := if a < b then a else b

def kfifoUnused (fifo : RingBuffer) : UInt32 :=
  fifo.len - (fifo.inIndex - fifo.outIndex)

def kfifoCopyIn (fifo : RingBuffer) (src : Memory) (len off : UInt32) : RingBuffer :=
  let size := fifo.len
  let off := off % size
  let l := minU32 len (size - off)
  let data := Circular.memcpy fifo.data off.toNat src 0 l.toNat
  { fifo with data := Circular.memcpy data 0 src l.toNat (len - l).toNat }

/-- `__kfifo_in`: the ring and the number of bytes put into it. -/
def kfifoIn (fifo : RingBuffer) (buf : Memory) (len : UInt32) : RingBuffer × UInt32 :=
  let l := kfifoUnused fifo
  let len := if len > l then l else len
  let fifo := kfifoCopyIn fifo buf len fifo.inIndex
  ({ fifo with inIndex := fifo.inIndex + len }, len)

def kfifoCopyOut (fifo : RingBuffer) (dst : Memory) (len off : UInt32) : Memory :=
  let size := fifo.len
  let off := off % size
  let l := minU32 len (size - off)
  let dst := Circular.memcpy dst 0 fifo.data off.toNat l.toNat
  Circular.memcpy dst l.toNat fifo.data 0 (len - l).toNat

/-- `__kfifo_out_peek`: the destination and the number of bytes copied to it. -/
def kfifoOutPeek (fifo : RingBuffer) (buf : Memory) (len : UInt32) : Memory × UInt32 :=
  let l := fifo.inIndex - fifo.outIndex
  let len := if len > l then l else len
  (kfifoCopyOut fifo buf len fifo.outIndex, len)

def kfifoOut (fifo : RingBuffer) (buf : Memory) (len : UInt32) :
    RingBuffer × Memory × UInt32 :=
  let (buf, len) := kfifoOutPeek fifo buf len
  ({ fifo with outIndex := fifo.outIndex + len }, buf, len)

def ringBufferRead (ringBuffer : RingBuffer) (buf : Memory) (len : Int32) :
    RingBuffer × Memory × UInt32 :=
  kfifoOut ringBuffer buf len.toUInt32

/-! ## The code's arithmetic over the naturals -/

theorem toNat_minU32 (a b : UInt32) : (minU32 a b).toNat = min a.toNat b.toNat := by
  unfold minU32
  split
  · rename_i smaller
    rw [UInt32.lt_iff_toNat_lt] at smaller
    exact (Nat.min_eq_left smaller.le).symm
  · rename_i notSmaller
    rw [UInt32.lt_iff_toNat_lt, not_lt] at notSmaller
    exact (Nat.min_eq_right notSmaller).symm

theorem toNat_clamp (len l : UInt32) :
    (if len > l then l else len).toNat = min len.toNat l.toNat := by
  split
  · rename_i larger
    rw [gt_iff_lt, UInt32.lt_iff_toNat_lt] at larger
    exact (Nat.min_eq_right larger.le).symm
  · rename_i notLarger
    rw [gt_iff_lt, UInt32.lt_iff_toNat_lt, not_lt] at notLarger
    exact (Nat.min_eq_left notLarger).symm

theorem toNat_sub_of_le {a b : UInt32} (le : b.toNat ≤ a.toNat) :
    (a - b).toNat = a.toNat - b.toNat :=
  UInt32.toNat_sub_of_le a b (UInt32.le_iff_toNat_le.mpr le)

/-- The bytes in use by the counters, which wrap around. -/
def used (ring : RingBuffer) : ℕ := (ring.inIndex - ring.outIndex).toNat

section Moved

variable {ring : RingBuffer} (fits : ring.used ≤ ring.len.toNat)

include fits in
theorem toNat_kfifoUnused : (kfifoUnused ring).toNat = ring.len.toNat - ring.used :=
  toNat_sub_of_le fits

include fits in
theorem toNat_kfifoIn (buf : Memory) (len : UInt32) :
    (kfifoIn ring buf len).2.toNat = min len.toNat (ring.len.toNat - ring.used) := by
  simp only [kfifoIn]
  rw [toNat_clamp, toNat_kfifoUnused fits]

theorem toNat_ringBufferRead (ring : RingBuffer) (buf : Memory) (len : Int32) :
    (ringBufferRead ring buf len).2.2.toNat = min len.toUInt32.toNat ring.used := by
  simp only [ringBufferRead, kfifoOut, kfifoOutPeek]
  rw [toNat_clamp, used]

end Moved

section SplitCopy

variable {fifo : RingBuffer} (positive : 0 < fifo.len.toNat) (off : UInt32)

include positive

theorem toNat_firstPart (len : UInt32) :
    (minU32 len (fifo.len - off % fifo.len)).toNat =
      min len.toNat (fifo.len.toNat - off.toNat % fifo.len.toNat) := by
  have offBound : off.toNat % fifo.len.toNat < fifo.len.toNat := Nat.mod_lt _ positive
  rw [toNat_minU32, toNat_sub_of_le] <;> rw [UInt32.toNat_mod]
  exact offBound.le

theorem toNat_secondPart (len : UInt32) :
    (len - minU32 len (fifo.len - off % fifo.len)).toNat =
      len.toNat - min len.toNat (fifo.len.toNat - off.toNat % fifo.len.toNat) := by
  rw [toNat_sub_of_le, toNat_firstPart positive]
  rw [toNat_firstPart positive]
  exact Nat.min_le_left _ _

theorem kfifoCopyIn_eq (src : Memory) (len : UInt32) :
    kfifoCopyIn fifo src len off =
      { fifo with
        data := Circular.copyIn fifo.len.toNat fifo.data src
          (off.toNat % fifo.len.toNat) len.toNat } := by
  simp only [kfifoCopyIn, Circular.copyIn, toNat_firstPart positive, toNat_secondPart positive,
    UInt32.toNat_mod]

theorem kfifoCopyOut_eq (dst : Memory) (len : UInt32) :
    kfifoCopyOut fifo dst len off =
      Circular.copyOut fifo.len.toNat fifo.data dst
        (off.toNat % fifo.len.toNat) len.toNat := by
  simp only [kfifoCopyOut, Circular.copyOut, toNat_firstPart positive, toNat_secondPart positive,
    UInt32.toNat_mod]

end SplitCopy

end RingBuffer

end Mica
