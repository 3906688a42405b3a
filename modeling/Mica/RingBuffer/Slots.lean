import Mica.Lib.Run
import Mica.RingBuffer.Fifo

/-!
# The slots of the ring

What holds for every length of the ring, whether or not the order of the bytes survives the wrap
of the counters: the difference of the counters is the number of bytes in use, a call moves as
many bytes as are asked for and possible, and each of them has a slot of its own in the ring.

The slots of a copy are those of its two calls of `memcpy`.
-/

namespace Mica

namespace RingBuffer

/-- A call of `memcpy`: where its bytes are in the ring and in the caller's buffer. -/
structure Part where
  ring : ℕ
  user : ℕ
  count : ℕ

/-- The two calls of `memcpy` in `kfifo_copy_in` and in `kfifo_copy_out`. -/
def copyParts (fifo : RingBuffer) (len off : UInt32) : List Part :=
  let size := fifo.len
  let off := off % size
  let l := minU32 len (size - off)
  [{ ring := off.toNat, user := 0, count := l.toNat },
    { ring := 0, user := l.toNat, count := (len - l).toNat }]

def Part.store (src data : Memory) (part : Part) : Memory :=
  Circular.memcpy data part.ring src part.user part.count

def Part.load (data dst : Memory) (part : Part) : Memory :=
  Circular.memcpy dst part.user data part.ring part.count

def Part.slots (part : Part) : List ℕ := List.range' part.ring part.count

/-- The index in `data` of every byte that a copy moves. -/
def copySlots (fifo : RingBuffer) (len off : UInt32) : List ℕ :=
  (copyParts fifo len off).flatMap Part.slots

theorem copySlots_eq {fifo : RingBuffer} (positive : 0 < fifo.len.toNat) (len off : UInt32) :
    copySlots fifo len off =
      Circular.splitSlots fifo.len.toNat (off.toNat % fifo.len.toNat) len.toNat := by
  simp only [copySlots, copyParts, List.flatMap_cons, List.flatMap_nil, List.append_nil,
    Part.slots, Circular.splitSlots, toNat_firstPart positive, toNat_secondPart positive,
    UInt32.toNat_mod]

/-- So many bytes are moved as are asked for and possible, each to or from a slot of its own in the
ring. -/
structure Moves (ring : RingBuffer) (requested possible : ℕ) (moved : UInt32) (slots : List ℕ) :
    Prop where
  count : moved.toNat = min requested possible
  inside : ∀ slot ∈ slots, slot < ring.len.toNat
  distinct : slots.Nodup
  as_many : slots.length = moved.toNat

/-- A call copies by the parts at its counter, moves bytes as it should, and advances its counter by
the bytes moved. -/
def Call.Confined (ring : RingBuffer) : Call → Prop
  | .kfifoIn buf len =>
      let (after, moved) := RingBuffer.kfifoIn ring buf len
      after.data = (copyParts ring moved ring.inIndex).foldl (Part.store buf) ring.data ∧
        Moves ring len.toNat (ring.len.toNat - ring.used) moved
          (copySlots ring moved ring.inIndex) ∧
        after.inIndex = ring.inIndex + moved ∧ after.outIndex = ring.outIndex
  | .read buf len =>
      let (after, dst, moved) := ringBufferRead ring buf len
      dst = (copyParts ring moved ring.outIndex).foldl (Part.load ring.data) buf ∧
        after.data = ring.data ∧
        Moves ring len.toUInt32.toNat ring.used moved (copySlots ring moved ring.outIndex) ∧
        after.inIndex = ring.inIndex ∧ after.outIndex = ring.outIndex + moved

/-- A ring of this length with no more bytes in use than it has. -/
structure WithinLen (n : ℕ) (ring : RingBuffer) : Prop where
  len_eq : ring.len.toNat = n
  used_le : ring.used ≤ n

theorem WithinLen.fits {n : ℕ} {ring : RingBuffer} (within : WithinLen n ring) :
    ring.used ≤ ring.len.toNat :=
  within.len_eq ▸ within.used_le

section Calls

variable {n : ℕ} {ring : RingBuffer}

theorem moves_of_le {requested possible : ℕ} {moved : UInt32} (positive : 0 < ring.len.toNat)
    (off : UInt32) (count : moved.toNat = min requested possible)
    (le : possible ≤ ring.len.toNat) :
    Moves ring requested possible moved (copySlots ring moved off) := by
  have offBound := Nat.mod_lt off.toNat positive
  have countBound : moved.toNat ≤ ring.len.toNat := by omega
  rw [copySlots_eq positive]
  refine ⟨count, ?_, ?_, ?_⟩
  · exact fun slot mem => Circular.lt_of_mem_splitSlots offBound countBound mem
  · exact Circular.nodup_splitSlots countBound
  · exact Circular.length_splitSlots _ _ _

theorem toNat_add_sub {inIndex outIndex count : UInt32}
    (small : (inIndex - outIndex).toNat + count.toNat < 2 ^ 32) :
    (inIndex + count - outIndex).toNat = (inIndex - outIndex).toNat + count.toNat := by
  have bounds := And.intro inIndex.toNat_lt outIndex.toNat_lt
  rw [UInt32.toNat_sub] at small ⊢
  rw [UInt32.toNat_sub, UInt32.toNat_add]
  omega

theorem toNat_sub_add {inIndex outIndex count : UInt32}
    (le : count.toNat ≤ (inIndex - outIndex).toNat) :
    (inIndex - (outIndex + count)).toNat = (inIndex - outIndex).toNat - count.toNat := by
  have bounds := And.intro inIndex.toNat_lt outIndex.toNat_lt
  rw [UInt32.toNat_sub] at le ⊢
  rw [UInt32.toNat_sub, UInt32.toNat_add]
  omega

theorem WithinLen.kfifoIn (within : WithinLen n ring) (buf : Memory) (len : UInt32) :
    WithinLen n (kfifoIn ring buf len).1 := by
  have moved := toNat_kfifoIn within.fits buf len
  rw [within.len_eq] at moved
  have small : n < 2 ^ 32 := within.len_eq ▸ ring.len.toNat_lt
  have fits := within.used_le
  simp only [RingBuffer.kfifoIn] at moved ⊢
  refine ⟨within.len_eq, ?_⟩
  simp only [used, kfifoCopyIn] at fits moved ⊢
  rw [toNat_add_sub] <;> omega

theorem WithinLen.read (within : WithinLen n ring) (buf : Memory) (len : Int32) :
    WithinLen n (ringBufferRead ring buf len).1 := by
  have moved := toNat_ringBufferRead ring buf len
  have fits := within.used_le
  simp only [ringBufferRead, kfifoOut, kfifoOutPeek] at moved ⊢
  refine ⟨within.len_eq, ?_⟩
  simp only [used] at fits moved ⊢
  rw [toNat_sub_add] <;> omega

theorem WithinLen.confined (within : WithinLen n ring) (positive : 0 < n) (call : Call) :
    call.Confined ring := by
  have nonempty : 0 < ring.len.toNat := within.len_eq ▸ positive
  cases call with
  | kfifoIn buf len =>
      refine ⟨rfl, moves_of_le nonempty _ ?_ (Nat.sub_le _ _), rfl, rfl⟩
      exact toNat_kfifoIn within.fits buf len
  | read buf len =>
      refine ⟨rfl, rfl, moves_of_le nonempty _ ?_ within.fits, rfl, rfl⟩
      exact toNat_ringBufferRead ring buf len

theorem WithinLen.step {session : Session} (within : WithinLen n session.ring) (call : Call) :
    WithinLen n (session.step call).ring := by
  cases call with
  | kfifoIn buf len => exact within.kfifoIn buf len
  | read buf len => exact within.read buf len

end Calls

theorem withinLen_ringBufferInit {len : Int32} (positive : 1 ≤ len.toInt) (addr : Memory) :
    WithinLen len.toInt.toNat (ringBufferInit addr len) := by
  constructor
  · exact Int32.toNat_toUInt32_of_le (Int32.le_iff_toInt_le.mpr (Int.le_of_lt positive))
  · simp [used, ringBufferInit]

/-- The counters of a ring of any positive length never differ by more than the length, modulo
`2 ^ 32`. Every call moves as many bytes as it is asked for, up to the free bytes or the bytes in
use, each byte to or from a different index below the length, and advances `in` or `out` by them. -/
theorem confined_of_calls {len : Int32} (positive : 1 ≤ len.toInt) (addr : Memory)
    (calls : List Call) :
    Run.AllStates Session.step (Session.start (ringBufferInit addr len))
        (fun session => WithinLen len.toInt.toNat session.ring) calls ∧
      Run.AllSteps Session.step (Session.start (ringBufferInit addr len))
        (fun session call => call.Confined session.ring) calls := by
  have within : ∀ before : List Call, WithinLen len.toInt.toNat
      (before.foldl Session.step (Session.start (ringBufferInit addr len))).ring := by
    intro before
    apply @Run.invariant_foldl _ _ Session.step _
      fun session => WithinLen len.toInt.toNat session.ring
    · exact withinLen_ringBufferInit positive addr
    · exact fun session call holds => holds.step call
  refine ⟨fun before _ => within before, fun before call _ => ?_⟩
  exact (within before).confined (by omega) call

/-- A ring of three bytes, which does not divide the range of the counters. -/
theorem confined_of_calls_three :
    1 ≤ (3 : Int32).toInt ∧
      Run.AllSteps Session.step (Session.start (ringBufferInit (fun _ => 0) 3))
        (fun session call => call.Confined session.ring)
        [.kfifoIn (fun _ => 7) 2, .read (fun _ => 0) 2, .kfifoIn (fun _ => 8) 5] :=
  ⟨by decide, (confined_of_calls (by decide) _ _).2⟩

end RingBuffer

end Mica
