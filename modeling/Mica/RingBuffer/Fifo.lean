import Mica.Lib.BoundedFifo
import Mica.RingBuffer.Basic

/-!
# The ring buffer as a queue

A ring refines the bounded queue of `Mica.Lib.BoundedFifo` as long as the slots
of consecutive stream positions stay consecutive. The slot of position `p` is
`p % 2 ^ 32 % len`, so this continuity is lost when the 32-bit counter returns
to 0 in the middle of a revolution: the refinement needs that `len` divides
`2 ^ 32`, or that the run stays below `2 ^ 32` bytes.

`Mica.RingBuffer.Wrap` shows that the condition on `len` is exact.
-/

namespace Mica

namespace RingBuffer

/-- A call on the ring: `__kfifo_in` of `len` bytes at `buf`, or `ring_buffer_read`. -/
inductive Call where
  | kfifoIn (buf : Memory) (len : UInt32)
  | read (buf : Memory) (len : Int32)

/-- A ring together with the bytes it accepted and the bytes its reads returned. -/
structure Session where
  ring : RingBuffer
  accepted : List UInt8
  returned : List UInt8

namespace Session

def start (ring : RingBuffer) : Session where
  ring := ring
  accepted := []
  returned := []

def step (session : Session) : Call → Session
  | .kfifoIn buf len =>
      let (ring, count) := kfifoIn session.ring buf len
      { session with
        ring := ring
        accepted := session.accepted ++ Circular.cells buf 0 count.toNat }
  | .read buf len =>
      let (ring, buf, count) := ringBufferRead session.ring buf len
      { session with
        ring := ring
        returned := session.returned ++ Circular.cells buf 0 count.toNat }

def run (session : Session) (calls : List Call) : Session :=
  calls.foldl step session

end Session

/-- The bytes still in the ring: what a peek of all used bytes copies out. -/
def buffered (ring : RingBuffer) : List UInt8 :=
  let used := ring.inIndex - ring.outIndex
  Circular.cells (kfifoCopyOut ring (fun _ => 0) used ring.outIndex) 0 used.toNat

/--
The bytes returned by a run are a prefix of the bytes accepted, and the rest is
exactly what is still buffered.
-/
def FifoOn (ring : RingBuffer) (calls : List Call) : Prop :=
  let session := (Session.start ring).run calls
  session.returned <+: session.accepted ∧
    session.accepted.drop session.returned.length = session.ring.buffered

/-! ## Refinement -/

/-- The queue request a call amounts to. -/
def Call.request : Call → BoundedFifo.Request UInt8
  | .kfifoIn buf len => .push (Circular.cells buf 0 len.toNat)
  | .read _ len => .pop len.toUInt32.toNat

/-- The number of bytes a call offers to the ring. -/
def Call.offered : Call → ℕ
  | .kfifoIn _ len => len.toNat
  | .read _ _ => 0

def offeredBytes (calls : List Call) : ℕ := (calls.map Call.offered).sum

theorem offeredBytes_cons (call : Call) (rest : List Call) :
    offeredBytes (call :: rest) = call.offered + offeredBytes rest := by
  simp [offeredBytes]

theorem length_accepted_step_le (session : Session) (call : Call) :
    (session.step call).accepted.length ≤ session.accepted.length + call.offered := by
  cases call with
  | kfifoIn buf len =>
      simp only [Session.step, Call.offered, RingBuffer.kfifoIn, List.length_append,
        Circular.length_cells, toNat_clamp]
      omega
  | read buf len =>
      simp only [Session.step, Call.offered]
      omega

theorem length_accepted_run_le (session : Session) (calls : List Call) :
    (session.run calls).accepted.length ≤ session.accepted.length + offeredBytes calls := by
  induction calls generalizing session with
  | nil => simp [Session.run, offeredBytes]
  | cons call rest ih =>
      have stepBound := length_accepted_step_le session call
      have restBound := ih (session.step call)
      rw [offeredBytes_cons]
      simp only [Session.run, List.foldl_cons] at restBound ⊢
      omega

/--
Stream positions below `bound` have consecutive slots: the length divides the
counter range, or the counters do not pass its end.
-/
def Continuous (len bound : ℕ) : Prop := len ∣ 2 ^ 32 ∨ bound ≤ 2 ^ 32

theorem Continuous.mono {len bound smaller : ℕ} (continuous : Continuous len bound)
    (le : smaller ≤ bound) : Continuous len smaller := by
  rcases continuous with divides | below
  · exact Or.inl divides
  · exact Or.inr (le.trans below)

theorem Continuous.slot {len bound position : ℕ} (continuous : Continuous len bound)
    (before : position < bound) : position % 2 ^ 32 % len = position % len := by
  rcases continuous with divides | below
  · exact Nat.mod_mod_of_dvd position divides
  · rw [Nat.mod_eq_of_lt (by omega : position < 2 ^ 32)]

/--
The ring stores `items` for the stream positions from `position` on, with its
counters reduced to 32 bits.
-/
structure Represents (ring : RingBuffer) (position : ℕ) (items : List UInt8) : Prop where
  out_eq : ring.outIndex.toNat = position % 2 ^ 32
  in_eq : ring.inIndex.toNat = (position + items.length) % 2 ^ 32
  fits : items.length ≤ ring.len.toNat
  holds : Circular.Holds ring.len.toNat ring.data position items

namespace Represents

variable {ring : RingBuffer} {position : ℕ} {items : List UInt8}

theorem toNat_used (represents : Represents ring position items) :
    (ring.inIndex - ring.outIndex).toNat = items.length := by
  have := represents.fits
  have := ring.len.toNat_lt
  rw [UInt32.toNat_sub, represents.out_eq, represents.in_eq]
  omega

theorem used_le (represents : Represents ring position items) : ring.used ≤ ring.len.toNat :=
  represents.toNat_used.le.trans represents.fits

theorem toNat_unused (represents : Represents ring position items) :
    (kfifoUnused ring).toNat = ring.len.toNat - items.length := by
  rw [toNat_kfifoUnused represents.used_le, used, represents.toNat_used]

theorem toNat_accepted (represents : Represents ring position items) (buf : Memory)
    (len : UInt32) :
    (RingBuffer.kfifoIn ring buf len).2.toNat =
      min len.toNat (ring.len.toNat - items.length) := by
  rw [toNat_kfifoIn represents.used_le, used, represents.toNat_used]

theorem kfifoIn (represents : Represents ring position items) (positive : 0 < ring.len.toNat)
    {count : ℕ} (buf : Memory) (len : UInt32)
    (clamped : count = min len.toNat (ring.len.toNat - items.length))
    (continuous : Continuous ring.len.toNat (position + items.length + count)) :
    Represents (RingBuffer.kfifoIn ring buf len).1 position
      (items ++ Circular.cells buf 0 count) := by
  have countEq : (if len > ring.kfifoUnused then ring.kfifoUnused else len).toNat = count :=
    (represents.toNat_accepted buf len).trans clamped.symm
  have fits := represents.fits
  simp only [RingBuffer.kfifoIn]
  rw [kfifoCopyIn_eq positive]
  refine ⟨represents.out_eq, ?_, ?_, ?_⟩
  · simp only [UInt32.toNat_add, countEq, represents.in_eq, List.length_append,
      Circular.length_cells]
    omega
  · simp only [List.length_append, Circular.length_cells]
    omega
  · simp only [countEq]
    rcases Nat.eq_zero_or_pos count with none | some
    · -- no byte fits or none was offered: the copy loops do not run
      subst none
      simpa using represents.holds
    · have slot : ring.inIndex.toNat % ring.len.toNat =
          (position + items.length) % ring.len.toNat := by
        rw [represents.in_eq, continuous.slot (by omega)]
      have offBound := Nat.mod_lt ring.inIndex.toNat positive
      apply Circular.Holds.append
      · exact represents.holds.copyIn buf offBound slot (by omega)
      · exact Circular.holds_copyIn ring.data buf offBound (by omega) slot

theorem kfifoCopyOut (represents : Represents ring position items)
    (positive : 0 < ring.len.toNat)
    (continuous : Continuous ring.len.toNat (position + items.length)) (buf : Memory)
    (len : UInt32) (available : len.toNat ≤ items.length) :
    Circular.cells (RingBuffer.kfifoCopyOut ring buf len ring.outIndex) 0 len.toNat =
      items.take len.toNat := by
  rw [kfifoCopyOut_eq positive]
  rcases Nat.eq_zero_or_pos len.toNat with none | some
  · simp [none]
  · apply represents.holds.cells_copyOut buf (Nat.mod_lt _ positive) _ available represents.fits
    rw [represents.out_eq, continuous.slot (by omega)]

theorem toNat_returned (represents : Represents ring position items) (buf : Memory)
    (len : Int32) :
    (ringBufferRead ring buf len).2.2.toNat = min len.toUInt32.toNat items.length := by
  rw [toNat_ringBufferRead, used, represents.toNat_used]

theorem cells_read (represents : Represents ring position items)
    (positive : 0 < ring.len.toNat)
    (continuous : Continuous ring.len.toNat (position + items.length)) (buf : Memory)
    (len : Int32) :
    Circular.cells (ringBufferRead ring buf len).2.1 0
        (ringBufferRead ring buf len).2.2.toNat = items.take len.toUInt32.toNat := by
  have returned := represents.toNat_returned buf len
  have copied := represents.kfifoCopyOut positive continuous buf
    (ringBufferRead ring buf len).2.2 (by omega)
  simp only [ringBufferRead, kfifoOut, kfifoOutPeek] at copied returned ⊢
  rw [copied, returned, ← List.take_eq_take_min]

theorem read (represents : Represents ring position items) (buf : Memory) (len : Int32)
    {count : ℕ} (clamped : count = min len.toUInt32.toNat items.length) :
    Represents (ringBufferRead ring buf len).1 (position + count) (items.drop count) := by
  have countEq := (represents.toNat_returned buf len).trans clamped.symm
  have fits := represents.fits
  simp only [ringBufferRead, kfifoOut, kfifoOutPeek] at countEq ⊢
  refine ⟨?_, ?_, ?_, ?_⟩
  · simp only [UInt32.toNat_add, countEq, represents.out_eq]
    omega
  · simp only [represents.in_eq, List.length_drop]
    congr 1
    omega
  · simp only [List.length_drop]
    omega
  · exact represents.holds.drop count

theorem buffered_eq (represents : Represents ring position items)
    (positive : 0 < ring.len.toNat)
    (continuous : Continuous ring.len.toNat (position + items.length)) :
    ring.buffered = items := by
  have copied := represents.kfifoCopyOut positive continuous (fun _ => 0)
    (ring.inIndex - ring.outIndex) represents.toNat_used.le
  simp only [buffered]
  rw [copied, represents.toNat_used, List.take_length]

end Represents

theorem represents_ringBufferInit (addr : Memory) (len : Int32) :
    Represents (ringBufferInit addr len) 0 [] := by
  refine ⟨rfl, rfl, ?_, ?_⟩
  · simp
  · exact Circular.holds_nil _ _ _

/-- A session follows a queue of the ring's length: same histories, same contents. -/
structure Refines {n : ℕ} (session : Session) (history : BoundedFifo.History UInt8 n) :
    Prop where
  len_eq : session.ring.len.toNat = n
  accepted_eq : session.accepted = history.accepted
  returned_eq : session.returned = history.returned
  represents : Represents session.ring history.returned.length history.queue.items

namespace Refines

variable {n : ℕ} {session : Session} {history : BoundedFifo.History UInt8 n}

theorem accepted_length (refines : Refines session history) (conserved : history.Conserved) :
    session.accepted.length = history.returned.length + history.queue.items.length := by
  rw [refines.accepted_eq, conserved, List.length_append]

theorem step (refines : Refines session history) (conserved : history.Conserved)
    (positive : 0 < n) (call : Call)
    (continuous : Continuous n (session.accepted.length + call.offered)) :
    Refines (session.step call) (history.step call.request) := by
  rw [refines.accepted_length conserved] at continuous
  have represents := refines.represents
  have lenEq := refines.len_eq
  have lenPositive : 0 < session.ring.len.toNat := by omega
  cases call with
  | kfifoIn buf len =>
      have acceptedBytes :
          history.queue.accepts (Circular.cells buf 0 len.toNat) =
            Circular.cells buf 0 (min len.toNat (n - history.queue.items.length)) := by
        simp only [BoundedFifo.Queue.accepts]
        exact Circular.take_cells buf 0 len.toNat _
      have accepted := represents.toNat_accepted buf len
      rw [lenEq] at accepted
      refine ⟨refines.len_eq, ?_, refines.returned_eq, ?_⟩
      · simp only [Session.step, Call.request, BoundedFifo.History.step, accepted,
          acceptedBytes, refines.accepted_eq]
      · simp only [Session.step, Call.request, BoundedFifo.History.step,
          BoundedFifo.Queue.push, acceptedBytes]
        apply represents.kfifoIn lenPositive buf len (by rw [lenEq])
        rw [lenEq]
        apply continuous.mono
        simp only [Call.offered]
        omega
  | read buf len =>
      have cellsEq := represents.cells_read lenPositive
        (by rw [lenEq]; exact continuous.mono (by omega)) buf len
      refine ⟨refines.len_eq, refines.accepted_eq, ?_, ?_⟩
      · simp only [Session.step, Call.request, BoundedFifo.History.step, cellsEq,
          refines.returned_eq]
      · have dropped := represents.read buf len rfl
        simp only [Session.step, Call.request, BoundedFifo.History.step,
          BoundedFifo.Queue.pop, List.length_append, List.length_take]
        rwa [← List.drop_eq_drop_min] at dropped

theorem run (refines : Refines session history) (conserved : history.Conserved)
    (positive : 0 < n) (calls : List Call)
    (continuous : Continuous n (session.accepted.length + offeredBytes calls)) :
    Refines (session.run calls) (history.run (calls.map Call.request)) := by
  induction calls generalizing session history with
  | nil => exact refines
  | cons call rest ih =>
      rw [offeredBytes_cons] at continuous
      have stepped := refines.step conserved positive call (continuous.mono (by omega))
      apply ih stepped (conserved.step call.request)
      apply continuous.mono
      have grows := length_accepted_step_le session call
      omega

end Refines

theorem refines_start (ring : RingBuffer) (represents : Represents ring 0 []) :
    Refines (Session.start ring)
      (BoundedFifo.History.start : BoundedFifo.History UInt8 ring.len.toNat) := by
  exact ⟨rfl, rfl, rfl, represents⟩

theorem fifoOn_of_continuous (ring : RingBuffer) (represents : Represents ring 0 [])
    (positive : 0 < ring.len.toNat) (calls : List Call)
    (continuous : Continuous ring.len.toNat (offeredBytes calls)) : FifoOn ring calls := by
  have refines := (refines_start ring represents).run BoundedFifo.History.conserved_start
    positive calls (by simpa [Session.start] using continuous)
  have conserved : ((BoundedFifo.History.start : BoundedFifo.History UInt8 ring.len.toNat).run
      (calls.map Call.request)).Conserved := BoundedFifo.History.conserved_start.run _
  have acceptedEq := refines.accepted_eq.trans conserved
  rw [← refines.returned_eq] at acceptedEq
  have total := length_accepted_run_le (Session.start ring) calls
  have bufferedEq := refines.represents.buffered_eq (by rw [refines.len_eq]; exact positive) (by
    rw [refines.len_eq]
    apply continuous.mono
    have := refines.accepted_length conserved
    simp only [Session.start, List.length_nil] at total this
    omega)
  refine ⟨⟨_, acceptedEq.symm⟩, ?_⟩
  rw [acceptedEq, List.drop_left, bufferedEq]

end RingBuffer

end Mica
