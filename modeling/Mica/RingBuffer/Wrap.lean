import Mica.RingBuffer.Fifo

/-!
# The counter wrap

A ring of length `len` sends stream position `2 ^ 32 - 1` to slot
`(2 ^ 32 - 1) % len` and position `2 ^ 32` to slot 0. If `len` does not divide
`2 ^ 32` the second slot does not follow the first one, although
`kfifo_copy_in` puts two bytes written at once into neighbouring slots.
-/

namespace Mica

namespace RingBuffer

theorem toNat_len_ringBufferInit {len : ℕ} (addr : Memory) (small : len < 2 ^ 32) :
    (ringBufferInit addr (Int32.ofNat len)).len.toNat = len := by
  simp only [ringBufferInit, Int32.toUInt32_ofNat']
  rw [UInt32.toNat_ofNat']
  exact Nat.mod_eq_of_lt small

theorem ringBufferPairInit_eq {len : Int32} (rxaddr txaddr : Memory)
    (admitted : 1 ≤ len.toInt - sizeofRingBuffer) :
    ringBufferPairInit (some rxaddr) (some txaddr) len =
      some (ringBufferInit rxaddr (Int32.ofNat (len.toInt - sizeofRingBuffer).toNat),
        ringBufferInit txaddr (Int32.ofNat (len.toInt - sizeofRingBuffer).toNat)) := by
  have upper : len.toInt < 2 ^ 31 := len.toInt_lt
  simp only [sizeofRingBuffer, Nat.cast_ofNat] at admitted
  have sizeEq : toSizeT len = len.toInt.toNat := by
    simp only [toSizeT]
    rw [Int.emod_eq_of_lt (by omega) (by omega)]
  have ringLen : len.toInt.toNat - sizeofRingBuffer =
      (len.toInt - (sizeofRingBuffer : ℕ)).toNat := by
    simp only [sizeofRingBuffer]
    omega
  simp only [ringBufferPairInit, sizeEq]
  rw [if_neg (by simp only [sizeofRingBuffer]; omega), ringLen]

/-! ## A run that breaks the order -/

def zeroByte : Memory := fun _ => 0

/-- The two bytes 1 and 2. -/
def oneTwo : Memory := fun k => if k = 0 then 1 else 2

/-- `count` times: write one zero byte and read it back. -/
def rounds (count : ℕ) : List Call :=
  (List.replicate count [Call.kfifoIn zeroByte 1, Call.read zeroByte 1]).flatten

/-- Write two bytes at once and read them one at a time. -/
def twoByTwo : List Call :=
  [Call.kfifoIn oneTwo 2, Call.read zeroByte 1, Call.read zeroByte 1]

/-- Both counters at their last value, then two bytes across the wrap. -/
def wrapCalls : List Call := rounds (2 ^ 32 - 1) ++ twoByTwo

theorem rounds_succ (count : ℕ) :
    rounds (count + 1) =
      Call.kfifoIn zeroByte 1 :: Call.read zeroByte 1 :: rounds count := by
  simp [rounds, List.replicate_succ]

theorem offeredBytes_rounds (count : ℕ) : offeredBytes (rounds count) = count := by
  induction count with
  | zero => simp [rounds, offeredBytes]
  | succ count ih =>
      rw [rounds_succ, offeredBytes_cons, offeredBytes_cons, ih]
      simp only [Call.offered, UInt32.toNat_one]
      omega

theorem Session.run_eq (session : Session) (calls : List Call) :
    session.run calls =
      { ring := ((Session.start session.ring).run calls).ring
        accepted := session.accepted ++ ((Session.start session.ring).run calls).accepted
        returned := session.returned ++ ((Session.start session.ring).run calls).returned } := by
  induction calls generalizing session with
  | nil => simp [Session.run, Session.start]
  | cons call rest ih =>
      have fromSession := ih (session.step call)
      have fromStart := ih ((Session.start session.ring).step call)
      simp only [Session.run, List.foldl_cons] at fromSession fromStart ⊢
      rw [fromSession, fromStart]
      cases call with
      | kfifoIn buf len => simp [Session.step, Session.start]
      | read buf len => simp [Session.step, Session.start]

theorem queue_rounds {n : ℕ} (positive : 0 < n) (count : ℕ)
    (history : BoundedFifo.History UInt8 n) (empty : history.queue.items = []) :
    (history.run ((rounds count).map Call.request)).queue.items = [] ∧
      (history.run ((rounds count).map Call.request)).returned.length =
        history.returned.length + count := by
  induction count generalizing history with
  | zero => simpa [rounds, BoundedFifo.History.run] using empty
  | succ count ih =>
      have oneByte : Circular.cells zeroByte 0 1 = [0] := by
        simp [Circular.cells, zeroByte]
      have afterPush : (history.step (.push [0])).queue.items = [0] := by
        simp [BoundedFifo.History.step, BoundedFifo.Queue.push, BoundedFifo.Queue.accepts, empty,
          List.take_of_length_le (show [(0 : UInt8)].length ≤ n from positive)]
      have afterPop : ((history.step (.push [0])).step (.pop 1)).queue.items = [] := by
        simp [BoundedFifo.History.step, BoundedFifo.Queue.pop] at afterPush ⊢
        simp [afterPush]
      have returned : ((history.step (.push [0])).step (.pop 1)).returned.length =
          history.returned.length + 1 := by
        simp [BoundedFifo.History.step] at afterPush ⊢
        simp [afterPush]
      rcases ih _ afterPop with ⟨queueEmpty, lengthEq⟩
      have popOne : (Call.read zeroByte 1).request = .pop 1 := rfl
      have pushZero : (Call.kfifoIn zeroByte 1).request = .push [0] := by
        simp only [Call.request, UInt32.toNat_one, oneByte]
      simp only [rounds_succ, List.map_cons, popOne, pushZero, BoundedFifo.History.run,
        List.foldl_cons] at queueEmpty lengthEq ⊢
      refine ⟨queueEmpty, ?_⟩
      omega

theorem origin_kfifoIn {ring : RingBuffer} (positive : 0 < ring.len.toNat)
    (origin : ring.data 0 = 0) (len : UInt32) :
    (kfifoIn ring zeroByte len).1.data 0 = 0 := by
  simp only [kfifoIn]
  rw [kfifoCopyIn_eq positive]
  rcases Circular.copyIn_eq_or ring.len.toNat ring.data zeroByte
      (ring.inIndex.toNat % ring.len.toNat)
      (if len > ring.kfifoUnused then ring.kfifoUnused else len).toNat 0 with old | ⟨k, new⟩
  · exact old.trans origin
  · exact new

theorem origin_rounds (session : Session) (positive : 0 < session.ring.len.toNat)
    (origin : session.ring.data 0 = 0) (count : ℕ) :
    (session.run (rounds count)).ring.data 0 = 0 := by
  induction count generalizing session with
  | zero => exact origin
  | succ count ih =>
      simp only [rounds_succ, Session.run, List.foldl_cons] at ih ⊢
      apply ih
      · exact positive
      · exact origin_kfifoIn positive origin 1

theorem origin_first (ring : RingBuffer) (represents : Represents ring 0 [])
    (positive : 0 < ring.len.toNat) : (kfifoIn ring zeroByte 1).1.data 0 = 0 := by
  have oneFits : 1 = min (1 : UInt32).toNat (ring.len.toNat - ([] : List UInt8).length) := by
    simp only [UInt32.toNat_one, List.length_nil]
    omega
  have written := represents.kfifoIn positive zeroByte 1 oneFits (Or.inr (by simp))
  have slot := written.holds 0 (by simp)
  simpa [zeroByte] using slot

theorem origin_rounds_succ (ring : RingBuffer) (represents : Represents ring 0 [])
    (positive : 0 < ring.len.toNat) (count : ℕ) :
    ((Session.start ring).run (rounds (count + 1))).ring.data 0 = 0 := by
  rw [rounds_succ]
  exact origin_rounds (((Session.start ring).step (.kfifoIn zeroByte 1)).step
    (.read zeroByte 1)) positive (origin_first ring represents positive) count

theorem represents_rounds (ring : RingBuffer) (represents : Represents ring 0 [])
    (positive : 0 < ring.len.toNat) {count : ℕ} (below : count ≤ 2 ^ 32) :
    let session := (Session.start ring).run (rounds count)
    session.ring.len.toNat = ring.len.toNat ∧ session.accepted = session.returned ∧
      Represents session.ring count [] := by
  have refines := (refines_start ring represents).run BoundedFifo.History.conserved_start
    positive (rounds count) (Or.inr (by simpa [Session.start, offeredBytes_rounds] using below))
  have conserved : ((BoundedFifo.History.start : BoundedFifo.History UInt8 ring.len.toNat).run
      ((rounds count).map Call.request)).Conserved := BoundedFifo.History.conserved_start.run _
  rcases queue_rounds positive count BoundedFifo.History.start rfl with ⟨empty, lengthEq⟩
  refine ⟨refines.len_eq, ?_, ?_⟩
  · rw [refines.accepted_eq, refines.returned_eq, conserved, empty, List.append_nil]
  · have here := refines.represents
    rw [empty, lengthEq] at here
    simpa [BoundedFifo.History.start] using here

theorem slot_before_wrap {n : ℕ} (notDvd : ¬n ∣ 2 ^ 32) (positive : 0 < n) :
    (2 ^ 32 - 1) % n + 1 < n := by
  by_contra atEnd
  apply notDvd
  have slotLt := Nat.mod_lt (2 ^ 32 - 1) positive
  have split := Nat.div_add_mod (2 ^ 32 - 1) n
  refine ⟨(2 ^ 32 - 1) / n + 1, ?_⟩
  rw [Nat.mul_add]
  omega

theorem kfifoIn_of_room {ring : RingBuffer} (positive : 0 < ring.len.toNat) (buf : Memory)
    {len : UInt32} (room : len.toNat ≤ ring.kfifoUnused.toNat) :
    kfifoIn ring buf len =
      ({ ring with
          data := Circular.copyIn ring.len.toNat ring.data buf
            (ring.inIndex.toNat % ring.len.toNat) len.toNat
          inIndex := ring.inIndex + len }, len) := by
  have notClamped : ¬len > ring.kfifoUnused := by
    rw [gt_iff_lt, UInt32.lt_iff_toNat_lt]
    omega
  simp only [kfifoIn, if_neg notClamped]
  rw [kfifoCopyIn_eq positive]

theorem step_read_one {session : Session} (positive : 0 < session.ring.len.toNat)
    (available : 1 ≤ (session.ring.inIndex - session.ring.outIndex).toNat) (buf : Memory) :
    session.step (.read buf 1) =
      { session with
        ring := { session.ring with outIndex := session.ring.outIndex + 1 }
        returned := session.returned ++
          [session.ring.data (session.ring.outIndex.toNat % session.ring.len.toNat)] } := by
  have one : (1 : Int32).toUInt32 = 1 := rfl
  have notClamped : ¬1 > session.ring.inIndex - session.ring.outIndex := by
    rw [gt_iff_lt, UInt32.lt_iff_toNat_lt, UInt32.toNat_one]
    omega
  have offBound := Nat.mod_lt session.ring.outIndex.toNat positive
  have oneCell : Circular.cells (kfifoCopyOut session.ring buf 1 session.ring.outIndex) 0 1 =
      [session.ring.data (session.ring.outIndex.toNat % session.ring.len.toNat)] := by
    rw [kfifoCopyOut_eq positive, UInt32.toNat_one,
      Circular.cells_copyOut session.ring.data buf offBound positive]
    simp
  simp only [Session.step, ringBufferRead, kfifoOut, kfifoOutPeek, one, if_neg notClamped,
    UInt32.toNat_one, oneCell]

theorem step_read_across {session : Session} (positive : 0 < session.ring.len.toNat)
    (inEq : session.ring.inIndex = 1) (outEq : session.ring.outIndex = 4294967295)
    (buf : Memory) :
    ((session.step (.read buf 1)).step (.read buf 1)).returned =
      session.returned ++ [session.ring.data ((2 ^ 32 - 1) % session.ring.len.toNat)] ++
        [session.ring.data 0] := by
  have firstRead := step_read_one positive (by rw [inEq, outEq]; decide) buf
  have afterFirst : (session.step (.read buf 1)).ring.outIndex = 0 := by
    rw [firstRead, outEq]
    rfl
  have secondRead := @step_read_one (session.step (.read buf 1))
    (by rw [firstRead]; exact positive)
    (by rw [afterFirst, firstRead, inEq]; decide) buf
  rw [secondRead, afterFirst, firstRead]
  simp only [outEq, UInt32.toNat_zero, Nat.zero_mod]
  rfl

theorem twoByTwo_wrong (ring : RingBuffer) (represents : Represents ring (2 ^ 32 - 1) [])
    (origin : ring.data 0 = 0) (positive : 0 < ring.len.toNat)
    (notDvd : ¬ring.len.toNat ∣ 2 ^ 32) :
    ∃ byte : UInt8, byte ≠ 2 ∧
      ((Session.start ring).run twoByTwo).accepted = [1, 2] ∧
      ((Session.start ring).run twoByTwo).returned = [1, byte] := by
  have notLast := slot_before_wrap notDvd positive
  have inEq : ring.inIndex = 4294967295 := by
    rw [← UInt32.toNat_inj, represents.in_eq]
    rfl
  have outEq : ring.outIndex = 4294967295 := by
    rw [← UInt32.toNat_inj, represents.out_eq]
    rfl
  have room : (2 : UInt32).toNat ≤ ring.kfifoUnused.toNat := by
    rw [represents.toNat_unused]
    simp only [UInt32.reduceToNat, List.length_nil]
    omega
  have first : ring.kfifoIn oneTwo 2 =
      ({ ring with
          data := Circular.copyIn ring.len.toNat ring.data oneTwo
            ((2 ^ 32 - 1) % ring.len.toNat) 2
          inIndex := 1 }, 2) := by
    rw [kfifoIn_of_room positive oneTwo room, inEq]
    rfl
  have firstSlot := Circular.copyIn_slot ring.data oneTwo
    (Nat.mod_lt (2 ^ 32 - 1) positive) (by omega : 2 ≤ ring.len.toNat) Nat.zero_lt_two
  rw [Nat.add_zero, Nat.mod_mod] at firstSlot
  refine ⟨Circular.copyIn ring.len.toNat ring.data oneTwo ((2 ^ 32 - 1) % ring.len.toNat) 2 0,
    ?_, ?_⟩
  · rcases Nat.eq_zero_or_pos ((2 ^ 32 - 1) % ring.len.toNat) with atOrigin | afterOrigin
    · rw [atOrigin] at firstSlot ⊢
      rw [firstSlot]
      decide
    · rw [Circular.copyIn_frame ring.data oneTwo (Nat.mod_lt _ positive) (by omega), origin]
      · decide
      · intro k kBound
        rw [Nat.mod_eq_of_lt (by omega)]
        omega
  · have second : (Session.start ring).step (.kfifoIn oneTwo 2) =
        { ring := { ring with
            data := Circular.copyIn ring.len.toNat ring.data oneTwo
              ((2 ^ 32 - 1) % ring.len.toNat) 2
            inIndex := 1 }
          accepted := [1, 2]
          returned := [] } := by
      simp only [Session.step, Session.start, first]
      rfl
    have reads := @step_read_across ((Session.start ring).step (.kfifoIn oneTwo 2))
      (by rw [second]; exact positive) (by rw [second]) (by rw [second]; exact outEq) zeroByte
    simp only [twoByTwo, Session.run, List.foldl_cons, List.foldl_nil]
    rw [reads, second]
    simp only [firstSlot]
    exact ⟨rfl, rfl⟩

theorem not_fifoOn_wrapCalls (ring : RingBuffer) (represents : Represents ring 0 [])
    (positive : 0 < ring.len.toNat) (notDvd : ¬ring.len.toNat ∣ 2 ^ 32) :
    ¬FifoOn ring wrapCalls := by
  rcases represents_rounds ring represents positive (Nat.sub_le (2 ^ 32) 1) with
    ⟨lenEq, sameBytes, before⟩
  have origin : ((Session.start ring).run (rounds (2 ^ 32 - 1))).ring.data 0 = 0 := by
    obtain ⟨count, countEq⟩ : ∃ count, 2 ^ 32 - 1 = count + 1 := ⟨2 ^ 32 - 2, rfl⟩
    rw [countEq]
    exact origin_rounds_succ ring represents positive count
  rcases twoByTwo_wrong _ before origin (by omega) (by rwa [lenEq]) with
    ⟨byte, notTwo, accepted, returned⟩
  rintro ⟨isPrefix, -⟩
  have split : (Session.start ring).run wrapCalls =
      ((Session.start ring).run (rounds (2 ^ 32 - 1))).run twoByTwo := by
    simp only [wrapCalls, Session.run, List.foldl_append]
  rw [split, Session.run_eq, accepted, returned, sameBytes] at isPrefix
  have equal := isPrefix.eq_of_length (by simp)
  simp at equal
  exact notTwo equal

/--
The rings set up by `ring_buffer_pair_init` are first-in first-out on every run
exactly when their length divides the counter range; on runs that offer at most
`2 ^ 32` bytes every length will do.
-/
theorem fifoOn_pair_iff (rxaddr txaddr : Memory) (len : Int32)
    (admitted : 1 ≤ len.toInt - sizeofRingBuffer) :
    ∃ rx tx, ringBufferPairInit (some rxaddr) (some txaddr) len = some (rx, tx) ∧
      ∀ ring, ring = rx ∨ ring = tx →
        ring.len.toNat = (len.toInt - sizeofRingBuffer).toNat ∧
        ((∀ calls, FifoOn ring calls) ↔ (len.toInt - sizeofRingBuffer).toNat ∣ 2 ^ 32) ∧
        ∀ calls, offeredBytes calls ≤ 2 ^ 32 → FifoOn ring calls := by
  have upper : len.toInt < 2 ^ 31 := len.toInt_lt
  refine ⟨_, _, ringBufferPairInit_eq rxaddr txaddr admitted, ?_⟩
  intro ring isRing
  obtain ⟨addr, rfl⟩ : ∃ addr,
      ring = ringBufferInit addr (Int32.ofNat (len.toInt - sizeofRingBuffer).toNat) := by
    rcases isRing with isRx | isTx
    · exact ⟨rxaddr, isRx⟩
    · exact ⟨txaddr, isTx⟩
  have lenEq := toNat_len_ringBufferInit addr
    (show (len.toInt - sizeofRingBuffer).toNat < 2 ^ 32 by simp only [sizeofRingBuffer]; omega)
  have represents := represents_ringBufferInit addr
    (Int32.ofNat (len.toInt - sizeofRingBuffer).toNat)
  have positive : 0 < (ringBufferInit addr
      (Int32.ofNat (len.toInt - sizeofRingBuffer).toNat)).len.toNat := by omega
  refine ⟨lenEq, ⟨?_, ?_⟩, ?_⟩
  · intro fifo
    by_contra notDvd
    apply not_fifoOn_wrapCalls _ represents positive (by rwa [lenEq])
    exact fifo wrapCalls
  · intro divides calls
    exact fifoOn_of_continuous _ represents positive calls (Or.inl (by rwa [lenEq]))
  · intro calls below
    exact fifoOn_of_continuous _ represents positive calls (Or.inr below)

/-- The default 0x1000-byte ring has 4080 data bytes and loses the order. -/
theorem not_fifoOn_default :
    ∃ rx tx, ringBufferPairInit (some zeroByte) (some zeroByte) 0x1000 = some (rx, tx) ∧
      rx.len = 4080 ∧ ¬FifoOn rx wrapCalls := by
  refine ⟨_, _, rfl, rfl, ?_⟩
  apply not_fifoOn_wrapCalls _ (represents_ringBufferInit _ _)
  · decide
  · decide

theorem fifoOn_pair_iff_page :
    ∃ rx tx, ringBufferPairInit (some zeroByte) (some zeroByte) 0x1010 = some (rx, tx) ∧
      ∀ ring, ring = rx ∨ ring = tx → ∀ calls, FifoOn ring calls := by
  rcases fifoOn_pair_iff zeroByte zeroByte 0x1010 (by decide) with ⟨rx, tx, pair, onRing⟩
  refine ⟨rx, tx, pair, ?_⟩
  intro ring isRing
  exact (onRing ring isRing).2.1.mpr (by decide)

end RingBuffer

end Mica
