import Mica.Lib.Run
import Mica.RingBuffer.Basic

/-!
# One writer and one reader on a ring

`ring_buffer_write` and `ring_buffer_read` run concurrently on one ring, as the
two forwarding threads of the debug module and the client OS do. A step of the
system is one access to shared memory by one party: the load of an index, the
copy of one byte, or the store of an index, in program order and under
sequentially consistent memory. Calls, returns and the tests that end a loop
are steps of their own.

Both parties decide with an index of the other side that may be out of date.
The invariant keeps what such a snapshot still guarantees: the writer's chunk
ends within one revolution of the published `out`, and the reader's chunk ends
at or before the published `in`.
-/

namespace Mica

namespace RingBuffer

/-- The arguments `buf` and `len` of `ring_buffer_write`. -/
structure Message where
  buf : Memory
  len : Int32

namespace Message

/-- The number of rounds the loop counter goes through; none for a negative `len`. -/
def size (msg : Message) : ℕ := msg.len.toInt.toNat

def bytes (msg : Message) : List UInt8 := Circular.cells msg.buf 0 msg.size

end Message

/-- Where the writer stands in `ring_buffer_write(ring_buffer, buf, len)`. -/
inductive Writer where
  | idle
  /-- the test `cnt < len` of the loop -/
  | loop (msg : Message) (cnt : ℕ)
  /-- `kfifo_unused` before it loads `in` -/
  | unusedIn (msg : Message) (cnt : ℕ)
  /-- `kfifo_unused` before it loads `out` -/
  | unusedOut (msg : Message) (cnt : ℕ) (inIndex : UInt32)
  /-- the call of `kfifo_copy_in` before it loads its argument `off` -/
  | loadOff (msg : Message) (cnt : ℕ) (len : UInt32)
  /-- `kfifo_copy_in` with `k` bytes copied -/
  | copy (msg : Message) (cnt : ℕ) (len off : UInt32) (k : ℕ)
  /-- `fifo->in += len` before its load -/
  | addLoad (msg : Message) (cnt : ℕ) (len : UInt32)
  /-- `fifo->in += len` before its store -/
  | addStore (msg : Message) (cnt : ℕ) (len inIndex : UInt32)

/-- Where the reader stands in `ring_buffer_read(ring_buffer, buf, len)`. -/
inductive Reader where
  | idle
  /-- `__kfifo_out_peek` before it loads `in` -/
  | usedIn (len : UInt32)
  /-- `__kfifo_out_peek` before it loads `out` -/
  | usedOut (len inIndex : UInt32)
  /-- the call of `kfifo_copy_out` before it loads its argument `off` -/
  | loadOff (len : UInt32)
  /-- `kfifo_copy_out` with `k` bytes copied -/
  | copy (len off : UInt32) (k : ℕ)
  /-- `fifo->out += len` before its load -/
  | addLoad (len : UInt32)
  /-- `fifo->out += len` before its store -/
  | addStore (len outIndex : UInt32)

/--
The shared ring and the two parties. The last three fields are histories: the
bytes of all messages passed to `ring_buffer_write`, the bytes stored into the
ring, and the bytes the reader copied.
-/
structure Spsc where
  ring : RingBuffer
  writer : Writer
  reader : Reader
  passed : List UInt8
  written : List UInt8
  output : List UInt8

namespace Spsc

def start (ring : RingBuffer) : Spsc where
  ring := ring
  writer := .idle
  reader := .idle
  passed := []
  written := []
  output := []

/-- The slot of the `k`-th byte of a copy of `len` bytes that starts at counter `off`. -/
def slot (ring : RingBuffer) (len off : UInt32) (k : ℕ) : ℕ :=
  let off := off % ring.len
  let l := minU32 len (ring.len - off)
  if k < l.toNat then off.toNat + k else k - l.toNat

/-- One access of the writer. -/
inductive WriterStep (s : Spsc) : Spsc → Prop where
  | call (msg : Message) (isIdle : s.writer = .idle) :
      WriterStep s { s with writer := .loop msg 0, passed := s.passed ++ msg.bytes }
  | enter {msg : Message} {cnt : ℕ} (isLoop : s.writer = .loop msg cnt)
      (more : cnt < msg.size) :
      WriterStep s { s with writer := .unusedIn msg cnt }
  | leave {msg : Message} {cnt : ℕ} (isLoop : s.writer = .loop msg cnt)
      (done : ¬cnt < msg.size) :
      WriterStep s { s with writer := .idle }
  | unusedIn {msg : Message} {cnt : ℕ} (isUnusedIn : s.writer = .unusedIn msg cnt) :
      WriterStep s { s with writer := .unusedOut msg cnt s.ring.inIndex }
  | unusedOut {msg : Message} {cnt : ℕ} {inIndex : UInt32}
      (isUnusedOut : s.writer = .unusedOut msg cnt inIndex) :
      WriterStep s { s with
        writer :=
          let l := s.ring.len - (inIndex - s.ring.outIndex)
          let len := UInt32.ofNat (msg.size - cnt)
          .loadOff msg cnt (if len > l then l else len) }
  | loadOff {msg : Message} {cnt : ℕ} {len : UInt32}
      (isLoadOff : s.writer = .loadOff msg cnt len) :
      WriterStep s { s with writer := .copy msg cnt len s.ring.inIndex 0 }
  | copy {msg : Message} {cnt : ℕ} {len off : UInt32} {k : ℕ}
      (isCopy : s.writer = .copy msg cnt len off k) (more : k < len.toNat) :
      WriterStep s { s with
        ring := { s.ring with
          data := Function.update s.ring.data (slot s.ring len off k) (msg.buf (cnt + k)) }
        writer := .copy msg cnt len off (k + 1)
        written := s.written ++ [msg.buf (cnt + k)] }
  | copied {msg : Message} {cnt : ℕ} {len off : UInt32} {k : ℕ}
      (isCopy : s.writer = .copy msg cnt len off k) (done : ¬k < len.toNat) :
      WriterStep s { s with writer := .addLoad msg cnt len }
  | addLoad {msg : Message} {cnt : ℕ} {len : UInt32}
      (isAddLoad : s.writer = .addLoad msg cnt len) :
      WriterStep s { s with writer := .addStore msg cnt len s.ring.inIndex }
  | addStore {msg : Message} {cnt : ℕ} {len inIndex : UInt32}
      (isAddStore : s.writer = .addStore msg cnt len inIndex) :
      WriterStep s { s with
        ring := { s.ring with inIndex := inIndex + len }
        writer := .loop msg (cnt + len.toNat) }

/-- One access of the reader. -/
inductive ReaderStep (s : Spsc) : Spsc → Prop where
  | call (len : Int32) (isIdle : s.reader = .idle) :
      ReaderStep s { s with reader := .usedIn len.toUInt32 }
  | usedIn {len : UInt32} (isUsedIn : s.reader = .usedIn len) :
      ReaderStep s { s with reader := .usedOut len s.ring.inIndex }
  | usedOut {len inIndex : UInt32} (isUsedOut : s.reader = .usedOut len inIndex) :
      ReaderStep s { s with
        reader :=
          let l := inIndex - s.ring.outIndex
          .loadOff (if len > l then l else len) }
  | loadOff {len : UInt32} (isLoadOff : s.reader = .loadOff len) :
      ReaderStep s { s with reader := .copy len s.ring.outIndex 0 }
  | copy {len off : UInt32} {k : ℕ} (isCopy : s.reader = .copy len off k)
      (more : k < len.toNat) :
      ReaderStep s { s with
        reader := .copy len off (k + 1)
        output := s.output ++ [s.ring.data (slot s.ring len off k)] }
  | copied {len off : UInt32} {k : ℕ} (isCopy : s.reader = .copy len off k)
      (done : ¬k < len.toNat) :
      ReaderStep s { s with reader := .addLoad len }
  | addLoad {len : UInt32} (isAddLoad : s.reader = .addLoad len) :
      ReaderStep s { s with reader := .addStore len s.ring.outIndex }
  | addStore {len outIndex : UInt32} (isAddStore : s.reader = .addStore len outIndex) :
      ReaderStep s { s with
        ring := { s.ring with outIndex := outIndex + len }
        reader := .idle }

def Step (s t : Spsc) : Prop := WriterStep s t ∨ ReaderStep s t

/-- The states of all interleavings on a ring. -/
def Reachable (ring : RingBuffer) (s : Spsc) : Prop :=
  Relation.ReflTransGen Step (start ring) s

/-! ## The invariant -/

/-- Bytes of the current chunk that are stored but not yet published. -/
def Writer.stored : Writer → ℕ
  | .copy _ _ _ _ k => k
  | .addLoad _ _ len | .addStore _ _ len _ => len.toNat
  | _ => 0

/-- Bytes of the current chunk that are copied but not yet given back. -/
def Reader.copied : Reader → ℕ
  | .copy _ _ k => k
  | .addLoad len | .addStore len _ => len.toNat
  | _ => 0

/-- The first `count` bytes of the last message, and all earlier ones, are stored. -/
def Delivered (s : Spsc) (msg : Message) (count : ℕ) : Prop :=
  count ≤ msg.size ∧ ∃ earlier, s.passed = earlier ++ msg.bytes ∧
    s.written = earlier ++ msg.bytes.take count

/-- A chunk of `len` bytes fits behind the published bytes, within one revolution. -/
def Room (s : Spsc) (msg : Message) (cnt : ℕ) (len : UInt32) : Prop :=
  cnt + len.toNat ≤ msg.size ∧
    s.ring.inIndex.toNat + len.toNat ≤ s.ring.outIndex.toNat + s.ring.len.toNat

def WriterOk (s : Spsc) : Prop :=
  match s.writer with
  | .idle => s.written = s.passed
  | .loop msg cnt | .unusedIn msg cnt => Delivered s msg cnt
  | .unusedOut msg cnt inIndex => Delivered s msg cnt ∧ inIndex = s.ring.inIndex
  | .loadOff msg cnt len => Delivered s msg cnt ∧ Room s msg cnt len
  | .copy msg cnt len off k =>
      Delivered s msg (cnt + k) ∧ Room s msg cnt len ∧ off = s.ring.inIndex ∧ k ≤ len.toNat
  | .addLoad msg cnt len => Delivered s msg (cnt + len.toNat) ∧ Room s msg cnt len
  | .addStore msg cnt len inIndex =>
      Delivered s msg (cnt + len.toNat) ∧ Room s msg cnt len ∧ inIndex = s.ring.inIndex

/-- A chunk of `len` bytes ends at or before the published `in`. -/
def Available (s : Spsc) (len : UInt32) : Prop :=
  s.ring.outIndex.toNat + len.toNat ≤ s.ring.inIndex.toNat

def ReaderOk (s : Spsc) : Prop :=
  match s.reader with
  | .idle | .usedIn _ => True
  | .usedOut _ inIndex =>
      s.ring.outIndex.toNat ≤ inIndex.toNat ∧ inIndex.toNat ≤ s.ring.inIndex.toNat
  | .loadOff len | .addLoad len => Available s len
  | .copy len off k => Available s len ∧ off = s.ring.outIndex ∧ k ≤ len.toNat
  | .addStore len outIndex => Available s len ∧ outIndex = s.ring.outIndex

structure Invariant (s : Spsc) : Prop where
  positive : 0 < s.ring.len.toNat
  written_length : s.written.length = s.ring.inIndex.toNat + Writer.stored s.writer
  output_eq : s.output = s.written.take (s.ring.outIndex.toNat + Reader.copied s.reader)
  out_le : s.ring.outIndex.toNat ≤ s.ring.inIndex.toNat
  fits : s.written.length ≤ s.ring.outIndex.toNat + s.ring.len.toNat
  holds : Circular.Holds s.ring.len.toNat s.ring.data s.ring.outIndex.toNat
    (s.written.drop s.ring.outIndex.toNat)
  writerOk : WriterOk s
  readerOk : ReaderOk s

theorem slot_eq_mod {ring : RingBuffer} (positive : 0 < ring.len.toNat) {len off : UInt32}
    {k : ℕ} (lenBound : len.toNat ≤ ring.len.toNat) (kBound : k < len.toNat) :
    slot ring len off k = (off.toNat + k) % ring.len.toNat := by
  have offBound := Nat.mod_lt off.toNat positive
  have slotEq := Circular.splitSlot_eq_mod offBound lenBound kBound
  rw [Nat.mod_add_mod] at slotEq
  rw [← slotEq]
  simp only [slot, Circular.splitSlot, toNat_firstPart positive, UInt32.toNat_mod]

theorem invariant_start (addr : Memory) (len : Int32)
    (positive : 0 < (ringBufferInit addr len).len.toNat) :
    Invariant (start (ringBufferInit addr len)) := by
  refine ⟨positive, rfl, rfl, le_rfl, ?_, ?_, rfl, trivial⟩
  · simp [start]
  · exact Circular.holds_nil _ _ _

theorem ReaderOk.of_in_le {s t : Spsc} (ok : ReaderOk s) (readerEq : t.reader = s.reader)
    (outEq : t.ring.outIndex = s.ring.outIndex)
    (inLe : s.ring.inIndex.toNat ≤ t.ring.inIndex.toNat) : ReaderOk t := by
  simp only [ReaderOk, Available, readerEq, outEq] at ok ⊢
  cases reader : s.reader with
  | idle => trivial
  | usedIn len => trivial
  | usedOut len inIndex =>
      simp only [reader] at ok
      exact ⟨ok.1, ok.2.trans inLe⟩
  | loadOff len | addLoad len =>
      simp only [reader] at ok
      exact ok.trans inLe
  | copy len off k =>
      simp only [reader] at ok
      exact ⟨ok.1.trans inLe, ok.2⟩
  | addStore len outIndex =>
      simp only [reader] at ok
      exact ⟨ok.1.trans inLe, ok.2⟩

theorem WriterOk.of_out_le {s t : Spsc} (ok : WriterOk s) (writerEq : t.writer = s.writer)
    (passedEq : t.passed = s.passed) (writtenEq : t.written = s.written)
    (inEq : t.ring.inIndex = s.ring.inIndex) (lenEq : t.ring.len = s.ring.len)
    (outLe : s.ring.outIndex.toNat ≤ t.ring.outIndex.toNat) : WriterOk t := by
  have roomLe : ∀ msg cnt len, Room s msg cnt len → Room t msg cnt len := by
    intro msg cnt len room
    simp only [Room, inEq, lenEq] at room ⊢
    exact ⟨room.1, by omega⟩
  simp only [WriterOk, Delivered, writerEq, passedEq, writtenEq, inEq] at ok ⊢
  cases writer : s.writer with
  | idle | loop msg cnt | unusedIn msg cnt | unusedOut msg cnt inIndex =>
      simpa only [writer] using ok
  | loadOff msg cnt len | addLoad msg cnt len =>
      simp only [writer] at ok
      exact ⟨ok.1, roomLe _ _ _ ok.2⟩
  | copy msg cnt len off k =>
      simp only [writer] at ok
      exact ⟨ok.1, roomLe _ _ _ ok.2.1, ok.2.2⟩
  | addStore msg cnt len inIndex =>
      simp only [writer] at ok
      exact ⟨ok.1, roomLe _ _ _ ok.2.1, ok.2.2⟩

namespace Invariant

variable {s t : Spsc}

theorem copied_le (invariant : Invariant s) :
    s.ring.outIndex.toNat + Reader.copied s.reader ≤ s.ring.inIndex.toNat := by
  have outLe := invariant.out_le
  have readerOk := invariant.readerOk
  simp only [ReaderOk, Available] at readerOk
  cases reader : s.reader <;> simp only [reader, Reader.copied] at readerOk ⊢ <;> omega

theorem of_writer (invariant : Invariant s) {writer : Writer} {passed : List UInt8}
    (storedEq : Writer.stored writer = Writer.stored s.writer)
    (writerOk : WriterOk { s with writer := writer, passed := passed }) :
    Invariant { s with writer := writer, passed := passed } := by
  refine ⟨invariant.positive, ?_, invariant.output_eq, invariant.out_le, invariant.fits,
    invariant.holds, writerOk, invariant.readerOk⟩
  rw [storedEq]
  exact invariant.written_length

theorem of_reader (invariant : Invariant s) {reader : Reader}
    (copiedEq : Reader.copied reader = Reader.copied s.reader)
    (readerOk : ReaderOk { s with reader := reader }) :
    Invariant { s with reader := reader } := by
  refine ⟨invariant.positive, invariant.written_length, ?_, invariant.out_le, invariant.fits,
    invariant.holds, invariant.writerOk, readerOk⟩
  rw [copiedEq]
  exact invariant.output_eq

theorem writerStep (invariant : Invariant s) (step : WriterStep s t)
    (below : t.written.length < 2 ^ 32) : Invariant t := by
  have ok := invariant.writerOk
  cases step with
  | call msg isIdle =>
      simp only [WriterOk, isIdle] at ok
      apply invariant.of_writer
      · simp only [isIdle, Writer.stored]
      · refine ⟨Nat.zero_le _, s.passed, rfl, ?_⟩
        simp [ok]
  | enter isLoop more =>
      simp only [WriterOk, isLoop] at ok
      apply invariant.of_writer
      · simp only [isLoop, Writer.stored]
      · exact ok
  | @leave msg cnt isLoop done =>
      simp only [WriterOk, isLoop] at ok
      apply invariant.of_writer
      · simp only [isLoop, Writer.stored]
      · rcases ok with ⟨_, earlier, passedEq, writtenEq⟩
        have allBytes : msg.bytes.take cnt = msg.bytes := by
          apply List.take_of_length_le
          simpa [Message.bytes] using done
        simp only [WriterOk, passedEq, writtenEq, allBytes]
  | unusedIn isUnusedIn =>
      simp only [WriterOk, isUnusedIn] at ok
      apply invariant.of_writer
      · simp only [isUnusedIn, Writer.stored]
      · exact ⟨ok, rfl⟩
  | @unusedOut msg cnt inIndex isUnusedOut =>
      simp only [WriterOk, isUnusedOut] at ok
      rcases ok with ⟨delivered, rfl⟩
      have fits := invariant.fits
      have outLe := invariant.out_le
      have length := invariant.written_length
      simp only [isUnusedOut, Writer.stored] at length
      have sizeBound : msg.size < 2 ^ 31 := by
        have := msg.len.toInt_lt
        simp only [Message.size]
        omega
      apply invariant.of_writer
      · simp only [isUnusedOut, Writer.stored]
      · refine ⟨delivered, ?_, ?_⟩ <;>
          simp only [toNat_clamp, UInt32.toNat_ofNat', Nat.reducePow]
        · have := delivered.1
          omega
        · rw [toNat_sub_of_le, toNat_sub_of_le outLe]
          · omega
          · rw [toNat_sub_of_le outLe]
            omega
  | loadOff isLoadOff =>
      simp only [WriterOk, isLoadOff] at ok
      apply invariant.of_writer
      · simp only [isLoadOff, Writer.stored]
      · exact ⟨ok.1, ok.2, rfl, Nat.zero_le _⟩
  | @copy msg cnt len off k isCopy more =>
      simp only [WriterOk, isCopy] at ok
      rcases ok with ⟨⟨_, earlier, passedEq, writtenEq⟩, room, rfl, kBound⟩
      have length := invariant.written_length
      simp only [isCopy, Writer.stored] at length
      have outLe := invariant.out_le
      have copiedLe := invariant.copied_le
      rcases room with ⟨inMessage, inRing⟩
      have slotEq : slot s.ring len s.ring.inIndex k =
          (s.ring.outIndex.toNat + (s.written.drop s.ring.outIndex.toNat).length) %
            s.ring.len.toNat := by
        rw [slot_eq_mod invariant.positive (by omega) more, List.length_drop]
        congr 1
        omega
      have nextByte : msg.bytes.take (cnt + (k + 1)) =
          msg.bytes.take (cnt + k) ++ [msg.buf (cnt + k)] := by
        have inBytes : cnt + k < msg.bytes.length := by
          simp only [Message.bytes, Circular.length_cells]
          omega
        rw [← Nat.add_assoc, List.take_succ_eq_append_getElem inBytes]
        simp [Message.bytes]
      refine ⟨invariant.positive, ?_, ?_, outLe, ?_, ?_, ?_, invariant.readerOk⟩
      · simp only [List.length_append, List.length_singleton, Writer.stored]
        omega
      · change s.output = (s.written ++ [_]).take
          (s.ring.outIndex.toNat + Reader.copied s.reader)
        rw [List.take_append_of_le_length (by omega)]
        exact invariant.output_eq
      · simp only [List.length_append, List.length_singleton]
        omega
      · change Circular.Holds _ _ _ ((s.written ++ [_]).drop s.ring.outIndex.toNat)
        rw [List.drop_append_of_le_length (by omega), slotEq]
        apply invariant.holds.push
        simp only [List.length_drop]
        omega
      · refine ⟨⟨by omega, earlier, passedEq, ?_⟩, ⟨inMessage, inRing⟩, rfl, more⟩
        rw [nextByte, writtenEq, List.append_assoc]
  | @copied msg cnt len off k isCopy done =>
      simp only [WriterOk, isCopy] at ok
      rcases ok with ⟨delivered, room, _, kBound⟩
      have all : k = len.toNat := by omega
      subst all
      apply invariant.of_writer
      · simp only [isCopy, Writer.stored]
      · exact ⟨delivered, room⟩
  | addLoad isAddLoad =>
      simp only [WriterOk, isAddLoad] at ok
      apply invariant.of_writer
      · simp only [isAddLoad, Writer.stored]
      · exact ⟨ok.1, ok.2, rfl⟩
  | @addStore msg cnt len inIndex isAddStore =>
      simp only [WriterOk, isAddStore] at ok
      rcases ok with ⟨delivered, room, rfl⟩
      have length := invariant.written_length
      simp only [isAddStore, Writer.stored] at length
      have inEq : (s.ring.inIndex + len).toNat = s.ring.inIndex.toNat + len.toNat := by
        rw [UInt32.toNat_add]
        apply Nat.mod_eq_of_lt
        have : s.written.length < 2 ^ 32 := below
        omega
      have outLe := invariant.out_le
      refine ⟨invariant.positive, ?_, invariant.output_eq, ?_, invariant.fits, invariant.holds,
        delivered, ?_⟩
      · simp only [Writer.stored, inEq]
        exact length
      · simp only [inEq]
        omega
      · exact invariant.readerOk.of_in_le rfl rfl (by simp only [inEq]; omega)

theorem readerStep (invariant : Invariant s) (step : ReaderStep s t) : Invariant t := by
  have ok := invariant.readerOk
  cases step with
  | call len isIdle =>
      apply invariant.of_reader
      · simp only [isIdle, Reader.copied]
      · trivial
  | usedIn isUsedIn =>
      apply invariant.of_reader
      · simp only [isUsedIn, Reader.copied]
      · exact ⟨invariant.out_le, le_rfl⟩
  | @usedOut len inIndex isUsedOut =>
      simp only [ReaderOk, isUsedOut] at ok
      apply invariant.of_reader
      · simp only [isUsedOut, Reader.copied]
      · simp only [ReaderOk, Available, toNat_clamp]
        rw [toNat_sub_of_le ok.1]
        omega
  | loadOff isLoadOff =>
      simp only [ReaderOk, isLoadOff] at ok
      apply invariant.of_reader
      · simp only [isLoadOff, Reader.copied]
      · exact ⟨ok, rfl, Nat.zero_le _⟩
  | @copy len off k isCopy more =>
      simp only [ReaderOk, Available, isCopy] at ok
      rcases ok with ⟨available, rfl, kBound⟩
      have length := invariant.written_length
      have fits := invariant.fits
      have outputEq := invariant.output_eq
      simp only [isCopy, Reader.copied] at outputEq
      have inWritten : s.ring.outIndex.toNat + k < s.written.length := by omega
      -- the slot still holds the byte of this stream position: it is below the writer's
      -- bytes and less than a revolution behind them
      have byte : s.ring.data (slot s.ring len s.ring.outIndex k) =
          s.written[s.ring.outIndex.toNat + k] := by
        rw [slot_eq_mod invariant.positive (by omega) more,
          invariant.holds k (by simp only [List.length_drop]; omega), List.getElem_drop]
      refine ⟨invariant.positive, length, ?_, invariant.out_le, fits, invariant.holds,
        invariant.writerOk, ⟨available, rfl, more⟩⟩
      simp only [Reader.copied]
      rw [byte, outputEq, ← Nat.add_assoc, List.take_succ_eq_append_getElem inWritten]
  | @copied len off k isCopy done =>
      simp only [ReaderOk, isCopy] at ok
      rcases ok with ⟨available, _, kBound⟩
      have all : k = len.toNat := by omega
      subst all
      apply invariant.of_reader
      · simp only [isCopy, Reader.copied]
      · exact available
  | addLoad isAddLoad =>
      simp only [ReaderOk, isAddLoad] at ok
      apply invariant.of_reader
      · simp only [isAddLoad, Reader.copied]
      · exact ⟨ok, rfl⟩
  | @addStore len outIndex isAddStore =>
      simp only [ReaderOk, Available, isAddStore] at ok
      rcases ok with ⟨available, rfl⟩
      have outEq : (s.ring.outIndex + len).toNat = s.ring.outIndex.toNat + len.toNat := by
        rw [UInt32.toNat_add]
        apply Nat.mod_eq_of_lt
        have := s.ring.inIndex.toNat_lt
        omega
      have outputEq := invariant.output_eq
      simp only [isAddStore, Reader.copied] at outputEq
      have fits := invariant.fits
      refine ⟨invariant.positive, invariant.written_length, ?_, ?_, ?_, ?_, ?_, trivial⟩
      · simp only [Reader.copied, outEq]
        exact outputEq
      · simp only [outEq]
        exact available
      · simp only [outEq]
        omega
      · simp only [outEq]
        rw [← List.drop_drop]
        exact invariant.holds.drop len.toNat
      · exact invariant.writerOk.of_out_le rfl rfl rfl rfl rfl (by simp only [outEq]; omega)

theorem output_prefix (invariant : Invariant s) : s.output <+: s.written := by
  rw [invariant.output_eq]
  exact List.take_prefix _ _

theorem written_prefix (invariant : Invariant s) : s.written <+: s.passed := by
  have delivered : ∀ msg count, Delivered s msg count → s.written <+: s.passed := by
    rintro msg count ⟨_, earlier, passedEq, writtenEq⟩
    rw [passedEq, writtenEq]
    exact List.prefix_append_right_inj earlier |>.mpr (List.take_prefix _ _)
  have ok := invariant.writerOk
  simp only [WriterOk] at ok
  cases writer : s.writer with
  | idle =>
      simp only [writer] at ok
      simp [ok]
  | loop msg cnt | unusedIn msg cnt =>
      simp only [writer] at ok
      exact delivered _ _ ok
  | unusedOut msg cnt inIndex | loadOff msg cnt len | addLoad msg cnt len =>
      simp only [writer] at ok
      exact delivered _ _ ok.1
  | copy msg cnt len off k | addStore msg cnt len inIndex =>
      simp only [writer] at ok
      exact delivered _ _ ok.1

end Invariant

theorem written_length_le {s t : Spsc} (step : Step s t) :
    s.written.length ≤ t.written.length := by
  rcases step with writerStep | readerStep
  · cases writerStep <;> simp
  · cases readerStep <;> simp

/--
As long as fewer than `2 ^ 32` bytes are written, every byte the reader copies
is the byte the writer stored for that stream position, and the output is a
prefix of the messages passed to `ring_buffer_write`.
-/
theorem reachable_output_prefix (addr : Memory) (len : Int32)
    (positive : 1 ≤ (ringBufferInit addr len).len.toNat) (s : Spsc)
    (reachable : Reachable (ringBufferInit addr len) s) (below : s.written.length < 2 ^ 32) :
    s.output <+: s.written ∧ s.written <+: s.passed ∧ s.output <+: s.passed := by
  have invariant : Invariant s := by
    apply Transition.invariant_of_bounded (fun _ _ step => written_length_le step) _
      (invariant_start addr len positive) reachable below
    intro before after holds step afterBelow
    rcases step with writerStep | readerStep
    · exact holds.writerStep writerStep afterBelow
    · exact holds.readerStep readerStep
  exact ⟨invariant.output_prefix, invariant.written_prefix,
    invariant.output_prefix.trans invariant.written_prefix⟩

theorem Reachable.write {ring : RingBuffer} {s t : Spsc} (reachable : Reachable ring s)
    (step : WriterStep s t) : Reachable ring t :=
  Relation.ReflTransGen.tail reachable (Or.inl step)

theorem Reachable.read {ring : RingBuffer} {s t : Spsc} (reachable : Reachable ring s)
    (step : ReaderStep s t) : Reachable ring t :=
  Relation.ReflTransGen.tail reachable (Or.inr step)

/-- Of three bytes two fit into a ring of length 2, and the reader is at the first of them. -/
theorem reachable_output_prefix_two :
    ∃ s, Reachable (ringBufferInit (fun _ => 0) 2) s ∧
      s.output = [7] ∧ s.written = [7, 8] ∧ s.passed = [7, 8, 9] ∧
      s.output <+: s.written ∧ s.written <+: s.passed ∧ s.output <+: s.passed := by
  have idle : Reachable (ringBufferInit (fun _ => 0) 2) (start (ringBufferInit (fun _ => 0) 2)) :=
    Relation.ReflTransGen.refl
  have chunk := (((idle.write (.call ⟨fun i => 7 + UInt8.ofNat i, 3⟩ rfl)).write
    (.enter rfl (by decide))).write (.unusedIn rfl)).write (.unusedOut rfl)
  have stored := ((chunk.write (.loadOff rfl)).write (.copy rfl (by decide))).write
    (.copy rfl (by decide))
  have published := ((stored.write (.copied rfl (by decide))).write (.addLoad rfl)).write
    (.addStore rfl)
  have snapshot := ((published.read (.call 2 rfl)).read (.usedIn rfl)).read (.usedOut rfl)
  have copied := (snapshot.read (.loadOff rfl)).read (.copy rfl (by decide))
  exact ⟨_, copied, rfl, rfl, rfl,
    reachable_output_prefix (fun _ => 0) 2 (by decide) _ copied (by decide)⟩

end Spsc

end RingBuffer

end Mica
