import Mica.Lib.Buffer
import Mica.Lib.CTypes
import Mica.Rpc.Streams

/-!
# Line feeds on a terminal

`rpmsg_rx_tty_callback` of `services/pty/rpmsg_pty.c` and `rpc_write` of
`services/rpc/rpc_backend.c` put a carriage return in front of every line feed, each
with a loop of its own over two indices whose sum is where the next byte goes. The
terminal then gets the text by as many calls of `write` as it takes.

The arrays are checked buffers: a store outside of one is a fault. `Rpc.rpcWrite` passes
on `Rpc.expandNewlines`, which is what the loops compute.
-/

namespace Mica.Pty

open Errno MachineInt

/-- `'\n'` -/
def lineFeed : UInt8 := 10

/-- `'\r'` -/
def carriageReturn : UInt8 := 13

/-- The loop that both functions have: from the byte of the message at the index `i` on, with `j`
carriage returns so far. -/
def expandLoop : List UInt8 → ℤ → ℤ → List UInt8 → Outcome (ℤ × ℤ × List UInt8)
  | [], i, j, msg => .ok (i, j, msg)
  | byte :: data, i, j, msg =>
      if byte = lineFeed then do
        let msg ← Buffer.write msg (signed 32 (i + j)) [carriageReturn]
        let j := signed 32 (j + 1)
        let msg ← Buffer.write msg (signed 32 (i + j)) [byte]
        expandLoop data (signed 32 (i + 1)) j msg
      else do
        let msg ← Buffer.write msg (signed 32 (i + j)) [byte]
        expandLoop data (signed 32 (i + 1)) j msg

/-- The text that `rpmsg_rx_tty_callback` is about to write: `len` bytes of the block `msg`. -/
def ttyText (data msg : List UInt8) : Outcome (List UInt8) := do
  let (i, j, msg) ← expandLoop data 0 0 msg
  let len := unsigned 64 (signed 32 (i + j))
  pure (msg.take len.toNat)

/-- The text that `rpc_write` hands to `fwrite`: `len` bytes of the array `msg`, which gets a
terminator behind them. -/
def rpcText (data msg : List UInt8) : Outcome (List UInt8) := do
  let (i, j, msg) ← expandLoop data 0 0 msg
  let len := unsigned 64 (signed 32 (i + j))
  let msg ← Buffer.write msg len [0]
  pure (msg.take len.toNat)

/-- The loop `while (len)`, for so many rounds at most: `text` are the `len` bytes at `msg`. The
`k`-th call of `write` takes as many bytes as `results k` says, at most those that it is given.
The result is what has been written when the loop ends. -/
def writeLoop (results : ℕ → ℤ) : ℕ → ℕ → List UInt8 → List UInt8 → Option (List UInt8)
  | _, _, [], written => some written
  | 0, _, _ :: _, _ => none
  | rounds + 1, k, byte :: rest, written =>
      let text := byte :: rest
      let ret := min (results k) text.length
      if ret < 0 then some written
      else writeLoop results rounds (k + 1) (text.drop ret.toNat) (written ++ text.take ret.toNat)

/-- `rpmsg_rx_tty_callback`, with the block that `malloc` returns, or none; what has been written to
the terminal when it returns 0. -/
def rpmsgRxTtyCallback (active : ℤ) (block : Option (List UInt8)) (results : ℕ → ℤ) (rounds : ℕ)
    (data : List UInt8) : Outcome (Option (List UInt8)) :=
  if active ≠ 1 then .error (-eagain)
  else
    match block with
    | none => .error (-enomem)
    | some msg => do
        let text ← ttyText data msg
        pure (writeLoop results rounds 0 text [])

/-- What a byte is replaced by. -/
def replacement (byte : UInt8) : List UInt8 :=
  if byte = lineFeed then [carriageReturn, lineFeed] else [byte]

/-- The message with every line feed replaced. -/
def replaceLineFeeds (data : List UInt8) : List UInt8 := data.flatMap replacement

theorem replaceLineFeeds_cons (byte : UInt8) (data : List UInt8) :
    replaceLineFeeds (byte :: data) = replacement byte ++ replaceLineFeeds data :=
  List.flatMap_cons

theorem length_replacement_le (byte : UInt8) : (replacement byte).length ≤ 2 := by
  rw [replacement]
  split_ifs
  · exact Nat.le_refl _
  · exact Nat.le_succ _

theorem length_replaceLineFeeds_le (data : List UInt8) :
    (replaceLineFeeds data).length ≤ 2 * data.length := by
  induction data with
  | nil => exact Nat.le_refl _
  | cons byte data ih =>
      rw [replaceLineFeeds_cons, List.length_append, List.length_cons]
      have atMost := length_replacement_le byte
      omega

/-- The model of `rpc_write` among the handlers passes on this text. -/
theorem expandNewlines_eq (data : List UInt8) :
    Rpc.expandNewlines data = replaceLineFeeds data := by
  induction data with
  | nil => rfl
  | cons byte data ih =>
      rw [Rpc.expandNewlines, replaceLineFeeds_cons, ih, replacement]
      by_cases isFeed : byte = lineFeed
      · subst isFeed
        rfl
      · rw [if_neg isFeed]
        exact if_neg isFeed

theorem write_byte {front old : List UInt8} {index : ℤ} (byte : UInt8)
    (isEnd : index = front.length) (short : front.length < 2 ^ 31) (room : 0 < old.length) :
    Buffer.write (front ++ old) (signed 32 index) [byte] =
      .ok (front ++ [byte] ++ old.drop 1) := by
  rw [signed_of_lt (by omega) (by omega)]
  exact Buffer.write_append isEnd room

theorem expandLoop_cons (byte : UInt8) (data : List UInt8) {front old : List UInt8} {i j : ℕ}
    (place : i + j = front.length) (room : (replacement byte).length ≤ old.length)
    (short : front.length + (replacement byte).length < 2 ^ 31) :
    ∃ j' : ℕ, i + 1 + j' = (front ++ replacement byte).length ∧
      expandLoop (byte :: data) i j (front ++ old) =
        expandLoop data (i + 1 : ℕ) j'
          (front ++ replacement byte ++ old.drop (replacement byte).length) := by
  have index : (i : ℤ) + j = front.length := by exact_mod_cast place
  rw [expandLoop]
  by_cases isFeed : byte = lineFeed
  · have two : replacement byte = [carriageReturn] ++ [byte] := by
      rw [replacement, if_pos isFeed, isFeed]
      rfl
    rw [two, List.length_append, List.length_singleton, List.length_singleton] at room short
    have next : signed 32 ((i : ℤ) + 1) = (i + 1 : ℕ) := signed_of_lt (by omega) (by omega)
    have nextReturn : signed 32 ((j : ℤ) + 1) = (j + 1 : ℕ) := signed_of_lt (by omega) (by omega)
    refine ⟨j + 1, ?_, ?_⟩
    · rw [two, List.length_append, List.length_append, List.length_singleton,
        List.length_singleton]
      omega
    · have place' : (i : ℤ) + (j + 1 : ℕ) = (front ++ [carriageReturn]).length := by
        rw [List.length_append, List.length_singleton]
        omega
      have short' : (front ++ [carriageReturn]).length < 2 ^ 31 := by
        rw [List.length_append, List.length_singleton]
        omega
      have room' : 0 < (old.drop 1).length := by
        rw [List.length_drop]
        omega
      rw [if_pos isFeed, write_byte _ index (by omega) (by omega), Outcome.ok_bind]
      dsimp only
      rw [next, nextReturn, write_byte _ place' short' room', Outcome.ok_bind, two,
        ← List.append_assoc, List.drop_drop]
      rfl
  · have one : replacement byte = [byte] := if_neg isFeed
    rw [one, List.length_singleton] at room short
    have next : signed 32 ((i : ℤ) + 1) = (i + 1 : ℕ) := signed_of_lt (by omega) (by omega)
    refine ⟨j, ?_, ?_⟩
    · rw [one, List.length_append, List.length_singleton]
      omega
    · rw [if_neg isFeed, write_byte _ index (by omega) room, Outcome.ok_bind, next, one,
        List.length_singleton]

/-- The loop appends the text to what is there. The induction is on the bytes; what carries it is
that the two indices add up to the length of what is there. -/
theorem expandLoop_eq (data : List UInt8) {front old : List UInt8} {i j : ℕ}
    (place : i + j = front.length) (fits : (replaceLineFeeds data).length ≤ old.length)
    (short : front.length + (replaceLineFeeds data).length < 2 ^ 31) :
    ∃ i' j' : ℕ, i' + j' = (front ++ replaceLineFeeds data).length ∧
      expandLoop data i j (front ++ old) =
        .ok (i', j',
          front ++ replaceLineFeeds data ++ old.drop (replaceLineFeeds data).length) := by
  induction data generalizing front old i j with
  | nil =>
      refine ⟨i, j, ?_, ?_⟩
      · rw [place, replaceLineFeeds, List.flatMap_nil, List.append_nil]
      · simp [expandLoop, replaceLineFeeds]
  | cons byte data ih =>
      rw [replaceLineFeeds_cons, List.length_append] at fits short
      have round := @expandLoop_cons byte data front old i j place (by omega) (by omega)
      rcases round with ⟨j', place', round⟩
      have rest := @ih (front ++ replacement byte) (old.drop (replacement byte).length) (i + 1) j'
        place' (by rw [List.length_drop]; omega) (by rw [List.length_append]; omega)
      rw [List.append_assoc, ← replaceLineFeeds_cons, List.drop_drop, ← List.length_append,
        ← replaceLineFeeds_cons] at rest
      rw [round]
      exact rest

section Text

variable {data msg : List UInt8}

theorem expandLoop_start (short : data.length < 2 ^ 30) (size : 2 * data.length ≤ msg.length) :
    ∃ i j : ℕ, signed 32 ((i : ℤ) + j) = (replaceLineFeeds data).length ∧
      expandLoop data 0 0 msg =
        .ok (i, j, replaceLineFeeds data ++ msg.drop (replaceLineFeeds data).length) := by
  have atMost := length_replaceLineFeeds_le data
  have start := @expandLoop_eq data [] msg 0 0 rfl (by omega) (by
    rw [List.length_nil]
    omega)
  rcases start with ⟨i, j, place, loop⟩
  refine ⟨i, j, ?_, loop⟩
  rw [List.nil_append] at place
  rw [← Nat.cast_add, place]
  exact signed_of_lt (by omega) (by omega)

theorem unsigned_length (short : data.length < 2 ^ 30) :
    unsigned 64 (replaceLineFeeds data).length = (replaceLineFeeds data).length := by
  have atMost := length_replaceLineFeeds_le data
  exact unsigned_of_lt (by omega) (by omega)

theorem ttyText_eq (short : data.length < 2 ^ 30) (size : msg.length = 2 * data.length) :
    ttyText data msg = .ok (replaceLineFeeds data) := by
  rcases expandLoop_start short size.ge with ⟨i, j, length, loop⟩
  simp only [ttyText, loop, Outcome.ok_bind, length, unsigned_length short, Int.toNat_natCast,
    List.take_left, Outcome.pure_eq]

theorem rpcText_eq (short : data.length < 2 ^ 30) (size : msg.length = 2 * data.length + 1) :
    rpcText data msg = .ok (replaceLineFeeds data) := by
  have atMost := length_replaceLineFeeds_le data
  rcases @expandLoop_start data msg short (by omega) with ⟨i, j, length, loop⟩
  rw [rpcText, loop, Outcome.ok_bind]
  dsimp only
  rw [length, unsigned_length short]
  have room : [(0 : UInt8)].length ≤ (msg.drop (replaceLineFeeds data).length).length := by
    rw [List.length_drop, List.length_singleton]
    omega
  rw [Buffer.write_append (Eq.refl ((replaceLineFeeds data).length : ℤ)) room, Outcome.ok_bind,
    Int.toNat_natCast, List.append_assoc, List.take_left, Outcome.pure_eq]

end Text

theorem writeLoop_eq {results : ℕ → ℤ} (progress : ∀ k, 0 < results k) {rounds : ℕ}
    {text : List UInt8} (enough : text.length ≤ rounds) (k : ℕ) (written : List UInt8) :
    writeLoop results rounds k text written = some (written ++ text) := by
  induction rounds generalizing text k written with
  | zero =>
      rw [List.length_eq_zero_iff.1 (Nat.le_zero.1 enough), writeLoop, List.append_nil]
  | succ rounds ih =>
      cases text with
      | nil => rw [writeLoop, List.append_nil]
      | cons byte text =>
          have advance := progress k
          rw [List.length_cons] at enough
          have some : 0 < (min (results k) (byte :: text).length).toNat := by
            rw [List.length_cons]
            omega
          have fewer : ((byte :: text).drop (min (results k) (byte :: text).length).toNat).length ≤
              rounds := by
            rw [List.length_drop, List.length_cons] at *
            omega
          rw [writeLoop, if_neg (by rw [List.length_cons]; omega), ih fewer, List.append_assoc,
            List.take_append_drop]

theorem rpmsgRxTtyCallback_eq {data block : List UInt8} (short : data.length < 2 ^ 30)
    (size : block.length = 2 * data.length) {results : ℕ → ℤ} (progress : ∀ k, 0 < results k)
    {rounds : ℕ} (enough : 2 * data.length ≤ rounds) :
    rpmsgRxTtyCallback 1 (some block) results rounds data =
      .ok (some (replaceLineFeeds data)) := by
  have atMost := length_replaceLineFeeds_le data
  rw [rpmsgRxTtyCallback, if_neg (not_not.2 rfl)]
  simp only [ttyText_eq short size, Outcome.ok_bind, Outcome.pure_eq]
  rw [writeLoop_eq progress (atMost.trans enough), List.nil_append]

/-- Both loops replace the line feeds and store inside their array, whatever it held before; and
with short writes that make progress the terminal gets the text, in at most as many writes as the
array has bytes. -/
theorem lineFeeds_replaced (data block array : List UInt8) (short : data.length < 2 ^ 30)
    (blockSize : block.length = 2 * data.length) (arraySize : array.length = 2 * data.length + 1)
    (results : ℕ → ℤ) (progress : ∀ k, 0 < results k) :
    ttyText data block = .ok (replaceLineFeeds data) ∧
      rpcText data array = .ok (replaceLineFeeds data) ∧
      rpmsgRxTtyCallback 1 (some block) results (2 * data.length) data =
        .ok (some (replaceLineFeeds data)) :=
  ⟨ttyText_eq short blockSize, rpcText_eq short arraySize,
    rpmsgRxTtyCallback_eq short blockSize progress le_rfl⟩

/-- Two line feeds, written one byte at a time. -/
theorem lineFeeds_replaced_two :
    ttyText [10, 10] (List.replicate 4 0) = .ok [13, 10, 13, 10] ∧
      rpcText [10, 10] (List.replicate 5 0) = .ok [13, 10, 13, 10] ∧
      rpmsgRxTtyCallback 1 (some (List.replicate 4 0)) (fun _ => 1) 4 [10, 10] =
        .ok (some [13, 10, 13, 10]) :=
  lineFeeds_replaced [10, 10] (List.replicate 4 0) (List.replicate 5 0) (by decide) (by decide)
    (by decide) (fun _ => 1) (fun _ => by decide)

end Mica.Pty
