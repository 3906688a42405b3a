import Mica.Rpc.Framing

/-!
# What `fread` delivers

`fread` returns how many items it has read, and `rpmsg_handle_fread` sends as many bytes of
its buffer as there were items. The client reads `ret * size` bytes out of the answer, so
items of more than one byte are cut off.
-/

namespace Mica.Rpc

open Cells

/-- How many complete items there are to read, of `count` that are asked for. -/
def completeItems (content : List UInt8) (position size count : ℕ) : ℕ :=
  ((content.drop position).take (size * count)).length / size

/-- `fread` of `count` items of `size` bytes from a stream at a position. An error ends the stream
for the call like the end of the file, so `content` is what can be read. -/
structure OsResult.ReadsItems (content : List UInt8) (position size count : ℕ) (result : OsResult) :
    Prop where
  items : result.ret = completeItems content position size count
  bytes : result.outs = [(content.drop position).take (size * count)]

/-- The only frame tells the number of items and has their bytes. -/
def DeliversItems (content : List UInt8) (position size items : ℕ) (frames : List Frame) : Prop :=
  ∃ params, frames = [⟨freadId, .rpmsgRpcOk, params⟩] ∧
    ReadResp.ret.nat (asResponse params) = items ∧
    ReadResp.buf.off + items * size ≤ params.length ∧
    load (asResponse params) ReadResp.buf (items * size) =
      (content.drop position).take (items * size)

section Run

variable {stack : ℕ → UInt8} {results : ℕ → OsResult} {state : State}

theorem load_buf_overwrite {memory : Mem} {field : Field} {data : List UInt8} {count : ℕ}
    (header : field.region = .resp ∧ field.off + field.size ≤ ReadResp.buf.off)
    (fits : data.length ≤ field.size) :
    load (overwrite memory field data) ReadResp.buf count = load memory ReadResp.buf count := by
  apply load_congr
  intro i _
  apply overwrite_of_le
  have before := header.2
  show field.off + data.length ≤ ReadResp.buf.off + i
  omega

theorem frames_freadReply (result : OsResult) (entry : Line) {sent : ℤ → Line}
    (few : result.count ≤ ReadResp.buf.size) :
    ∃ memory,
      frames ((do
        lprintf entry
        storeInt ReadResp.ret result.count
        setRspBase
        let ret ← rpcServerSend freadId .rpmsgRpcOk (16 + result.count)
        lprintf (sent ret)
        answer ret).run stack results state) =
          [⟨freadId, .rpmsgRpcOk,
            load memory (respField 0 (16 + result.count)) (16 + result.count)⟩] ∧
      ReadResp.ret.nat memory = result.count ∧
      ∀ count, load memory ReadResp.buf count = load state.mem ReadResp.buf count := by
  have sent : 16 + result.count ≤ proxyMaxBufLen := (Nat.add_le_add_left few 16).trans (by decide)
  rw [frames_lprintf, storeInt, run_store (LittleEndian.length_intBytes _ _).le,
    frames_setRspBase, frames_reply sent]
  let told := overwrite state.mem ReadResp.ret
    (LittleEndian.bytes ReadResp.ret.size ((result.count : ℤ) % 256 ^ ReadResp.ret.size).toNat)
  refine ⟨overwrite (overwrite told respTraceId (load told traceId respTraceId.size)) respErrnum
    (LittleEndian.intBytes respErrnum.size (state.tick (results state.clock)).errno), rfl, ?_, ?_⟩
  · rw [Extent.nat_overwrite_of_apart (by decide) (LittleEndian.length_intBytes _ _).le,
      Extent.nat_overwrite_of_apart (by decide) (length_load _ _ _).le, Extent.nat_overwrite_bytes]
    have size : ReadResp.ret.size = 8 := rfl
    have small : ReadResp.buf.size = 432 := rfl
    rw [size]
    omega
  · intro count
    rw [load_buf_overwrite (by decide) (LittleEndian.length_intBytes _ _).le,
      load_buf_overwrite (by decide) (length_load _ _ _).le,
      load_buf_overwrite (by decide) (LittleEndian.length_bytes _ _).le]

theorem frames_fread {bytes : List UInt8} (stored : (results (state.clock + 1)).outs = [bytes])
    (fits : bytes.length ≤ ReadResp.buf.size)
    (few : (results (state.clock + 1)).count ≤ ReadResp.buf.size) :
    ∃ memory,
      frames (rpmsgHandleFread.run stack results state) =
        [⟨freadId, .rpmsgRpcOk,
          load memory (respField 0 (16 + (results (state.clock + 1)).count))
            (16 + (results (state.clock + 1)).count)⟩] ∧
      ReadResp.ret.nat memory = (results (state.clock + 1)).count ∧
      load memory ReadResp.buf bytes.length = bytes := by
  have fitsOuts : ∀ pair ∈ (results (state.clock + 1)).outs.zip [ReadResp.buf],
      pair.1.length ≤ pair.2.size := by
    simpa [stored] using fits
  rw [rpmsgHandleFread, zeroResp, run_store (by simp [respField]), frames_lprintf,
    frames_performed fitsOuts]
  obtain ⟨memory, isFrame, isRet, isBuf⟩ := frames_freadReply (results (state.clock + 1)) _ few
  refine ⟨memory, isFrame, isRet, ?_⟩
  rw [isBuf]
  show load (storedOuts [ReadResp.buf] (results (state.clock + 1)).outs _) _ _ = _
  rw [stored]
  exact load_overwrite_self _ _ _

end Run

theorem completeItems_mul_le (content : List UInt8) (position size count : ℕ) :
    completeItems content position size count * size ≤
      ((content.drop position).take (size * count)).length :=
  Nat.div_mul_le_self _ _

theorem completeItems_le (content : List UInt8) (position size count : ℕ) :
    completeItems content position size count ≤ size * count :=
  (Nat.div_le_self _ _).trans (List.length_take_le _ _)

section Answer

variable {results : ℕ → OsResult} {state : State} {content : List UInt8} {position size count : ℕ}

theorem deliversItems_iff_mul_le (stack : ℕ → UInt8) (small : size * count ≤ ReadResp.buf.size)
    (reads : (results (state.clock + 1)).ReadsItems content position size count) :
    DeliversItems content position size (completeItems content position size count)
        (frames (rpmsgHandleFread.run stack results state)) ↔
      completeItems content position size count * size ≤
        completeItems content position size count := by
  have multiple := completeItems_mul_le content position size count
  have few := (completeItems_le content position size count).trans small
  have isItems := reads.items
  generalize completeItems content position size count = items at *
  have isCount : (results (state.clock + 1)).count = items := by
    have most : ReadResp.buf.size = 432 := rfl
    rw [OsResult.count, isItems]
    omega
  obtain ⟨memory, isFrame, isRet, isBuf⟩ := @frames_fread stack results state _ reads.bytes
    ((List.length_take_le _ _).trans small) (by rwa [isCount])
  rw [isCount] at isFrame isRet
  rw [isFrame]
  constructor
  · rintro ⟨params, isParams, _, inside, _⟩
    have same : load memory (respField 0 (16 + items)) (16 + items) = params :=
      congrArg Frame.params (List.singleton_inj.1 isParams)
    rw [← same, length_load] at inside
    exact Nat.le_of_add_le_add_left inside
  · intro inside
    refine ⟨_, rfl, ?_, ?_, ?_⟩
    · rw [← isRet]
      exact unsignedCount_asResponse rfl (Nat.le_add_right_of_le (by decide))
    · rw [length_load]
      exact Nat.add_le_add_left inside 16
    · rw [load_asResponse rfl (Nat.add_le_add_left inside 16), ← take_load memory _ multiple, isBuf,
        List.take_take, Nat.min_eq_left (multiple.trans (List.length_take_le _ _))]

end Answer

/-- The answer has the items that were read exactly if they are single bytes, or there are none. -/
theorem deliversItems_iff_single_bytes (stack : ℕ → UInt8) (results : ℕ → OsResult) (state : State)
    (content : List UInt8) (position : ℕ)
    (small : FreadReq.size.nat state.mem * FreadReq.count.nat state.mem ≤ ReadResp.buf.size)
    (reads : (results (state.clock + 1)).ReadsItems content position (FreadReq.size.nat state.mem)
      (FreadReq.count.nat state.mem)) :
    DeliversItems content position (FreadReq.size.nat state.mem)
        (completeItems content position (FreadReq.size.nat state.mem)
          (FreadReq.count.nat state.mem))
        (frames (rpmsgHandleFread.run stack results state)) ↔
      FreadReq.size.nat state.mem ≤ 1 ∨
        completeItems content position (FreadReq.size.nat state.mem)
          (FreadReq.count.nat state.mem) = 0 := by
  rw [deliversItems_iff_mul_le stack small reads]
  generalize completeItems _ _ _ _ = items
  constructor
  · intro inside
    by_contra longer
    obtain ⟨several, some⟩ := not_or.1 longer
    have more : items * 2 ≤ items * FreadReq.size.nat state.mem :=
      Nat.mul_le_mul_left items (by omega)
    omega
  · rintro (one | none)
    · exact (Nat.mul_le_mul_left items one).trans_eq (Nat.mul_one items)
    · rw [none, Nat.zero_mul]

/-- A request for one item of so many bytes. -/
def freadRequest (size : ℕ) : State where
  mem := overwrite
    (overwrite (fun _ => 0) FreadReq.size (LittleEndian.bytes FreadReq.size.size size))
    FreadReq.count (LittleEndian.bytes FreadReq.count.size 1)
  errno := 0
  clock := 0

/-- One item of so many bytes from the beginning of a file "abc". -/
def abcResults (size : ℕ) (_ : ℕ) : OsResult where
  ret := completeItems [0x61, 0x62, 0x63] 0 size 1
  outs := [[0x61, 0x62, 0x63].take (size * 1)]

theorem size_freadRequest {size : ℕ} (small : size < 256 ^ 8) :
    FreadReq.size.nat (freadRequest size).mem = size := by
  rw [freadRequest, Extent.nat_overwrite_of_apart (by decide) (LittleEndian.length_bytes _ _).le,
    Extent.nat_overwrite_bytes]
  exact Nat.mod_eq_of_lt small

theorem count_freadRequest (size : ℕ) : FreadReq.count.nat (freadRequest size).mem = 1 := by
  rw [freadRequest, Extent.nat_overwrite_bytes]
  rfl

theorem deliversItems_single_byte :
    DeliversItems [0x61, 0x62, 0x63] 0 1 1
      (frames (rpmsgHandleFread.run (fun _ => 0) (abcResults 1) (freadRequest 1))) := by
  have delivers := deliversItems_iff_single_bytes (fun _ => 0) (abcResults 1) (freadRequest 1)
    [0x61, 0x62, 0x63] 0
  rw [size_freadRequest (by decide), count_freadRequest] at delivers
  exact (delivers (by decide) ⟨rfl, rfl⟩).2 (.inl le_rfl)

/-- Of an item of two bytes the answer has the first one. -/
theorem not_deliversItems_two_bytes :
    FreadReq.size.nat (freadRequest 2).mem = 2 ∧ FreadReq.count.nat (freadRequest 2).mem = 1 ∧
    (abcResults 2 1).ReadsItems [0x61, 0x62, 0x63] 0 2 1 ∧
    ¬DeliversItems [0x61, 0x62, 0x63] 0 2 1
      (frames (rpmsgHandleFread.run (fun _ => 0) (abcResults 2) (freadRequest 2))) := by
  refine ⟨size_freadRequest (by decide), count_freadRequest 2, ⟨rfl, rfl⟩, fun delivers => ?_⟩
  have inside := (@deliversItems_iff_mul_le (abcResults 2) (freadRequest 2) [0x61, 0x62, 0x63] 0 2 1
    (fun _ => 0) (by decide) ⟨rfl, rfl⟩).1 delivers
  exact absurd inside (by decide)

end Mica.Rpc
