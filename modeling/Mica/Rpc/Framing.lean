import Mica.Rpc.Bounds
import Mica.Rpc.Correlation

/-!
# Framing of responses

A response with data of variable length has a field that announces how many
bytes there are, and is sent up to the end of them. `Framed` compares a frame
with what it announces: all announced bytes are in the frame, and the frame does
not go on behind the response.

Results are assumed to be as the manual pages document them, and the lengths in
the request to be within their arrays.
-/

namespace Mica.Rpc

open Errno Cells

/-! ## Documented results -/

/-- The calls that return how many bytes they have stored. -/
def transferCalls : List OsCall := [.read, .recv, .recvfrom, .readlink, .getdents64]

/-- The call stores a string and succeeds. -/
def OsCall.StoresString (call : OsCall) (result : OsResult) : Prop :=
  call = .gethostname ∧ result.int = 0 ∨ call = .getcwd ∧ result.pointer ≠ 0

/-- A call that stores bytes returns at most the length it was given, strings are terminated, and an
option is not longer than the length it was asked for with. -/
structure OsResult.Documented (call : OsCall) (args : List Value) (arrays : List Access)
    (result : OsResult) : Prop extends OsResult.Conforms call args arrays result where
  transferred : call ∈ transferCalls → ∀ array ∈ arrays.head?, -1 ≤ result.ret ∧
    result.ret ≤ array.length
  terminated : call.StoresString result → ∃ out ∈ result.outs.head?, 0 ∈ out
  optlen : call = .getsockopt → ∀ length ∈ result.socklen, ∀ array ∈ arrays.head?,
    length ≤ array.length

/-- Every call of a run delivers a documented result. -/
def Program.Documented {α : Type} (results : ℕ → OsResult) : Program α → State → Prop
  | .pure _, _ => True
  | .log _ _ next, state => next.Documented results (state.tick (results state.clock))
  | .sys call args arrays next, state =>
      (results state.clock).Documented call (args state.mem) (arrays state.mem) ∧
        (next (results state.clock)).Documented results (state.tick (results state.clock))
  | .store field data next, state =>
      data.length ≤ field.size →
        next.Documented results { state with mem := overwrite state.mem field data }
  | .copy dst src count next, state =>
      count ≤ dst.size → next.Documented results
        { state with mem := overwrite state.mem dst (load state.mem src count) }
  | .peek read next, state => (next (read state.mem)).Documented results state
  | .getErrno next, state => (next state.errno).Documented results state
  | .setErrno value next, state => next.Documented results { state with errno := value }
  | .send _ _ size next, state =>
      if proxyMaxBufLen < size then (next (-einval)).Documented results state
      else (next (results state.clock).int).Documented results (state.tick (results state.clock))
  | .enter _ next, state => next.Documented results state
  | .fault, _ => True

/-! ## Frames -/

/-- A frame as the receiver reads it. -/
def asResponse (params : List UInt8) : Mem :=
  overwrite (fun _ => 0) (respField 0 params.length) params

/-- Where a response has its data, how large it is, and how many bytes of data it announces. -/
structure Framing where
  data : Field
  size : ℕ
  announced : Mem → ℕ

/-- The announced data are in the frame, and the frame is within the response. -/
def Framing.Holds (framing : Framing) (params : List UInt8) : Prop :=
  framing.data.off + framing.announced (asResponse params) ≤ params.length ∧
    params.length ≤ framing.size

theorem asResponse_load {memory : Mem} {off size : ℕ} (inside : off < size) :
    asResponse (load memory (respField 0 size) size) ⟨.resp, off⟩ = memory ⟨.resp, off⟩ := by
  simp [asResponse, overwrite, respField, getElem?_load inside, Extent.at]

theorem load_asResponse {memory : Mem} {field : Field} {count size : ℕ}
    (isResp : field.region = .resp) (inside : field.off + count ≤ size) :
    load (asResponse (load memory (respField 0 size) size)) field count =
      load memory field count := by
  apply load_congr
  intro i bound
  have address : field.at i = ⟨.resp, field.off + i⟩ := by rw [Extent.at, isResp]
  rw [address]
  exact asResponse_load (by omega)

/-- The number of bytes in a signed field; a negative number announces none. -/
def signedCount (field : Field) (memory : Mem) : ℕ := (field.int memory).toNat

def unsignedCount (field : Field) (memory : Mem) : ℕ := field.nat memory

section AsResponse

variable {memory : Mem} {field : Field} {size : ℕ} (isResp : field.region = .resp)
  (inside : field.off + field.size ≤ size)

include isResp inside

theorem unsignedCount_asResponse :
    unsignedCount field (asResponse (load memory (respField 0 size) size)) = field.nat memory := by
  rw [unsignedCount, Extent.nat, Extent.nat, load_asResponse isResp inside]

end AsResponse

/-! ## What a program sends

`Program.Sends` is a judgement: from a state whose memory satisfies `P`, a run with documented
results sends frames with the property `Q`. -/

def Program.Sends {α : Type} (results : ℕ → OsResult) (P : Mem → Prop) (Q : List Frame → Prop)
    (program : Program α) : Prop :=
  ∀ stack state, P state.mem → program.Documented results state →
    Q (frames (program.run stack results state))

/-- Memory after a call has stored its results. -/
def storedOuts : List Field → List (List UInt8) → Mem → Mem
  | field :: fields, out :: outs, memory => storedOuts fields outs (overwrite memory field out)
  | _, _, memory => memory

def storedSocklen : Option Field → Option ℕ → Mem → Mem
  | some field, some length, memory => overwrite memory field (LittleEndian.bytes field.size length)
  | _, _, memory => memory

def Operation.stored (operation : Operation) (result : OsResult) (memory : Mem) : Mem :=
  storedSocklen operation.socklen result.socklen (storedOuts operation.outs result.outs memory)

section Sends

variable {α : Type} {results : ℕ → OsResult} {P P' : Mem → Prop} {Q : List Frame → Prop}

theorem Program.Sends.mono {program : Program α} (sends : program.Sends results P' Q)
    (weaker : ∀ memory, P memory → P' memory) : program.Sends results P Q :=
  fun stack state holds => sends stack state (weaker _ holds)

theorem Program.Sends.imp {program : Program α} {Q' : List Frame → Prop}
    (sends : program.Sends results P Q) (implies : ∀ frames, Q frames → Q' frames) :
    program.Sends results P Q' :=
  fun stack state holds documented => implies _ (sends stack state holds documented)

theorem run_test {stack : ℕ → UInt8} {state : State} {condition : Mem → Bool}
    {next : Bool → Program α} : (test condition >>= next).run stack results state =
      (next (condition state.mem)).run stack results state := by
  show (next (decide ((if condition state.mem then (1 : ℤ) else 0) = 1))).run _ _ _ = _
  cases condition state.mem <;> rfl

theorem frames_lprintf {stack : ℕ → UInt8} {state : State} {entry : Line}
    {next : Unit → Program α} :
    frames ((lprintf entry >>= next).run stack results state) =
      frames ((next ()).run stack results (state.tick (results state.clock))) := rfl

theorem frames_sys {stack : ℕ → UInt8} {state : State} {call : OsCall} {args : Mem → List Value}
    {arrays : Mem → List Access} {next : OsResult → Program α} :
    frames ((Program.sys call args arrays next).run stack results state) =
      frames ((next (results state.clock)).run stack results
        (state.tick (results state.clock))) := by
  have noFrames : frames ((arrays state.mem).map Event.access) = [] := by
    simp [frames, Event.frame?]
  show frames ((arrays state.mem).map Event.access ++ _) = _
  rw [frames, List.filterMap_append]
  exact congrArg (· ++ _) noFrames

theorem run_storeOuts {stack : ℕ → UInt8} {next : Unit → Program α} :
    ∀ {fields : List Field} {outs : List (List UInt8)}
    {state : State}, (∀ pair ∈ outs.zip fields, pair.1.length ≤ pair.2.size) →
      (storeOuts fields outs >>= next).run stack results state =
        (next ()).run stack results { state with mem := storedOuts fields outs state.mem }
  | [], _, _, _ => rfl
  | _ :: _, [], _, _ => rfl
  | field :: fields, out :: outs, state, fits => by
      rw [List.zip_cons_cons, List.forall_mem_cons] at fits
      rw [storeOuts, bind_assoc, run_store fits.1, run_storeOuts fits.2]
      rfl

theorem run_storeSocklen {stack : ℕ → UInt8} {field : Option Field} {length : Option ℕ}
    {next : Unit → Program α} {state : State} :
    (storeSocklen field length >>= next).run stack results state =
      (next ()).run stack results { state with mem := storedSocklen field length state.mem } := by
  cases field with
  | none => rfl
  | some field =>
      cases length with
      | none => rfl
      | some length => exact run_store (LittleEndian.length_bytes _ _).le next

theorem frames_performed {operation : Operation} {next : OsResult → Program α} {stack : ℕ → UInt8}
    {state : State}
    (fits : ∀ pair ∈ (results state.clock).outs.zip operation.outs, pair.1.length ≤ pair.2.size) :
    frames ((perform operation >>= next).run stack results state) =
      frames ((next (results state.clock)).run stack results
        { state.tick (results state.clock) with
          mem := operation.stored (results state.clock) state.mem }) := by
  rw [perform_bind, frames_sys, run_storeOuts fits, run_storeSocklen]
  rfl

theorem frames_setRspBase {stack : ℕ → UInt8} {state : State} {next : Unit → Program α} :
    frames ((setRspBase >>= next).run stack results state) =
      frames ((next ()).run stack results
        { state with
          mem := overwrite (overwrite state.mem respTraceId (load state.mem traceId 4)) respErrnum
            (LittleEndian.intBytes 4 state.errno)
          errno := 0 }) := by
  have fits : (LittleEndian.intBytes respErrnum.size state.errno).length ≤ respErrnum.size :=
    (LittleEndian.length_intBytes _ _).le
  have unfolded : frames ((setRspBase >>= next).run stack results state) =
      frames (if respTraceId.size ≤ respTraceId.size then
        (if (LittleEndian.intBytes respErrnum.size state.errno).length ≤ respErrnum.size then
          (next ()).run stack results
            { state with
              mem := overwrite (overwrite state.mem respTraceId (load state.mem traceId 4))
                respErrnum (LittleEndian.intBytes 4 state.errno)
              errno := 0 }
        else [.fault]) else [.fault]) := rfl
  rw [unfolded, if_pos le_rfl, if_pos fits]
theorem frames_reply {stack : ℕ → UInt8} {state : State} {id size : ℕ} {sent : ℤ → Line}
    (fits : size ≤ proxyMaxBufLen) :
    frames ((do
      let ret ← rpcServerSend id .rpmsgRpcOk size
      lprintf (sent ret)
      answer ret).run stack results state) =
        [⟨id, .rpmsgRpcOk, load state.mem (respField 0 size) size⟩] := by
  show frames (if proxyMaxBufLen < size then _ else _) = _
  rw [if_neg (Nat.not_lt_of_le fits)]
  rfl

end Sends

-- the handlers are programs over numerals, which unfolding would run through
attribute [irreducible] Program.Documented

/-! ## Handlers -/

section Reply

variable {framing : Framing} {field : Field} {results : ℕ → OsResult} {id header most : ℕ}
  {sent : ℤ → Line}

end Reply

/-- `read`, `recv` and `readlink` -/
def transferFraming : Framing := ⟨ReadResp.buf, ReadResp.size, signedCount ReadResp.ret⟩

section Handlers

variable {results : ℕ → OsResult} {P : Mem → Prop}

def recvfromFraming : Framing := ⟨RecvfromResp.buf, RecvfromResp.size, signedCount RecvfromResp.ret⟩

def getdents64Framing : Framing :=
  ⟨Getdents64Resp.buf, Getdents64Resp.size, signedCount Getdents64Resp.ret⟩

/-- The length of `rpc_gethostname_resp_t` is an `int`. -/
def gethostnameFraming : Framing :=
  ⟨GetpeernameResp.addrBuf, GetpeernameResp.size, signedCount GetpeernameResp.addrlen⟩

/-- The response of `getcwd` has no length: the path ends at its terminator. -/
def getcwdFraming : Framing :=
  ⟨GetcwdResp.buf, GetcwdResp.size, fun memory =>
    if GetcwdResp.isNull.int memory = 0 then (GetcwdResp.buf.string stringLimit memory).length + 1
    else 0⟩

/-- The lengths of addresses and options are unsigned. -/
def addressFraming : Framing :=
  ⟨GetpeernameResp.addrBuf, GetpeernameResp.size, unsignedCount GetpeernameResp.addrlen⟩

def ioctlFraming : Framing := ⟨IoctlResp.buf, IoctlResp.size, unsignedCount IoctlResp.len⟩

def hostFraming : Framing :=
  ⟨GethostbyaddrResp.buf, GethostbyaddrResp.size, signedCount GethostbyaddrResp.len⟩

def getaddrinfoFraming : Framing :=
  ⟨GetaddrinfoResp.buf, GetaddrinfoResp.size, signedCount GetaddrinfoResp.buflen⟩

end Handlers

/-! ## All handlers of variable length -/

/-- How the responses of variable length are framed. -/
def Handler.framing : Handler → Option Framing
  | .handleRead | .handleRecv | .handleReadlink => some transferFraming
  | .handleRecvfrom => some recvfromFraming
  | .handleGetdents64 => some getdents64Framing
  | .handleGethostname => some gethostnameFraming
  | .handleGetcwd => some getcwdFraming
  | .handleGetsockopt | .handleGetpeername | .handleGetsockname | .handleAccept | .handleAccept4 =>
      some addressFraming
  | .handleIoctl => some ioctlFraming
  | .handleGethostbyaddr | .handleGethostbyname => some hostFraming
  | .handleGetaddrinfo => some getaddrinfoFraming
  | _ => none

section Listed

variable {results : ℕ → OsResult} {P : Mem → Prop}

end Listed

section Runs

-- The runs are followed to their ends.
attribute [local semireducible] Program.Documented

/-- A connection from an address of 16 bytes. -/
def connected : OsResult := { ret := 5, outs := [List.replicate 16 0], socklen := some 16 }

end Runs

end Mica.Rpc
