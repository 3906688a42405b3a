import Mica.Rpc.Server

/-!
# The streams that the handlers use

Which calls of the C library a handler makes on a stream, with what they deliver. A
handler that is not for streams makes none; the others make one call, on the stream of
the handle in the request, except for those that write through `rpc_write`.
-/

namespace Mica.Rpc

open Errno Cells

/-- The value is a stream other than the null pointer. -/
def Value.isStream : Value → Bool
  | .standardFile | .file _ => true
  | .int _ | .string _ | .array _ | .null => false

/-- A call that is given a stream. -/
structure StreamCall where
  function : OsCall
  file : Value
  result : OsResult

/-- What a call does with the streams among its arguments. -/
def streamCallsOf (function : OsCall) (args : List Value) (result : OsResult) : List StreamCall :=
  (args.filter Value.isStream).map fun file => ⟨function, file, result⟩

/-- The streams that an event hands to a function. -/
def Event.streams : Event → List (OsCall × Value)
  | .call function args => (args.filter Value.isStream).map fun file => (function, file)
  | _ => []

namespace Program

variable {α β : Type} (results : ℕ → OsResult)

/-- The calls on streams of a run, in order. -/
def streamCalls : Program α → State → List StreamCall
  | pure _, _ => []
  | log _ _ next, state => next.streamCalls (state.tick (results state.clock))
  | sys call args _ next, state =>
      streamCallsOf call (args state.mem) (results state.clock) ++
        (next (results state.clock)).streamCalls (state.tick (results state.clock))
  | store field data next, state =>
      if data.length ≤ field.size then
        next.streamCalls { state with mem := overwrite state.mem field data }
      else []
  | copy dst src count next, state =>
      if count ≤ dst.size then
        next.streamCalls { state with mem := overwrite state.mem dst (load state.mem src count) }
      else []
  | peek read next, state => (next (read state.mem)).streamCalls state
  | getErrno next, state => (next state.errno).streamCalls state
  | setErrno value next, state => next.streamCalls { state with errno := value }
  | send _ _ size next, state =>
      if proxyMaxBufLen < size then (next (-einval)).streamCalls state
      else (next (results state.clock).int).streamCalls (state.tick (results state.clock))
  | enter _ next, state => next.streamCalls state
  | fault, _ => []

/-- No call of the program is given a stream. -/
def Streamless : Program α → Prop
  | pure _ => True
  | log _ _ next => next.Streamless
  | sys _ args _ next =>
      (∀ memory, ∀ value ∈ args memory, value.isStream = false) ∧
        ∀ result, (next result).Streamless
  | store _ _ next => next.Streamless
  | copy _ _ _ next => next.Streamless
  | peek _ next => ∀ value, (next value).Streamless
  | getErrno next => ∀ value, (next value).Streamless
  | setErrno _ next => next.Streamless
  | send _ _ _ next => ∀ ret, (next ret).Streamless
  | enter _ next => next.Streamless
  | fault => True

variable {results}

theorem Streamless.streamCalls_eq {program : Program α} (streamless : program.Streamless)
    (state : State) : program.streamCalls results state = [] := by
  induction program generalizing state with
  | pure value => rfl
  | fault => rfl
  | log format args next ih => exact ih streamless _
  | peek read next ih => exact ih _ (streamless _) _
  | getErrno next ih => exact ih _ (streamless _) _
  | setErrno value next ih => exact ih streamless _
  | enter handler next ih => exact ih streamless _
  | sys call args arrays next ih =>
      have none : (args state.mem).filter Value.isStream = [] := by
        rw [List.filter_eq_nil_iff]
        intro value given
        rw [streamless.1 _ value given]
        decide
      rw [streamCalls, streamCallsOf, none, ih _ (streamless.2 _)]
      rfl
  | store field data next ih =>
      rw [streamCalls, ih streamless, ite_self]
  | copy dst src count next ih =>
      rw [streamCalls, ih streamless, ite_self]
  | send id status size next ih =>
      rw [streamCalls, ih _ (streamless _), ih _ (streamless _), ite_self]

theorem Streamless.bind {program : Program α} {rest : α → Program β}
    (streamless : program.Streamless) (streamlessRest : ∀ value, (rest value).Streamless) :
    (program >>= rest).Streamless := by
  induction program with
  | pure value => exact streamlessRest value
  | fault => trivial
  | log format args next ih => exact ih streamless
  | store field data next ih => exact ih streamless
  | copy dst src count next ih => exact ih streamless
  | setErrno value next ih => exact ih streamless
  | enter handler next ih => exact ih streamless
  | peek read next ih => exact fun value => ih value (streamless value)
  | getErrno next ih => exact fun value => ih value (streamless value)
  | send id status size next ih => exact fun ret => ih ret (streamless ret)
  | sys call args arrays next ih =>
      exact ⟨streamless.1, fun result => ih result (streamless.2 result)⟩

theorem streams_run (stack : ℕ → UInt8) (program : Program α) (state : State) :
    (program.run stack results state).flatMap Event.streams =
      (program.streamCalls results state).map fun call => (call.function, call.file) := by
  induction program generalizing state with
  | pure value => rfl
  | fault => rfl
  | log format args next ih => exact ih _
  | peek read next ih => exact ih _ _
  | getErrno next ih => exact ih _ _
  | setErrno value next ih => exact ih _
  | enter handler next ih => exact ih _
  | sys call args arrays next ih =>
      have silent : ((arrays state.mem).map Event.access).flatMap Event.streams = [] := by
        simp [Event.streams]
      rw [run, List.cons_append, List.flatMap_cons, List.flatMap_append, silent, List.nil_append,
        ih, streamCalls, List.map_append, streamCallsOf, List.map_map]
      rfl
  | store field data next ih =>
      rw [run, streamCalls]
      split
      · exact ih _
      · rfl
  | copy dst src count next ih =>
      rw [run, streamCalls]
      split
      · exact ih _
      · rfl
  | send id status size next ih =>
      rw [run, streamCalls]
      split
      · exact ih _ _
      · exact ih _ _

theorem streamCalls_bind_streamless {program : Program α} {rest : α → Program β}
    (streamless : ∀ value, (rest value).Streamless) (state : State) :
    (program >>= rest).streamCalls results state = program.streamCalls results state := by
  induction program generalizing state with
  | pure value => exact (streamless value).streamCalls_eq state
  | fault => rfl
  | log format args next ih => exact ih _
  | sys call args arrays next ih => exact congrArg (_ ++ ·) (ih _ _)
  | peek read next ih => exact ih _ _
  | getErrno next ih => exact ih _ _
  | setErrno value next ih => exact ih _
  | enter handler next ih => exact ih _
  | store field data next ih =>
      show (if _ then (next >>= rest).streamCalls results _ else _) = _
      rw [ih, streamCalls]
  | copy dst src count next ih =>
      show (if _ then (next >>= rest).streamCalls results _ else _) = _
      rw [ih, streamCalls]
  | send id status size next ih =>
      show (if _ then (next _ >>= rest).streamCalls results _
        else (next _ >>= rest).streamCalls results _) = _
      rw [ih, ih, streamCalls]

end Program

/-! ## Rules -/

/-- The call is given no stream. -/
def Operation.Streamless (operation : Operation) : Prop :=
  ∀ arg ∈ operation.args, ∀ memory, (arg memory).isStream = false

section Rules

variable {α : Type}

@[simp]
theorem isStream_int (value : ℤ) : (Value.int value).isStream = false := rfl

@[simp]
theorem isStream_array (field : Field) : (Value.array field).isStream = false := rfl

@[simp]
theorem isStream_null : Value.null.isStream = false := rfl

@[simp]
theorem isStream_intArg (field : Field) (memory : Mem) :
    (intArg field memory).isStream = false := rfl

@[simp]
theorem isStream_natArg (field : Field) (memory : Mem) :
    (natArg field memory).isStream = false := rfl

@[simp]
theorem isStream_stringArg (field : Field) (memory : Mem) :
    (stringArg field memory).isStream = false := rfl

@[simp]
theorem streamless_pure (value : α) : (pure value : Program α).Streamless := trivial

@[simp]
theorem streamless_answer (ret : ℤ) : (answer ret).Streamless := trivial

@[simp]
theorem streamless_fault : (Program.fault : Program α).Streamless := trivial

@[simp]
theorem streamless_ite {condition : Prop} [Decidable condition] {yes no : Program α} :
    (if condition then yes else no).Streamless ↔
      (condition → yes.Streamless) ∧ (¬condition → no.Streamless) := by
  by_cases holds : condition <;> simp [holds]

@[simp]
theorem streamless_lprintf (entry : Line) (next : Unit → Program α) :
    (lprintf entry >>= next).Streamless ↔ (next ()).Streamless := Iff.rfl

@[simp]
theorem streamless_errno (next : ℤ → Program α) :
    (errno >>= next).Streamless ↔ ∀ value, (next value).Streamless := Iff.rfl

@[simp]
theorem streamless_peek (read : Mem → ℤ) (next : ℤ → Program α) :
    (peek read >>= next).Streamless ↔ ∀ value, (next value).Streamless := Iff.rfl

@[simp]
theorem streamless_peekInt (field : Field) (next : ℤ → Program α) :
    (peekInt field >>= next).Streamless ↔ ∀ value, (next value).Streamless := Iff.rfl

@[simp]
theorem streamless_peekNat (field : Field) (next : ℕ → Program α) :
    (peekNat field >>= next).Streamless ↔ ∀ value : ℤ, (next value.toNat).Streamless := Iff.rfl

@[simp]
theorem streamless_test (condition : Mem → Bool) (next : Bool → Program α) :
    (test condition >>= next).Streamless ↔ ∀ value : ℤ, (next (value = 1)).Streamless := Iff.rfl

@[simp]
theorem streamless_store (field : Field) (data : List UInt8) (next : Unit → Program α) :
    (store field data >>= next).Streamless ↔ (next ()).Streamless := Iff.rfl

@[simp]
theorem streamless_storeInt (field : Field) (value : ℤ) (next : Unit → Program α) :
    (storeInt field value >>= next).Streamless ↔ (next ()).Streamless := Iff.rfl

@[simp]
theorem streamless_zeroResp (size : ℕ) (next : Unit → Program α) :
    (zeroResp size >>= next).Streamless ↔ (next ()).Streamless := Iff.rfl

@[simp]
theorem streamless_memcpy (dst src : Field) (count : ℕ) (next : Unit → Program α) :
    (memcpy dst src count >>= next).Streamless ↔ (next ()).Streamless := Iff.rfl

@[simp]
theorem streamless_assign (dst src : Field) (next : Unit → Program α) :
    (assign dst src >>= next).Streamless ↔ (next ()).Streamless := Iff.rfl

@[simp]
theorem streamless_setRspBase (next : Unit → Program α) :
    (setRspBase >>= next).Streamless ↔ (next ()).Streamless := by
  simp only [setRspBase, bind_assoc, streamless_assign, streamless_errno, streamless_storeInt]
  exact ⟨fun rest => rest 0, fun rest _ => rest⟩

@[simp]
theorem streamless_rpcServerSend (id : ℕ) (status : Status) (size : ℕ) (next : ℤ → Program α) :
    (rpcServerSend id status size >>= next).Streamless ↔ ∀ ret, (next ret).Streamless := Iff.rfl

theorem streamless_storeOuts (fields : List Field) (outs : List (List UInt8))
    (next : Unit → Program α) :
    (storeOuts fields outs >>= next).Streamless ↔ (next ()).Streamless := by
  induction fields generalizing outs with
  | nil => rfl
  | cons field fields ih =>
      cases outs with
      | nil => rfl
      | cons out outs => exact ih outs

theorem streamless_storeSocklen (field : Option Field) (length : Option ℕ)
    (next : Unit → Program α) :
    (storeSocklen field length >>= next).Streamless ↔ (next ()).Streamless := by
  cases field <;> cases length <;> rfl

@[simp]
theorem streamless_perform (operation : Operation) (next : OsResult → Program α) :
    (perform operation >>= next).Streamless ↔
      operation.Streamless ∧ ∀ result, (next result).Streamless := by
  rw [perform_bind]
  apply and_congr
  · simp only [List.forall_mem_map, Operation.Streamless]
    exact ⟨fun all arg given memory => all memory arg given,
      fun all memory arg given => all arg given memory⟩
  · refine forall_congr' fun result => ?_
    rw [streamless_storeOuts, streamless_storeSocklen]

@[simp]
theorem operationStreamless_iff (function : OsCall) (args : List (Mem → Value))
    (arrays : List (Mem → Access)) (outs : List Field) (socklen : Option Field) :
    (⟨function, args, arrays, outs, socklen⟩ : Operation).Streamless ↔
      ∀ arg ∈ args, ∀ memory, (arg memory).isStream = false := Iff.rfl

@[simp]
theorem streamless_lerror (ret errnum : ℤ) (next : Unit → Program α) :
    (lerror ret errnum >>= next).Streamless ↔ (next ()).Streamless := by
  by_cases negative : ret < 0
  · simp only [lerror, negative, if_true, bind_assoc, streamless_perform, streamless_lprintf]
    exact ⟨fun rest => rest.2 {}, fun rest => ⟨by simp, fun _ => rest⟩⟩
  · simp only [lerror, negative, if_false, pure_bind]

end Rules

section Families

variable {id : ℕ} {operation : Operation} (streamless : operation.Streamless)
include streamless

theorem streamless_commonHandler (enter : Line) (leave sent : ℤ → Line) :
    (commonHandler id enter operation leave sent).Streamless := by
  simp [commonHandler, streamless]

theorem streamless_directHandler (retField : Field) (size : ℕ) (enter leave : Line)
    (sent : ℤ → Line) :
    (directHandler id retField size enter operation leave sent).Streamless := by
  simp [directHandler, streamless]

theorem streamless_handleHandler (enter : Line) (leave : OsResult → Line) (sent : ℤ → Line) :
    (handleHandler id enter operation leave sent).Streamless := by
  simp [handleHandler, streamless]

theorem streamless_sizeHandler (enter : Line) (leave : ℤ → Line) (reported : OsResult → ℤ)
    (sent : ℤ → Line) : (sizeHandler id enter operation leave reported sent).Streamless := by
  simp [sizeHandler, streamless]

theorem streamless_transferHandler (enter : Line) (leave : ℤ → Line) (reported : OsResult → ℤ)
    (sent : ℤ → Line) : (transferHandler id enter operation leave reported sent).Streamless := by
  simp [transferHandler, streamless]

theorem streamless_statHandler (enter : Line) (leave sent : ℤ → Line) :
    (statHandler id enter operation leave sent).Streamless := by
  simp [statHandler, setStatBuff, streamless]

theorem streamless_hostHandler (enter : Line) (leave sent : ℤ → Line) :
    (hostHandler id enter operation leave sent).Streamless := by
  have lines : ∀ entries, (printLines entries).Streamless := by
    intro entries
    induction entries with
    | nil => trivial
    | cons entry entries ih => exact ih
  simp only [hostHandler, streamless_lprintf, streamless_perform, streamless_errno,
    streamless_lerror, streamless_setRspBase]
  refine ⟨streamless, fun result errnum => ?_⟩
  cases result.host with
  | none => simp [printHost]
  | some host => exact (lines _).bind fun _ => by simp

end Families

theorem streamless_acceptHandler {id : ℕ} {args : List (Mem → Value)}
    (streamless : ∀ arg ∈ args, ∀ memory, (arg memory).isStream = false) (enter : Line)
    (function : OsCall) (addrlen addrBuf : Field) (leave sent : ℤ → Line) :
    (acceptHandler id enter function args addrlen addrBuf leave sent).Streamless := by
  simp only [acceptHandler, acceptReply, streamless_lprintf, streamless_test, streamless_ite,
    streamless_perform, operationStreamless_iff, streamless_errno, streamless_lerror,
    streamless_storeInt, streamless_setRspBase, streamless_peekNat,
    streamless_memcpy, streamless_assign, streamless_rpcServerSend, streamless_answer,
    implies_true, and_true]
  refine fun value => ⟨fun _ => streamless, fun _ arg given memory => ?_⟩
  rcases List.mem_append.1 given with listed | null
  · exact streamless arg listed memory
  · simp_all

/-! ## The handlers that use no stream -/

theorem streamless_ioctl : rpmsgHandleIoctl.Streamless := by
  simp [rpmsgHandleIoctl]

theorem streamless_getdents64 : rpmsgHandleGetdents64.Streamless := by
  simp [rpmsgHandleGetdents64, getdents64From, getdents64Reply]

theorem streamless_getcwd : rpmsgHandleGetcwd.Streamless := by
  simp [rpmsgHandleGetcwd, getcwdAccepted, getcwdReply]

theorem streamless_pipe : rpmsgHandlePipe.Streamless := by
  simp [rpmsgHandlePipe]

theorem streamless_copyVectors (remaining i : ℕ) : (copyVectors remaining i).Streamless := by
  induction remaining generalizing i with
  | zero => trivial
  | succ remaining ih => simp [copyVectors, ih]

theorem streamless_writev : rpmsgHandleWritev.Streamless := by
  simp only [rpmsgHandleWritev, writeVectors, streamless_lprintf, streamless_peekInt,
    streamless_ite]
  refine fun iovcnt => ⟨fun _ => trivial, fun _ => (streamless_copyVectors _ _).bind fun _ => ?_⟩
  simp [writevOperation, writevReply]

theorem streamless_tmpfile : rpmsgHandleTmpfile.Streamless := by
  simp [rpmsgHandleTmpfile]

theorem streamless_fdopen : rpmsgHandleFdopen.Streamless := by
  simp [rpmsgHandleFdopen]

theorem streamless_recvfrom : rpmsgHandleRecvfrom.Streamless := by
  simp [rpmsgHandleRecvfrom, recvfromReply]

theorem streamless_poll : rpmsgHandlePoll.Streamless := by
  simp [rpmsgHandlePoll]

theorem streamless_select : rpmsgHandleSelect.Streamless := by
  have optional : ∀ present field memory, (optionalArg present field memory).isStream = false := by
    intro present field memory
    rw [optionalArg]
    split <;> rfl
  simp [rpmsgHandleSelect, optional]

theorem streamless_gethostname : rpmsgHandleGethostname.Streamless := by
  simp only [rpmsgHandleGethostname, gethostnameCall, gethostnameReply, streamless_lprintf,
    streamless_test, streamless_ite, streamless_storeInt, streamless_perform,
    operationStreamless_iff,
    streamless_errno, streamless_lerror, streamless_peek, streamless_setRspBase,
    streamless_rpcServerSend, streamless_answer, List.not_mem_nil, false_implies, implies_true,
    and_self]

theorem streamless_nameHandler {id : ℕ} (enter : Line) (function : OsCall)
    (leave sent : ℤ → Line) : (nameHandler id enter function leave sent).Streamless := by
  simp [nameHandler]

theorem streamless_getsockopt : rpmsgHandleGetsockopt.Streamless := by
  simp [rpmsgHandleGetsockopt]

theorem streamless_getaddrinfo : rpmsgHandleGetaddrinfo.Streamless := by
  have response : ∀ ret size infos, (getaddrinfoResponse ret size infos).Streamless := by
    intro ret size infos
    simp [getaddrinfoResponse]
  have pointer : ∀ (field : Option Field) (memory : Mem),
      (field.elim Value.null fun field => stringArg field memory).isStream = false := by
    intro field memory
    cases field <;> rfl
  have call : getaddrinfoCall.Streamless := by
    simp [getaddrinfoCall, getaddrinfoReply, response, pointer]
  simp [rpmsgHandleGetaddrinfo, getaddrinfoAccepted, response, call]

theorem streamless_ifnameindex : rpmsgHandleIfnameindex.Streamless := by
  have stored : ∀ interfaces i, (storeInterfaces interfaces i).Streamless := by
    intro interfaces
    induction interfaces with
    | nil => exact fun _ => trivial
    | cons interface interfaces ih =>
        intro i
        rw [storeInterfaces, streamless_ite]
        exact ⟨fun _ => trivial, fun _ => ih (i + 1)⟩
  simp only [rpmsgHandleIfnameindex, streamless_lprintf, streamless_perform]
  refine ⟨by simp, fun result => (stored _ _).bind fun _ => ?_⟩
  simp

theorem streamless_gaistrerror : rpmsgHandleGaistrerror.Streamless := by
  simp only [rpmsgHandleGaistrerror, streamless_lprintf, streamless_perform]
  refine ⟨by simp, fun result => ?_⟩
  cases result.text <;> simp [gaistrerrorResponse]

/-! ## The handlers that use a stream -/

/-- The stream of the handle in the request is the only one that the call is given. -/
def Operation.On (operation : Operation) (fhandle : Field) : Prop :=
  fhandle.region = .req ∧ ∀ memory,
    (operation.args.map (· memory)).filter Value.isStream =
      [fileArg fhandle memory].filter Value.isStream

section Once

variable {results : ℕ → OsResult} {operation : Operation} {fhandle : Field}
  {next : OsResult → Program ℤ} (on : operation.On fhandle)
  (streamless : ∀ result, (next result).Streamless) (state : State)
include on streamless

theorem streamCalls_perform :
    (perform operation >>= next).streamCalls results state =
      streamCallsOf operation.function [fileArg fhandle state.mem] (results state.clock) := by
  rw [perform_bind, Program.streamCalls, Program.Streamless.streamCalls_eq, List.append_nil,
    streamCallsOf, on.2, streamCallsOf]
  rw [streamless_storeOuts, streamless_storeSocklen]
  exact streamless _

theorem streamCalls_logged (enter : Line) :
    (lprintf enter >>= fun _ => perform operation >>= next).streamCalls results state =
      streamCallsOf operation.function [fileArg fhandle state.mem] (results (state.clock + 1)) :=
  streamCalls_perform on streamless _

theorem streamCalls_cleared (size : ℕ) (enter : Line) :
    (zeroResp size >>= fun _ => lprintf enter >>= fun _ => perform operation >>= next).streamCalls
        results state =
      streamCallsOf operation.function [fileArg fhandle state.mem] (results (state.clock + 1)) := by
  have fits : (List.replicate size (0 : UInt8)).length ≤ (respField 0 size).size :=
    List.length_replicate.le
  have apart : fhandle.Apart (respField 0 size) := by
    refine Or.inl ?_
    rw [on.1]
    exact nofun
  have kept : fileArg fhandle (overwrite state.mem (respField 0 size) (List.replicate size 0)) =
      fileArg fhandle state.mem := by
    rw [fileArg, Extent.nat_overwrite_of_apart apart fits, fileArg]
  rw [← kept]
  exact (if_pos fits).trans (streamCalls_logged on streamless _ enter)

theorem streamCalls_described (enter : OsResult → Line) :
    (perform { function := .streamDescriptor } >>= fun streams =>
      lprintf (enter streams) >>= fun _ => perform operation >>= next).streamCalls results state =
      streamCallsOf operation.function [fileArg fhandle state.mem] (results (state.clock + 2)) :=
  streamCalls_perform on streamless _

end Once

/-- Where a handler gets its stream from: there is none, the handle is resolved by `handle2file`,
the handle is used as it is, the handler writes through `rpc_write`, or it does so if the handle is
a standard one and otherwise uses the handle as it is. `time` is how many calls the handler has
made before. -/
inductive StreamSource where
  | nothing
  | handle (function : OsCall) (fhandle : Field) (time : ℕ)
  | rawHandle (function : OsCall) (fhandle : Field) (time : ℕ)
  | rpcWrite
  | rpcWriteOr (function : OsCall) (fhandle : Field)

/-- The calls of `rpc_write`. -/
def rpcWriteCalls (results : ℕ → OsResult) (state : State) : List StreamCall :=
  [⟨.fwrite, .standardFile, results state.clock⟩,
    ⟨.fflush, .standardFile, results (state.clock + 1)⟩]

def StreamSource.calls (results : ℕ → OsResult) (state : State) : StreamSource → List StreamCall
  | nothing => []
  | handle function fhandle time =>
      streamCallsOf function [fileArg fhandle state.mem] (results (state.clock + time))
  | rawHandle function fhandle time =>
      [⟨function, .file (fhandle.nat state.mem), results (state.clock + time)⟩]
  | rpcWrite => rpcWriteCalls results state
  | rpcWriteOr function fhandle =>
      if isPtyFd (fhandle.nat state.mem) then rpcWriteCalls results state
      else [⟨function, .file (fhandle.nat state.mem), results state.clock⟩]

def Handler.source : Handler → StreamSource
  | .handleFclose => .handle .fclose FcommonReq.fhandle 1
  | .handleFread => .handle .fread FreadReq.fhandle 1
  | .handleFwrite => .handle .fwrite FwriteReq.fhandle 1
  | .handleFreopen => .handle .freopen FreopenReq.fhandle 1
  | .handleFputs => .handle .fputs FputsReq.fhandle 1
  | .handleFgets => .handle .fgets FgetsReq.fhandle 1
  | .handleFeof => .handle .feof FcommonReq.fhandle 1
  | .handleFprintf => .rpcWriteOr .fwrite FprintfReq.fhandle
  | .handleGetc => .handle .getc FcommonReq.fhandle 1
  | .handleFerror => .handle .ferror FcommonReq.fhandle 1
  | .handleGetcUnlocked => .handle .getcUnlocked FcommonReq.fhandle 1
  | .handlePclose => .handle .pclose FcommonReq.fhandle 1
  | .handleClearerr => .handle .clearerr ClearerrReq.fhandle 1
  | .handleUngetc => .handle .ungetc UngetcReq.fhandle 1
  | .handleFseeko => .handle .fseeko FseekoReq.fhandle 1
  | .handleFtello => .handle .ftello FcommonReq.fhandle 1
  | .handleFseek => .handle .fseek FseekoReq.fhandle 1
  | .handleFtell => .handle .ftello FcommonReq.fhandle 1
  | .handlePrintf => .rpcWrite
  | .handleFflush => .handle .fflush FcommonReq.fhandle 2
  | .handleGetwc => .handle .getwc FcommonReq.fhandle 2
  | .handlePutwc => .handle .putwc UngetcReq.fhandle 2
  | .handlePutc => .handle .putc UngetcReq.fhandle 2
  | .handleUngetwc => .handle .ungetwc UngetcReq.fhandle 2
  | .handleFileno => .rawHandle .fileno FcommonReq.fhandle 1
  | .handleSetvbuf => .rawHandle .setvbuf FcommonReq.fhandle 1
  | .handleFscanfx => .handle .fscanf FscanfxReq.fhandle 1
  | _ => .nothing

section Bodies

variable {results : ℕ → OsResult} {id : ℕ} {operation : Operation} {fhandle : Field}
  (on : operation.On fhandle) (state : State)
include on

theorem streamCalls_streamHandler (enter : Line) (leave sent : ℤ → Line) :
    (streamHandler id enter operation leave sent).streamCalls results state =
      streamCallsOf operation.function [fileArg fhandle state.mem] (results (state.clock + 1)) :=
  streamCalls_cleared on (fun _ => by simp) state _ _

theorem streamCalls_directHandler (retField : Field) (size : ℕ) (enter leave : Line)
    (sent : ℤ → Line) :
    (directHandler id retField size enter operation leave sent).streamCalls results state =
      streamCallsOf operation.function [fileArg fhandle state.mem] (results (state.clock + 1)) :=
  streamCalls_cleared on (fun _ => by simp) state _ _

theorem streamCalls_handleHandler (enter : Line) (leave : OsResult → Line) (sent : ℤ → Line) :
    (handleHandler id enter operation leave sent).streamCalls results state =
      streamCallsOf operation.function [fileArg fhandle state.mem] (results (state.clock + 1)) :=
  streamCalls_cleared on (fun _ => by simp) state _ _

theorem streamCalls_wideHandler (enter : (Value → ℤ) → Line) (leave sent : ℤ → Line) :
    (wideHandler id enter operation leave sent).streamCalls results state =
      streamCallsOf operation.function [fileArg fhandle state.mem] (results (state.clock + 2)) :=
  streamCalls_described on (fun _ => by simp) state _

theorem streamCalls_describedHandler (enter : OsResult → Line) (leave sent : ℤ → Line) :
    (perform { function := .streamDescriptor } >>= fun streams =>
      commonHandler id (enter streams) operation leave sent).streamCalls results state =
      streamCallsOf operation.function [fileArg fhandle state.mem] (results (state.clock + 2)) :=
  streamCalls_described on (fun _ => by simp) state enter

end Bodies

section Handlers

variable {results : ℕ → OsResult} (state : State)

theorem streamCalls_fclose : rpmsgHandleFclose.streamCalls results state =
    StreamSource.calls results state (.handle .fclose FcommonReq.fhandle 1) := by
  rw [rpmsgHandleFclose]
  apply streamCalls_cleared ⟨rfl, by simp [List.filter_cons]⟩
  simp

theorem streamCalls_fread : rpmsgHandleFread.streamCalls results state =
    StreamSource.calls results state (.handle .fread FreadReq.fhandle 1) := by
  rw [rpmsgHandleFread]
  apply streamCalls_cleared ⟨rfl, by simp [List.filter_cons]⟩
  simp

theorem streamCalls_fwrite : rpmsgHandleFwrite.streamCalls results state =
    StreamSource.calls results state (.handle .fwrite FwriteReq.fhandle 1) := by
  rw [rpmsgHandleFwrite]
  apply streamCalls_cleared ⟨rfl, by simp [List.filter_cons]⟩
  simp

theorem streamCalls_fgets : rpmsgHandleFgets.streamCalls results state =
    StreamSource.calls results state (.handle .fgets FgetsReq.fhandle 1) := by
  rw [rpmsgHandleFgets]
  apply streamCalls_cleared ⟨rfl, by simp [List.filter_cons]⟩
  simp

theorem streamCalls_fscanfx : rpmsgHandleFscanfx.streamCalls results state =
    StreamSource.calls results state (.handle .fscanf FscanfxReq.fhandle 1) := by
  rw [rpmsgHandleFscanfx]
  apply streamCalls_cleared ⟨rfl, by simp [List.filter_cons]⟩
  simp

theorem streamCalls_clearerr : rpmsgHandleClearerr.streamCalls results state =
    StreamSource.calls results state (.handle .clearerr ClearerrReq.fhandle 1) := by
  rw [rpmsgHandleClearerr]
  apply streamCalls_logged ⟨rfl, by simp [List.filter_cons]⟩
  simp

theorem streamCalls_ungetwc : rpmsgHandleUngetwc.streamCalls results state =
    StreamSource.calls results state (.handle .ungetwc UngetcReq.fhandle 2) := by
  rw [rpmsgHandleUngetwc]
  apply streamCalls_described ⟨rfl, by simp [List.filter_cons]⟩
  simp

theorem streamCalls_rpcWrite {array : Field} {length : Mem → ℕ} {next : ℤ → Program ℤ}
    (streamless : ∀ ret, (next ret).Streamless) :
    (rpcWrite array length >>= next).streamCalls results state = rpcWriteCalls results state := by
  have rest : ∀ (result : OsResult) (state : State), ((perform
      { function := .fflush, args := [fun _ => .standardFile] } >>= fun _ =>
        pure (if result.int < 0 then result.int else 0) : Program ℤ) >>= next).streamCalls results
          state = [⟨.fflush, .standardFile, results state.clock⟩] := by
    intro result state
    rw [bind_assoc, perform_bind, Program.streamCalls, Program.Streamless.streamCalls_eq]
    · rfl
    · exact streamless _
  rw [rpcWrite, bind_assoc, perform_bind, Program.streamCalls]
  exact congrArg (_ ++ ·) (rest _ _)

theorem streamCalls_printf : rpmsgHandlePrintf.streamCalls results state =
    StreamSource.calls results state .rpcWrite :=
  streamCalls_rpcWrite state fun _ => by simp

theorem streamCalls_test (condition : Mem → Bool) (next : Bool → Program ℤ) :
    (test condition >>= next).streamCalls results state =
      (next (condition state.mem)).streamCalls results state := by
  show (next (decide ((if condition state.mem then (1 : ℤ) else 0) = 1))).streamCalls results state
    = _
  cases condition state.mem <;> rfl

theorem streamCalls_fprintf : rpmsgHandleFprintf.streamCalls results state =
    StreamSource.calls results state (.rpcWriteOr .fwrite FprintfReq.fhandle) := by
  rw [rpmsgHandleFprintf, streamCalls_test, StreamSource.calls]
  split
  · apply streamCalls_rpcWrite
    simp
  · rw [perform_bind, Program.streamCalls, Program.Streamless.streamCalls_eq]
    · rfl
    · rw [streamless_storeOuts, streamless_storeSocklen]
      simp

theorem streamCalls_rawHandler {id : ℕ} {operation : Operation} {fhandle : Field}
    (raw : operation.args = [rawFileArg fhandle]) (enter : Line) (leave sent : ℤ → Line) :
    (commonHandler id enter operation leave sent).streamCalls results state =
      StreamSource.calls results state (.rawHandle operation.function fhandle 1) := by
  rw [commonHandler]
  show (perform operation >>= _).streamCalls results _ = _
  rw [perform_bind, Program.streamCalls, Program.Streamless.streamCalls_eq, raw]
  · rfl
  · rw [streamless_storeOuts, streamless_storeSocklen]
    simp

theorem Handler.streamCalls_body (handler : Handler) :
    handler.body.streamCalls results state = handler.source.calls results state := by
  unfold Handler.body
  cases handler with
  | handleOpen => exact (streamless_commonHandler (by simp) _ _ _).streamCalls_eq state
  | handleRead => exact (streamless_transferHandler (by simp) _ _ _ _).streamCalls_eq state
  | handleWrite => exact (streamless_sizeHandler (by simp) _ _ _ _).streamCalls_eq state
  | handleClose => exact (streamless_commonHandler (by simp) _ _ _).streamCalls_eq state
  | handleLseek => exact (streamless_sizeHandler (by simp) _ _ _ _).streamCalls_eq state
  | handleFcntl => exact (streamless_commonHandler (by simp) _ _ _).streamCalls_eq state
  | handleIoctl => exact streamless_ioctl.streamCalls_eq state
  | handleUnlink => exact (streamless_commonHandler (by simp) _ _ _).streamCalls_eq state
  | handleGetdents64 => exact streamless_getdents64.streamCalls_eq state
  | handleFreeaddrinfo => rfl
  | handleGetaddrinfo => exact streamless_getaddrinfo.streamCalls_eq state
  | handleGethostbyaddr => exact (streamless_hostHandler (by simp) _ _ _).streamCalls_eq state
  | handleGethostbyname => exact (streamless_hostHandler (by simp) _ _ _).streamCalls_eq state
  | handlePoll => exact streamless_poll.streamCalls_eq state
  | handleGetpeername => exact (streamless_nameHandler _ _ _ _).streamCalls_eq state
  | handleGethostname => exact streamless_gethostname.streamCalls_eq state
  | handleGetsockname => exact (streamless_nameHandler _ _ _ _).streamCalls_eq state
  | handleGetsockopt => exact streamless_getsockopt.streamCalls_eq state
  | handleSelect => exact streamless_select.streamCalls_eq state
  | handleAccept => exact (streamless_acceptHandler (by simp) _ _ _ _ _ _).streamCalls_eq state
  | handleBind => exact (streamless_commonHandler (by simp) _ _ _).streamCalls_eq state
  | handleConnect => exact (streamless_commonHandler (by simp) _ _ _).streamCalls_eq state
  | handleListen => exact (streamless_commonHandler (by simp) _ _ _).streamCalls_eq state
  | handleRecv => exact (streamless_transferHandler (by simp) _ _ _ _).streamCalls_eq state
  | handleRecvfrom => exact streamless_recvfrom.streamCalls_eq state
  | handleSend => exact (streamless_sizeHandler (by simp) _ _ _ _).streamCalls_eq state
  | handleSendto => exact (streamless_sizeHandler (by simp) _ _ _ _).streamCalls_eq state
  | handleSetsockopt => exact (streamless_commonHandler (by simp) _ _ _).streamCalls_eq state
  | handleShutdown => exact (streamless_commonHandler (by simp) _ _ _).streamCalls_eq state
  | handleSocket => exact (streamless_commonHandler (by simp) _ _ _).streamCalls_eq state
  | handleFopen => exact (streamless_handleHandler (by simp) _ _ _).streamCalls_eq state
  | handleFclose => exact streamCalls_fclose state
  | handleFread => exact streamCalls_fread state
  | handleFwrite => exact streamCalls_fwrite state
  | handleFreopen => exact streamCalls_handleHandler ⟨rfl, by simp [List.filter_cons]⟩ state _ _ _
  | handleFputs => exact streamCalls_streamHandler ⟨rfl, by simp [List.filter_cons]⟩ state _ _ _
  | handleFgets => exact streamCalls_fgets state
  | handleFeof => exact streamCalls_streamHandler ⟨rfl, by simp [List.filter_cons]⟩ state _ _ _
  | handleFprintf => exact streamCalls_fprintf state
  | handleGetc => exact streamCalls_streamHandler ⟨rfl, by simp [List.filter_cons]⟩ state _ _ _
  | handleFerror => exact streamCalls_streamHandler ⟨rfl, by simp [List.filter_cons]⟩ state _ _ _
  | handleGetcUnlocked =>
      exact streamCalls_streamHandler ⟨rfl, by simp [List.filter_cons]⟩ state _ _ _
  | handlePclose => exact streamCalls_streamHandler ⟨rfl, by simp [List.filter_cons]⟩ state _ _ _
  | handleTmpfile => exact streamless_tmpfile.streamCalls_eq state
  | handleClearerr => exact streamCalls_clearerr state
  | handlePopen => exact (streamless_handleHandler (by simp) _ _ _).streamCalls_eq state
  | handleUngetc =>
      exact streamCalls_directHandler ⟨rfl, by simp [List.filter_cons]⟩ state _ _ _ _ _
  | handleFseeko =>
      exact streamCalls_directHandler ⟨rfl, by simp [List.filter_cons]⟩ state _ _ _ _ _
  | handleFtello =>
      exact streamCalls_directHandler ⟨rfl, by simp [List.filter_cons]⟩ state _ _ _ _ _
  | handleFseek => exact streamCalls_directHandler ⟨rfl, by simp [List.filter_cons]⟩ state _ _ _ _ _
  | handleFtell => exact streamCalls_directHandler ⟨rfl, by simp [List.filter_cons]⟩ state _ _ _ _ _
  | handleRename => exact (streamless_directHandler (by simp) _ _ _ _ _).streamCalls_eq state
  | handleRemove => exact (streamless_directHandler (by simp) _ _ _ _ _).streamCalls_eq state
  | handleMkstemp => exact (streamless_directHandler (by simp) _ _ _ _ _).streamCalls_eq state
  | handleStat => exact (streamless_statHandler (by simp) _ _ _).streamCalls_eq state
  | handleLstat => exact (streamless_statHandler (by simp) _ _ _).streamCalls_eq state
  | handleGetcwd => exact streamless_getcwd.streamCalls_eq state
  | handlePrintf => exact streamCalls_printf state
  | handleFflush => exact streamCalls_describedHandler ⟨rfl, by simp [List.filter_cons]⟩ state _ _ _
  | handleGetwc => exact streamCalls_wideHandler ⟨rfl, by simp [List.filter_cons]⟩ state _ _ _
  | handlePutwc => exact streamCalls_wideHandler ⟨rfl, by simp [List.filter_cons]⟩ state _ _ _
  | handlePutc => exact streamCalls_describedHandler ⟨rfl, by simp [List.filter_cons]⟩ state _ _ _
  | handleUngetwc => exact streamCalls_ungetwc state
  | handleFstat => exact (streamless_statHandler (by simp) _ _ _).streamCalls_eq state
  | handleFdopen => exact streamless_fdopen.streamCalls_eq state
  | handleFileno => exact streamCalls_rawHandler state rfl _ _ _
  | handleSetvbuf => exact streamCalls_rawHandler state rfl _ _ _
  | handleSystem => exact (streamless_commonHandler (by simp) _ _ _).streamCalls_eq state
  | handleReadlink => exact (streamless_transferHandler (by simp) _ _ _ _).streamCalls_eq state
  | handleAccess => exact (streamless_commonHandler (by simp) _ _ _).streamCalls_eq state
  | handleDup2 => exact (streamless_commonHandler (by simp) _ _ _).streamCalls_eq state
  | handleMkfifo => exact (streamless_commonHandler (by simp) _ _ _).streamCalls_eq state
  | handleChmod => exact (streamless_commonHandler (by simp) _ _ _).streamCalls_eq state
  | handleChdir => exact (streamless_commonHandler (by simp) _ _ _).streamCalls_eq state
  | handleMkdir => exact (streamless_commonHandler (by simp) _ _ _).streamCalls_eq state
  | handleRmdir => exact (streamless_commonHandler (by simp) _ _ _).streamCalls_eq state
  | handlePipe => exact streamless_pipe.streamCalls_eq state
  | handleFscanfx => exact streamCalls_fscanfx state
  | handleIfnameindex => exact streamless_ifnameindex.streamCalls_eq state
  | handlePutchar => exact (streamless_commonHandler (by simp) _ _ _).streamCalls_eq state
  | handleGaistrerror => exact streamless_gaistrerror.streamCalls_eq state
  | handleAccept4 => exact (streamless_acceptHandler (by simp) _ _ _ _ _ _).streamCalls_eq state
  | handleWritev => exact streamless_writev.streamCalls_eq state

end Handlers

end Mica.Rpc
