import Mica.Rpc.Errnum
import Mica.Rpc.StreamCalls

/-!
# The life of the standard stream

`rpmsg_rpc_service_init` opens one stream, `fp`, for the whole life of the service. The
standard handles of every client stand for it, in `fclose`, `pclose` and `freopen` as well,
and its address is a handle like any other. Nothing opens it again.
-/

namespace Mica.Rpc

open Errno

/-! ## Starting the service -/

def stdoutFileno : ℤ := 1

/-- `LOG_PATH` -/
def logPath : String := "/tmp/rpc_accesslog"

/-- `LOG_RPC` -/
def logRpc : String := "/tmp/rpc_log.txt"

/-- `O_CREAT | O_RDWR | O_APPEND` -/
def logFlags : ℤ := 0o100 + 0o2 + 0o2000

/-- The global variables `lfd` and `fp`; a null pointer is 0. -/
structure LogFiles where
  lfd : ℤ
  fp : ℕ

def textArg (text : String) (_ : Mem) : Value := .string text.toUTF8.toList

/-- `rpmsg_init_rpc_server`; neither the instance nor the table is a null pointer. -/
def rpmsgInitRpcServer (len : ℕ) : ℤ := if len = 0 then -1 else 0

/-- What the service returns and what it assigns to its global variables. `table` is the address of
the service table, which is only logged. -/
def rpmsgRpcServiceInit (table : ℤ) : Program (ℤ × LogFiles) := do
  let opened ← perform
    { function := .openFile
      args := [textArg logPath, fun _ => .int logFlags, fun _ => .int 0o600] }
  let lfd := if opened.int < 0 then stdoutFileno else opened.int
  let stream ← perform { function := .fopen, args := [textArg logRpc, textArg "a+"] }
  let fp := stream.pointer.toNat
  if fp = 0 then do
    if lfd ≠ stdoutFileno then do
      lprintf (line "Failed to open or create file" [])
      let _ ← perform { function := .close, args := [fun _ => .int lfd] }
    else pure ()
    pure (-enomem, ⟨lfd, fp⟩)
  else do
    lprintf (line "number of services: %d, %p\n" [.int serviceTable.length, .int table])
    pure (rpmsgInitRpcServer serviceTable.length, ⟨lfd, fp⟩)

/-- The global variables after `open` and `fopen` have delivered their results. -/
def LogFiles.assigned (opened stream : OsResult) : LogFiles :=
  ⟨if opened.int < 0 then stdoutFileno else opened.int, stream.pointer.toNat⟩

theorem final_rpmsgRpcServiceInit (results : ℕ → OsResult) (table : ℤ) (start : State) :
    ∃ last, (rpmsgRpcServiceInit table).final results start =
      some ((if (results (start.clock + 1)).pointer.toNat = 0 then -enomem else 0,
        .assigned (results start.clock) (results (start.clock + 1))), last) := by
  rw [LogFiles.assigned]
  change ∃ last, (if (results (start.clock + 1)).pointer.toNat = 0 then _ else _ :
    Program (ℤ × LogFiles)).final results _ = _
  generalize (if (results start.clock).int < 0 then _ else _ : ℤ) = lfd
  split_ifs with null isOpen
  -- the descriptor is closed, unless it is the standard output
  · exact ⟨_, rfl⟩
  · exact ⟨_, rfl⟩
  · exact ⟨_, rfl⟩

theorem fp_ne_zero_of_started {results : ℕ → OsResult} {table : ℤ} {start state : State}
    {files : LogFiles}
    (started : (rpmsgRpcServiceInit table).final results start = some ((0, files), state)) :
    files.fp ≠ 0 := by
  rcases final_rpmsgRpcServiceInit results table start with ⟨last, ends⟩
  rw [ends, Option.some.injEq, Prod.mk.injEq, Prod.mk.injEq] at started
  rcases started with ⟨⟨returned, rfl⟩, -⟩
  intro null
  have failed : -enomem = 0 := (if_pos null).symm.trans returned
  exact absurd failed (by decide)

/-! ## Uses and ends of the stream -/

/-- The handle stands for the stream at the address `fp`. -/
def StandsFor (fp fhandle : ℕ) : Prop := isPtyFd fhandle = true ∨ fhandle = fp

/-- The call closes the stream that it is given; `freopen` does so if it cannot open the file. -/
def Ends (function : OsCall) (result : OsResult) : Prop :=
  function = .fclose ∨ function = .pclose ∨ function = .freopen ∧ result.pointer = 0

/-- The call closes the stream at the address `fp`. -/
def StreamCall.Closes (fp : ℕ) (call : StreamCall) : Prop :=
  Ends call.function call.result ∧ (call.file = .standardFile ∨ call.file = .file fp)

/-- Whenever a call is given the standard stream, no call before it has closed the stream. -/
def StandardFileOpen (fp : ℕ) (calls : List StreamCall) : Prop :=
  calls.Pairwise fun earlier later => later.file = .standardFile → ¬earlier.Closes fp

theorem handle2file_eq_standardFile_iff {fhandle : ℕ} :
    handle2file fhandle = .standardFile ↔ isPtyFd fhandle = true := by
  rw [handle2file]
  split_ifs with isPty null
  · exact ⟨fun _ => isPty, fun _ => rfl⟩
  · exact ⟨nofun, fun pty => absurd pty isPty⟩
  · exact ⟨nofun, fun pty => absurd pty isPty⟩

theorem standsFor_iff {fp fhandle : ℕ} (notNull : fp ≠ 0) :
    StandsFor fp fhandle ↔
      handle2file fhandle = .standardFile ∨ handle2file fhandle = .file fp := by
  rw [StandsFor, handle2file_eq_standardFile_iff]
  apply or_congr_right'
  intro notPty
  rw [handle2file, if_neg notPty]
  split_ifs with null
  · exact ⟨fun same => absurd (same.symm.trans null) notNull, nofun⟩
  · exact Value.file.injEq _ _ ▸ Iff.rfl

namespace StreamSource

/-- A standard handle is resolved, or `rpc_write` is called. -/
def Uses (memory : Mem) : StreamSource → Prop
  | handle _ fhandle _ | rpcWriteOr _ fhandle => isPtyFd (fhandle.nat memory) = true
  | rpcWrite => True
  | nothing | rawHandle _ _ _ => False

/-- A call that closes a stream is made on a handle that stands for `fp`. -/
def Closes (results : ℕ → OsResult) (fp : ℕ) (state : State) : StreamSource → Prop
  | handle function fhandle time =>
      Ends function (results (state.clock + time)) ∧ StandsFor fp (fhandle.nat state.mem)
  | rawHandle function fhandle time =>
      Ends function (results (state.clock + time)) ∧ fhandle.nat state.mem = fp
  | rpcWriteOr function fhandle =>
      Ends function (results state.clock) ∧ isPtyFd (fhandle.nat state.mem) = false ∧
        fhandle.nat state.mem = fp
  | nothing | rpcWrite => False

variable {results : ℕ → OsResult} {state : State}

theorem mem_streamCallsOf {call : StreamCall} {function : OsCall} {fhandle : ℕ}
    {result : OsResult} :
    call ∈ streamCallsOf function [handle2file fhandle] result ↔
      (handle2file fhandle).isStream = true ∧ call = ⟨function, handle2file fhandle, result⟩ := by
  rw [streamCallsOf, List.mem_map]
  constructor
  · rintro ⟨file, listed, rfl⟩
    rcases List.mem_filter.1 listed with ⟨given, isStream⟩
    rw [← List.mem_singleton.1 given]
    exact ⟨isStream, rfl⟩
  · rintro ⟨isStream, rfl⟩
    exact ⟨_, List.mem_filter.2 ⟨List.mem_singleton_self _, isStream⟩, rfl⟩

theorem exists_uses_iff (source : StreamSource) :
    (∃ call ∈ source.calls results state, call.file = .standardFile) ↔ source.Uses state.mem := by
  cases source with
  | nothing => simp [calls, Uses]
  | rawHandle function fhandle time => simp [calls, Uses]
  | rpcWrite => simp [calls, Uses, rpcWriteCalls]
  | rpcWriteOr function fhandle =>
      rw [calls, Uses]
      split_ifs with isPty
      · simp [isPty, rpcWriteCalls]
      · simp [isPty]
  | handle function fhandle time =>
      rw [calls, Uses, fileArg, ← handle2file_eq_standardFile_iff]
      simp only [mem_streamCallsOf]
      constructor
      · rintro ⟨call, ⟨_, rfl⟩, standard⟩
        exact standard
      · intro standard
        refine ⟨_, ⟨?_, rfl⟩, standard⟩
        rw [standard]
        rfl

theorem exists_closes_iff {fp : ℕ} (notNull : fp ≠ 0) (source : StreamSource) :
    (∃ call ∈ source.calls results state, call.Closes fp) ↔ source.Closes results fp state := by
  cases source with
  | nothing => simp [calls, Closes]
  | rawHandle function fhandle time => simp [calls, Closes, StreamCall.Closes]
  | rpcWrite => simp [calls, Closes, rpcWriteCalls, StreamCall.Closes, Ends]
  | rpcWriteOr function fhandle =>
      rw [calls, Closes]
      split_ifs with isPty
      · simp [isPty, rpcWriteCalls, StreamCall.Closes, Ends]
      · simp [isPty, StreamCall.Closes]
  | handle function fhandle time =>
      rw [calls, Closes, fileArg, standsFor_iff notNull]
      simp only [mem_streamCallsOf]
      constructor
      · rintro ⟨call, ⟨_, rfl⟩, closes⟩
        exact closes
      · intro closes
        refine ⟨_, ⟨?_, rfl⟩, closes⟩
        rcases closes.2 with standard | same
        · rw [standard]
          rfl
        · rw [same]
          rfl

theorem standardFileOpen_calls (fp : ℕ) (source : StreamSource) :
    StandardFileOpen fp (source.calls results state) := by
  have written : StandardFileOpen fp (rpcWriteCalls results state) := by
    simp [StandardFileOpen, rpcWriteCalls, StreamCall.Closes, Ends]
  cases source with
  | nothing => exact List.Pairwise.nil
  | rawHandle function fhandle time => exact List.pairwise_singleton _ _
  | rpcWrite => exact written
  | rpcWriteOr function fhandle =>
      rw [calls]
      split_ifs
      · exact written
      · exact List.pairwise_singleton _ _
  | handle function fhandle time =>
      rw [calls, streamCallsOf, List.filter_singleton]
      cases (fileArg fhandle state.mem).isStream with
      | true => exact List.pairwise_singleton _ _
      | false => exact List.Pairwise.nil

end StreamSource

/-! ## Requests -/

section Requests

variable (results : ℕ → OsResult)

def Request.streamCalls (request : Request) (state : State) : List StreamCall :=
  (rpmsgRpcServerCb request.message).streamCalls results (request.arrive state)

/-- The request's handler resolves a standard handle or writes through `rpc_write`. -/
def Request.UsesStandardFile (request : Request) (state : State) : Prop :=
  ∃ handler ∈ request.handler?, handler.source.Uses (request.entry results state).mem

/-- The request is an `fclose` or `pclose` of a handle that stands for `fp`, or a `freopen` of one
that fails. -/
def Request.ClosesFp (fp : ℕ) (request : Request) (state : State) : Prop :=
  match request.handler? with
  | some .handleFclose | some .handlePclose =>
      StandsFor fp (FcommonReq.fhandle.nat (request.entry results state).mem)
  | some .handleFreopen =>
      StandsFor fp (FreopenReq.fhandle.nat (request.entry results state).mem) ∧
        (results ((request.entry results state).clock + 1)).pointer = 0
  | _ => False

/-- The requests of a history with the states in which they arrive. -/
def visits : State → List Request → List (Request × State)
  | _, [] => []
  | state, request :: rest =>
      (request, state) ::
        ((request.served results (some state)).elim [] fun served => visits served rest)

variable {results}

theorem streamless_reportFailure (message : Message) (failed : ℤ) :
    (reportFailure message failed).Streamless := by
  simp only [reportFailure, streamless_ite, streamless_lprintf, streamless_pure,
    implies_true, and_self]

theorem Request.streamCalls_of_handler {request : Request} {handler : Handler}
    (found : request.handler? = some handler) (state : State) :
    request.streamCalls results state =
      handler.source.calls results (request.entry results state) := by
  rw [Request.handler?] at found
  split at found
  next fits =>
    rcases Option.map_eq_some_iff.1 found with ⟨service, isService, rfl⟩
    rw [Request.streamCalls, rpmsgRpcServerCb_of_found fits isService]
    refine (if_pos (length_bytes_le fits)).trans ?_
    refine (Program.streamCalls_bind_streamless (streamless_reportFailure _) _).trans ?_
    exact Handler.streamCalls_body _ _
  next => cases found

theorem Request.streamCalls_of_none {request : Request} (missing : request.handler? = none)
    (state : State) : request.streamCalls results state = [] := by
  apply Program.Streamless.streamCalls_eq
  rw [Request.handler?] at missing
  rw [rpmsgRpcServerCb]
  split at missing
  next fits =>
    rw [if_neg (by omega), Option.map_eq_none_iff.1 missing]
    simp only [streamless_lprintf, streamless_store, streamless_rpcServerSend, streamless_pure,
      implies_true]
  next long =>
    rw [if_pos (by omega)]
    simp only [streamless_lprintf, streamless_rpcServerSend, streamless_pure, implies_true]

theorem Request.exists_uses_iff (request : Request) (state : State) :
    (∃ call ∈ request.streamCalls results state, call.file = .standardFile) ↔
      request.UsesStandardFile results state := by
  rw [Request.UsesStandardFile]
  cases found : request.handler? with
  | none => simp [Request.streamCalls_of_none found]
  | some handler => simp [Request.streamCalls_of_handler found, StreamSource.exists_uses_iff]

theorem Handler.closes_iff {fp : ℕ} {state : State} (handler : Handler) :
    handler.source.Closes results fp state ↔
      match handler with
      | .handleFclose | .handlePclose => StandsFor fp (FcommonReq.fhandle.nat state.mem)
      | .handleFreopen => StandsFor fp (FreopenReq.fhandle.nat state.mem) ∧
          (results (state.clock + 1)).pointer = 0
      | _ => False := by
  cases handler with
  | handleFreopen => simp [Handler.source, StreamSource.Closes, Ends, and_comm]
  | _ => simp [Handler.source, StreamSource.Closes, Ends]

theorem Request.exists_closes_iff {fp : ℕ} (notNull : fp ≠ 0) (request : Request)
    (state : State) :
    (∃ call ∈ request.streamCalls results state, call.Closes fp) ↔
      request.ClosesFp results fp state := by
  rw [Request.ClosesFp]
  cases found : request.handler? with
  | none => simp [Request.streamCalls_of_none found]
  | some handler =>
      rw [Request.streamCalls_of_handler found, StreamSource.exists_closes_iff notNull,
        Handler.closes_iff]
      cases handler <;> rfl

theorem Request.standardFileOpen_streamCalls (fp : ℕ) (request : Request) (state : State) :
    StandardFileOpen fp (request.streamCalls results state) := by
  cases found : request.handler? with
  | none =>
      rw [Request.streamCalls_of_none found]
      exact List.Pairwise.nil
  | some handler =>
      rw [Request.streamCalls_of_handler found]
      exact StreamSource.standardFileOpen_calls fp _

variable (results) in
/-- The calls on streams of a whole history. -/
def historyCalls (initial : State) (requests : List Request) : List StreamCall :=
  (visits results initial requests).flatMap fun visit => visit.1.streamCalls results visit.2

variable (results) in
/-- No request that uses the standard stream comes after one that has closed it. -/
def NotUsedAfterClose (fp : ℕ) (initial : State) (requests : List Request) : Prop :=
  (visits results initial requests).Pairwise fun earlier later =>
    later.1.UsesStandardFile results later.2 → ¬earlier.1.ClosesFp results fp earlier.2

theorem standardFileOpen_historyCalls_iff {fp : ℕ} (notNull : fp ≠ 0) (initial : State)
    (requests : List Request) :
    StandardFileOpen fp (historyCalls results initial requests) ↔
      NotUsedAfterClose results fp initial requests := by
  rw [StandardFileOpen, historyCalls, List.pairwise_flatMap, NotUsedAfterClose]
  constructor
  · rintro ⟨_, across⟩
    refine across.imp fun {earlier later} open_ uses closes => ?_
    rcases (Request.exists_uses_iff _ _).2 uses with ⟨use, used, standard⟩
    rcases (Request.exists_closes_iff notNull _ _).2 closes with ⟨close, closed, ends⟩
    exact open_ close closed use used standard ends
  · intro kept
    refine ⟨fun visit _ => visit.1.standardFileOpen_streamCalls fp visit.2, ?_⟩
    refine kept.imp fun {earlier later} unused close closed use used standard ends => ?_
    exact unused ((Request.exists_uses_iff _ _).1 ⟨use, used, standard⟩)
      ((Request.exists_closes_iff notNull _ _).1 ⟨close, closed, ends⟩)

/-- After a successful start of the service, the standard stream is open whenever it is used if and
only if it is not used after a request that has closed it. -/
theorem standardFileOpen_iff_notUsedAfterClose {table : ℤ} {start initial : State}
    {files : LogFiles}
    (started : (rpmsgRpcServiceInit table).final results start = some ((0, files), initial))
    (requests : List Request) :
    StandardFileOpen files.fp (historyCalls results initial requests) ↔
      NotUsedAfterClose results files.fp initial requests :=
  standardFileOpen_historyCalls_iff (fp_ne_zero_of_started started) initial requests

end Requests

/-- Both files can be opened and every other call returns 0. -/
def filesOpened : ℕ → OsResult
  | 0 => { ret := 3 }
  | 1 => { ret := 0x55d0 }
  | _ => {}

theorem started_filesOpened :
    (rpmsgRpcServiceInit 0).final filesOpened ⟨fun _ => 0, 0, 0⟩ =
      some ((0, ⟨3, 0x55d0⟩), ⟨fun _ => 0, 0, 3⟩) := rfl

theorem standardFileOpen_onePrintf :
    (rpmsgRpcServiceInit 0).final filesOpened ⟨fun _ => 0, 0, 0⟩ =
        some ((0, ⟨3, 0x55d0⟩), ⟨fun _ => 0, 0, 3⟩) ∧
      StandardFileOpen 0x55d0 (historyCalls filesOpened ⟨fun _ => 0, 0, 3⟩
        [bareRequest printfId]) := by
  refine ⟨started_filesOpened,
    (standardFileOpen_iff_notUsedAfterClose started_filesOpened _).mpr ?_⟩
  rw [NotUsedAfterClose, visits]
  cases (bareRequest printfId).served filesOpened (some ⟨fun _ => 0, 0, 3⟩) with
  | none => exact List.pairwise_singleton _ _
  | some served => exact List.pairwise_singleton _ _

/-- An `fclose` of the handle; the trace id is 0. -/
def fcloseRequest (fhandle : ℕ) : Request :=
  ⟨⟨fun i => ((LittleEndian.bytes 8 fcloseId ++ List.replicate 8 0 ++
    LittleEndian.bytes 8 fhandle)[i]?).getD 0, 24, 0⟩, fun _ => 0, fun _ => 0⟩

theorem handler?_fcloseRequest : (fcloseRequest 1).handler? = some .handleFclose := by
  decide

theorem handler?_printf : (bareRequest printfId).handler? = some .handlePrintf := by
  decide

theorem fhandle_fcloseRequest (state : State) :
    FcommonReq.fhandle.nat ((fcloseRequest 1).entry filesOpened state).mem = 1 := by
  show FcommonReq.fhandle.nat (received (fcloseRequest 1).message fun _ => 0) = 1
  decide

theorem served_fcloseRequest (state : State) :
    ∃ served, (fcloseRequest 1).served filesOpened (some state) = some served := by
  have fits : (fcloseRequest 1).message.len ≤ rpcBufferSize := show 24 ≤ rpcBufferSize by decide
  have found : findService ((fcloseRequest 1).message.id % 2 ^ 32) =
      some ⟨fcloseId, .handleFclose⟩ := by decide
  rw [Request.served, Option.bind_some, rpmsgRpcServerCb_of_found fits found]
  exact ⟨_, rfl⟩

/-- A client closes its standard output, and the next `printf` writes to a closed stream. -/
theorem not_standardFileOpen_fclose_printf :
    (rpmsgRpcServiceInit 0).final filesOpened ⟨fun _ => 0, 0, 0⟩ =
        some ((0, ⟨3, 0x55d0⟩), ⟨fun _ => 0, 0, 3⟩) ∧
      ¬StandardFileOpen 0x55d0 (historyCalls filesOpened ⟨fun _ => 0, 0, 3⟩
        [fcloseRequest 1, bareRequest printfId]) := by
  refine ⟨started_filesOpened, ?_⟩
  rw [standardFileOpen_historyCalls_iff (by decide)]
  intro unused
  rcases served_fcloseRequest ⟨fun _ => 0, 0, 3⟩ with ⟨served, isServed⟩
  rw [NotUsedAfterClose, visits, isServed, Option.elim_some, visits, List.pairwise_cons] at unused
  apply unused.1 _ List.mem_cons_self
  · exact ⟨_, handler?_printf, trivial⟩
  · rw [Request.ClosesFp, handler?_fcloseRequest]
    exact Or.inl (congrArg isPtyFd (fhandle_fcloseRequest _))

end Mica.Rpc
