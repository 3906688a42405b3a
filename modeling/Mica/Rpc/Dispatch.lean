import Mica.Rpc.Server

/-!
# Dispatch and correlation

A client matches an answer to its call by the function id of the frame and the
trace id at the beginning of its parameters. `Program.Answers` says of a program
that every frame it sends has a given id and is sent with the trace id of the
request in place; it is checked for each handler step by step, and carries over
to every run.
-/

namespace Mica.Rpc

open Cells

/-- A store to the field changes neither the trace id of the request nor, as far as it has been
set, that of the response. -/
def KeepsTrace (field : Field) : Prop :=
  (field.region = .req → 12 ≤ field.off) ∧ (field.region = .resp → 4 ≤ field.off)

instance (field : Field) : Decidable (KeepsTrace field) :=
  inferInstanceAs (Decidable (_ ∧ _))

/-- So do the stores of a call. -/
def Operation.KeepsTrace (operation : Operation) : Prop :=
  (∀ field ∈ operation.outs, Rpc.KeepsTrace field) ∧
    ∀ field ∈ operation.socklen, Rpc.KeepsTrace field

instance (operation : Operation) : Decidable operation.KeepsTrace :=
  inferInstanceAs (Decidable (_ ∧ _))

/-- The trace id of the request is in place and, if `set`, also in the response. -/
def TraceAt (memory : Mem) (trace : List UInt8) (set : Prop) : Prop :=
  load memory traceId 4 = trace ∧ (set → load memory respTraceId 4 = trace)

/-- Every frame has the id and is sent with the trace id set in the response, given that it is set
now if `set` holds. -/
def Program.Answers {α : Type} (id : ℕ) : Program α → Prop → Prop
  | .pure _, _ => True
  | .log _ _ next, set => next.Answers id set
  | .sys _ _ _ next, set => ∀ result, (next result).Answers id set
  | .store field _ next, set =>
      if KeepsTrace field then next.Answers id set
      else field.region = .resp ∧ next.Answers id False
  | .copy dst src count next, set =>
      count ≤ dst.size →
        if KeepsTrace dst then next.Answers id set
        else dst = respTraceId ∧ src = traceId ∧ count = 4 ∧ next.Answers id True
  | .peek _ next, set => ∀ value, (next value).Answers id set
  | .getErrno next, set => ∀ value, (next value).Answers id set
  | .setErrno _ next, set => next.Answers id set
  | .send frameId _ size next, set =>
      frameId = id ∧ set ∧ 4 ≤ size ∧ ∀ ret, (next ret).Answers id set
  | .enter _ _, _ => False
  | .fault, _ => True

/-! ## Rules for the operations -/

section Rules

variable {α : Type} {id : ℕ} {set : Prop}

@[simp]
theorem answers_pure (value : α) : (pure value : Program α).Answers id set := trivial

@[simp]
theorem answers_answer (ret : ℤ) : (answer ret).Answers id set := trivial

@[simp]
theorem answers_fault : (Program.fault : Program α).Answers id set := trivial

@[simp]
theorem answers_ite {condition : Prop} [Decidable condition] {yes no : Program α} :
    (if condition then yes else no).Answers id set ↔
      (condition → yes.Answers id set) ∧ (¬condition → no.Answers id set) := by
  by_cases holds : condition <;> simp [holds]

@[simp]
theorem answers_lprintf (entry : Line) (next : Unit → Program α) :
    (lprintf entry >>= next).Answers id set ↔ (next ()).Answers id set := Iff.rfl

@[simp]
theorem answers_errno (next : ℤ → Program α) :
    (errno >>= next).Answers id set ↔ ∀ value, (next value).Answers id set := Iff.rfl

@[simp]
theorem answers_peek (read : Mem → ℤ) (next : ℤ → Program α) :
    (peek read >>= next).Answers id set ↔ ∀ value, (next value).Answers id set := Iff.rfl

@[simp]
theorem answers_peekNat (field : Field) (next : ℕ → Program α) :
    (peekNat field >>= next).Answers id set ↔ ∀ value : ℤ, (next value.toNat).Answers id set :=
  Iff.rfl

@[simp]
theorem answers_peekInt (field : Field) (next : ℤ → Program α) :
    (peekInt field >>= next).Answers id set ↔ ∀ value, (next value).Answers id set := Iff.rfl

@[simp]
theorem answers_test (condition : Mem → Bool) (next : Bool → Program α) :
    (test condition >>= next).Answers id set ↔
      ∀ value : ℤ, (next (value = 1)).Answers id set := Iff.rfl

theorem answers_store {field : Field} (keeps : KeepsTrace field) (data : List UInt8)
    (next : Unit → Program α) :
    (store field data >>= next).Answers id set ↔ (next ()).Answers id set := by
  show (if KeepsTrace field then _ else _) ↔ _
  rw [if_pos keeps]
  rfl

theorem answers_storeInt {field : Field} (keeps : KeepsTrace field) (value : ℤ)
    (next : Unit → Program α) :
    (storeInt field value >>= next).Answers id set ↔ (next ()).Answers id set :=
  answers_store keeps _ next

theorem answers_memcpy {dst src : Field} (keeps : KeepsTrace dst) (count : ℕ)
    (next : Unit → Program α) :
    (memcpy dst src count >>= next).Answers id set ↔
      (count ≤ dst.size → (next ()).Answers id set) := by
  show (count ≤ dst.size → if KeepsTrace dst then _ else _) ↔ _
  rw [if_pos keeps]
  rfl

theorem answers_assign {dst src : Field} (keeps : KeepsTrace dst) (next : Unit → Program α) :
    (assign dst src >>= next).Answers id set ↔ (next ()).Answers id set :=
  (answers_memcpy keeps dst.size next).trans (by simp)

@[simp]
theorem answers_zeroResp (size : ℕ) (next : Unit → Program α) :
    (zeroResp size >>= next).Answers id set ↔ (next ()).Answers id False := by
  show (if KeepsTrace (respField 0 size) then _ else _) ↔ _
  have touches : ¬KeepsTrace (respField 0 size) := by simp [KeepsTrace, respField]
  rw [if_neg touches]
  exact ⟨fun both => both.2, fun rest => ⟨rfl, rest⟩⟩

@[simp]
theorem answers_setRspBase (next : Unit → Program α) :
    (setRspBase >>= next).Answers id set ↔ (next ()).Answers id True := by
  have touches : ¬KeepsTrace respTraceId := by decide
  have keeps : KeepsTrace respErrnum := by decide
  have unfolded : (setRspBase >>= next).Answers id set ↔
      ∀ errnum : ℤ, (storeInt respErrnum errnum >>= fun _ => next ()).Answers id True := by
    show (respTraceId.size ≤ respTraceId.size → if KeepsTrace respTraceId then _ else _) ↔ _
    rw [if_neg touches]
    exact ⟨fun all => (all le_rfl).2.2.2, fun rest _ => ⟨rfl, rfl, rfl, rest⟩⟩
  simp [unfolded, answers_storeInt keeps]

@[simp]
theorem answers_rpcServerSend (frameId : ℕ) (status : Status) (size : ℕ) (next : ℤ → Program α) :
    (rpcServerSend frameId status size >>= next).Answers id set ↔
      frameId = id ∧ set ∧ 4 ≤ size ∧ ∀ ret, (next ret).Answers id set := Iff.rfl

theorem answers_storeOuts {fields : List Field} (keeps : ∀ field ∈ fields, KeepsTrace field)
    (outs : List (List UInt8)) (next : Unit → Program α) :
    (storeOuts fields outs >>= next).Answers id set ↔ (next ()).Answers id set := by
  induction fields generalizing outs with
  | nil => rfl
  | cons field fields ih =>
      cases outs with
      | nil => rfl
      | cons out outs =>
          rw [storeOuts, bind_assoc, answers_store (keeps field List.mem_cons_self)]
          exact ih (fun other member => keeps other (List.mem_cons_of_mem _ member)) outs

theorem answers_storeSocklen {socklen : Option Field} (keeps : ∀ field ∈ socklen, KeepsTrace field)
    (length : Option ℕ) (next : Unit → Program α) :
    (storeSocklen socklen length >>= next).Answers id set ↔ (next ()).Answers id set := by
  cases socklen with
  | none => rfl
  | some field =>
      cases length with
      | none => rfl
      | some length => exact answers_store (keeps field rfl) _ _

theorem answers_perform {operation : Operation} (keeps : operation.KeepsTrace)
    (next : OsResult → Program α) :
    (perform operation >>= next).Answers id set ↔ ∀ result, (next result).Answers id set := by
  apply forall_congr'
  intro result
  show (((storeOuts operation.outs result.outs >>= fun _ =>
    storeSocklen operation.socklen result.socklen >>= fun _ => pure result) >>= next).Answers id
      set) ↔ _
  rw [bind_assoc, answers_storeOuts keeps.1, bind_assoc, answers_storeSocklen keeps.2, pure_bind]

theorem answers_perform_mk {outs : List Field} (keepsOuts : ∀ field ∈ outs, KeepsTrace field)
    {socklen : Option Field} (keepsLen : ∀ field ∈ socklen, KeepsTrace field) (function : OsCall)
    (args : List (Mem → Value)) (arrays : List (Mem → Access)) (next : OsResult → Program α) :
    (perform ⟨function, args, arrays, outs, socklen⟩ >>= next).Answers id set ↔
      ∀ result, (next result).Answers id set :=
  answers_perform ⟨keepsOuts, keepsLen⟩ next

@[simp]
theorem answers_perform_bare (function : OsCall) (args : List (Mem → Value))
    (arrays : List (Mem → Access)) (next : OsResult → Program α) :
    (perform ⟨function, args, arrays, [], none⟩ >>= next).Answers id set ↔
      ∀ result, (next result).Answers id set :=
  answers_perform ⟨by simp, by simp⟩ next

@[simp]
theorem answers_lerror (ret errnum : ℤ) (next : Unit → Program α) :
    (lerror ret errnum >>= next).Answers id set ↔ (next ()).Answers id set := by
  unfold lerror
  split
  · simp
  · exact Iff.rfl

end Rules

/-! ## The handlers -/

section Bodies

variable {id : ℕ} {operation : Operation}

theorem answers_commonHandler (keeps : operation.KeepsTrace) (enter : Line)
    (leave sent : ℤ → Line) : (commonHandler id enter operation leave sent).Answers id False := by
  simp (disch := decide) [commonHandler, answers_perform keeps, answers_storeInt, CommonResp.size]

theorem answers_streamHandler (keeps : operation.KeepsTrace) (enter : Line)
    (leave sent : ℤ → Line) : (streamHandler id enter operation leave sent).Answers id False := by
  simp (disch := decide) [streamHandler, answers_perform keeps, answers_storeInt, CommonResp.size]

theorem answers_directHandler {retField : Field} (keepsRet : KeepsTrace retField) {size : ℕ}
    (large : 4 ≤ size) (keeps : operation.KeepsTrace) (enter leave : Line) (sent : ℤ → Line) :
    (directHandler id retField size enter operation leave sent).Answers id False := by
  simp (disch := decide) [directHandler, answers_perform keeps, answers_storeInt keepsRet, large]

theorem answers_handleHandler (keeps : operation.KeepsTrace) (enter : Line)
    (leave : OsResult → Line) (sent : ℤ → Line) :
    (handleHandler id enter operation leave sent).Answers id False := by
  simp (disch := decide) [handleHandler, answers_perform keeps, answers_storeInt, FcommonResp.size]

theorem answers_wideHandler (keeps : operation.KeepsTrace) (enter : (Value → ℤ) → Line)
    (leave sent : ℤ → Line) : (wideHandler id enter operation leave sent).Answers id False := by
  simp (disch := decide) [wideHandler, answers_perform keeps, answers_storeInt, CommonResp.size]

theorem answers_sizeHandler (keeps : operation.KeepsTrace) (enter : Line) (leave sent : ℤ → Line)
    (reported : OsResult → ℤ) :
    (sizeHandler id enter operation leave reported sent).Answers id False := by
  simp (disch := decide) [sizeHandler, answers_perform keeps, answers_storeInt, CsretResp.size]

theorem answers_transferHandler (keeps : operation.KeepsTrace) (enter : Line)
    (leave sent : ℤ → Line) (reported : OsResult → ℤ) :
    (transferHandler id enter operation leave reported sent).Answers id False := by
  simp (disch := decide) [transferHandler, answers_perform keeps, answers_storeInt,
    Nat.le_add_right_of_le]

theorem answers_statHandler (keeps : operation.KeepsTrace) (enter : Line)
    (leave sent : ℤ → Line) : (statHandler id enter operation leave sent).Answers id False := by
  simp (disch := decide) [statHandler, setStatBuff, answers_perform keeps, answers_storeInt,
    StatResp.size]

theorem answers_nameHandler (enter : Line) (function : OsCall) (leave sent : ℤ → Line) :
    (nameHandler id enter function leave sent).Answers id False := by
  simp (disch := decide) only [nameHandler, answers_lprintf, answers_perform_mk, answers_errno,
    answers_lerror, answers_storeInt, answers_setRspBase, answers_peekNat, answers_memcpy,
    answers_assign, answers_rpcServerSend, Nat.le_add_right_of_le, answers_answer, implies_true,
    and_self]

theorem answers_acceptHandler {addrlen addrBuf : Field} (keepsLen : KeepsTrace addrlen)
    (keepsBuf : KeepsTrace addrBuf) (enter : Line) (function : OsCall)
    (args : List (Mem → Value)) (leave sent : ℤ → Line) :
    (acceptHandler id enter function args addrlen addrBuf leave sent).Answers id False := by
  have outs : ∀ field ∈ [addrBuf], KeepsTrace field := by simpa using keepsBuf
  have socklen : ∀ field ∈ some addrlen, KeepsTrace field := by simpa using keepsLen
  simp (disch := decide) [acceptHandler, acceptReply, answers_perform_mk outs socklen,
    answers_storeInt,
    answers_memcpy, answers_assign, Nat.le_add_right_of_le]

theorem answers_printLines (entries : List Line) {set : Prop} (next : Unit → Program ℤ) :
    (printLines entries >>= next).Answers id set ↔ (next ()).Answers id set := by
  induction entries with
  | nil => rfl
  | cons entry entries ih => simpa [printLines] using ih

theorem answers_hostHandler (keeps : operation.KeepsTrace) (enter : Line) (leave sent : ℤ → Line) :
    (hostHandler id enter operation leave sent).Answers id False := by
  simp only [hostHandler, answers_lprintf, answers_perform keeps, answers_errno, answers_lerror,
    answers_setRspBase]
  intro result _
  cases result.host with
  | none =>
      simp (disch := decide) [printHost, answers_storeInt]
      decide
  | some host =>
      simp (disch := decide) [printHost, answers_printLines, answers_store, answers_storeInt,
        Nat.le_add_right_of_le]

end Bodies

theorem answers_ioctl : rpmsgHandleIoctl.Answers ioctlId False := by
  simp (disch := decide) only [rpmsgHandleIoctl, answers_lprintf, answers_perform_mk,
    answers_errno, answers_lerror, answers_storeInt, answers_assign, answers_setRspBase,
    answers_peekNat, answers_ite, answers_memcpy, answers_rpcServerSend, answers_answer,
    implies_true, true_and, and_true]
  simp only [IoctlResp.size, IoctlResp.buf, IoctlReq.buf, respField, reqField, maxStringLen,
    maxSbufLen]
  intro _ _ len
  refine ⟨fun _ fits => ?_, fun zero => ?_⟩
  · omega
  · omega

theorem answers_getdents64 : rpmsgHandleGetdents64.Answers getdents64Id False := by
  simp (disch := decide) only [rpmsgHandleGetdents64, getdents64From, getdents64Reply,
    answers_lprintf, answers_test, answers_ite, answers_perform_mk, answers_storeInt, answers_errno,
    answers_lerror,
    answers_setRspBase, answers_rpcServerSend, Nat.le_add_right_of_le, answers_answer,
    implies_true, and_self]

theorem answers_getcwd : rpmsgHandleGetcwd.Answers getcwdId False := by
  simp (disch := decide) only [rpmsgHandleGetcwd, getcwdAccepted, getcwdReply, answers_test,
    answers_ite, answers_pure, implies_true, answers_lprintf, answers_perform_mk, answers_errno,
    answers_storeInt,
    answers_setRspBase, answers_peekNat, answers_rpcServerSend, Nat.le_add_right_of_le,
    answers_answer, and_self]

theorem answers_pipe : rpmsgHandlePipe.Answers pipeId False := by
  simp (disch := decide) [rpmsgHandlePipe, answers_perform_mk, answers_storeInt, PipeResp.size]

theorem answers_copyVectors {id : ℕ} {set : Prop} {next : Unit → Program ℤ}
    (rest : (next ()).Answers id set) (remaining i : ℕ) :
    (copyVectors remaining i >>= next).Answers id set := by
  induction remaining generalizing i with
  | zero => exact rest
  | succ remaining ih =>
      have keeps : KeepsTrace (iovBlock i) := by simp [KeepsTrace, iovBlock]
      simp [copyVectors, answers_memcpy keeps, ih]

theorem answers_writev : rpmsgHandleWritev.Answers writevId False := by
  have reply : ∀ result, (writevReply result).Answers writevId False := by
    simp (disch := decide) [writevReply, answers_storeInt, CsretResp.size]
  simp only [rpmsgHandleWritev, writeVectors, answers_lprintf, answers_peekInt, answers_ite]
  refine fun iovcnt => ⟨fun _ => trivial, fun _ => answers_copyVectors ?_ _ _⟩
  simp [writevOperation, reply]

theorem answers_fclose : rpmsgHandleFclose.Answers fcloseId False := by
  simp (disch := decide) [rpmsgHandleFclose, answers_storeInt, CommonResp.size]

theorem answers_fread : rpmsgHandleFread.Answers freadId False := by
  simp (disch := decide) [rpmsgHandleFread, answers_perform_mk, answers_storeInt,
    Nat.le_add_right_of_le]

theorem answers_fwrite : rpmsgHandleFwrite.Answers fwriteId False := by
  simp (disch := decide) [rpmsgHandleFwrite, answers_storeInt, CsretResp.size]

theorem answers_fgets : rpmsgHandleFgets.Answers fgetsId False := by
  simp (disch := decide) [rpmsgHandleFgets, answers_perform_mk, answers_storeInt, FgetsResp.size]

theorem answers_printf : rpmsgHandlePrintf.Answers printfId False := by
  simp [rpmsgHandlePrintf, rpcWrite]

theorem answers_fprintf : rpmsgHandleFprintf.Answers fprintfId False := by
  simp [rpmsgHandleFprintf, rpcWrite]

theorem answers_tmpfile : rpmsgHandleTmpfile.Answers tmpfileId False := by
  simp (disch := decide) [rpmsgHandleTmpfile, answers_storeInt, FcommonResp.size]

theorem answers_clearerr : rpmsgHandleClearerr.Answers clearerrId False := by
  simp only [rpmsgHandleClearerr, answers_lprintf, answers_perform_bare, answers_pure,
    implies_true]

theorem answers_fflush : rpmsgHandleFflush.Answers fflushId False := by
  simp only [rpmsgHandleFflush, answers_perform_bare]
  exact fun _ => answers_commonHandler (by decide) _ _ _

theorem answers_putc : rpmsgHandlePutc.Answers putcId False := by
  simp only [rpmsgHandlePutc, answers_perform_bare]
  exact fun _ => answers_commonHandler (by decide) _ _ _

theorem answers_ungetwc : rpmsgHandleUngetwc.Answers ungetwcId False := by
  simp (disch := decide) [rpmsgHandleUngetwc, answers_storeInt, CommonResp.size]

theorem answers_fdopen : rpmsgHandleFdopen.Answers fdopenId False := by
  simp (disch := decide) [rpmsgHandleFdopen, answers_storeInt, FcommonResp.size]

theorem answers_fscanfx : rpmsgHandleFscanfx.Answers fscanfxId False := by
  simp (disch := decide) [rpmsgHandleFscanfx, answers_perform_mk, answers_storeInt,
    FscanfxResp.size]

theorem answers_recvfrom : rpmsgHandleRecvfrom.Answers recvfromId False := by
  have header : 4 ≤ RecvfromResp.size - RecvfromResp.buf.size := by decide
  simp (disch := decide) only [rpmsgHandleRecvfrom, recvfromReply, answers_lprintf,
    answers_perform_mk,
    answers_errno, answers_lerror, answers_storeInt, answers_setRspBase, answers_assign,
    answers_test, answers_ite, answers_rpcServerSend, header, answers_answer, implies_true,
    and_self, answers_peekNat, answers_memcpy, Nat.le_add_right_of_le]

theorem answers_poll : rpmsgHandlePoll.Answers pollId False := by
  simp (disch := decide) [rpmsgHandlePoll, answers_perform_mk, answers_storeInt, answers_memcpy,
    PollResp.size]

theorem answers_select : rpmsgHandleSelect.Answers selectId False := by
  simp (disch := decide) [rpmsgHandleSelect, answers_perform_mk, answers_storeInt,
    answers_memcpy, SelectResp.size]

theorem answers_gethostname : rpmsgHandleGethostname.Answers gethostnameId False := by
  simp (disch := decide) only [rpmsgHandleGethostname, gethostnameCall, gethostnameReply,
    answers_lprintf, answers_test, answers_ite, answers_storeInt, answers_perform_mk, answers_errno,
    answers_lerror, answers_peek,
    answers_setRspBase, answers_rpcServerSend, Nat.le_add_right_of_le, answers_answer,
    implies_true, and_self]

theorem answers_getsockopt : rpmsgHandleGetsockopt.Answers getsockoptId False := by
  simp (disch := decide) only [rpmsgHandleGetsockopt, pure_bind, answers_lprintf,
    answers_perform_mk, answers_test, answers_ite, answers_errno, answers_lerror, answers_storeInt,
    answers_assign, answers_setRspBase, answers_rpcServerSend, answers_answer, implies_true,
    and_self, answers_peekNat, Nat.le_add_right_of_le]

theorem answers_freeaddrinfo : rpmsgHandleFreeaddrinfo.Answers freeaddrinfoId False := by
  simp only [rpmsgHandleFreeaddrinfo, answers_lprintf, answers_pure]

theorem answers_getaddrinfoResponse {size : ℕ} (large : 4 ≤ size) (ret : ℤ)
    (infos : List Addrinfo) {set : Prop} :
    (getaddrinfoResponse ret size infos).Answers getaddrinfoId set := by
  simp (disch := decide) [getaddrinfoResponse, answers_storeInt, large]

theorem answers_getaddrinfoCall : getaddrinfoCall.Answers getaddrinfoId False := by
  have header : 4 ≤ GetaddrinfoResp.size - GetaddrinfoResp.buf.size := by decide
  have whole : 4 ≤ GetaddrinfoResp.size := by decide
  simp (disch := decide) [getaddrinfoCall, getaddrinfoReply, answers_store, answers_storeInt,
    answers_getaddrinfoResponse (Nat.le_add_right_of_le header),
    answers_getaddrinfoResponse header, answers_getaddrinfoResponse whole]

theorem answers_getaddrinfo : rpmsgHandleGetaddrinfo.Answers getaddrinfoId False := by
  have whole : 4 ≤ GetaddrinfoResp.size := by decide
  simp [rpmsgHandleGetaddrinfo, getaddrinfoAccepted, answers_getaddrinfoCall,
    answers_getaddrinfoResponse whole]

theorem answers_storeInterfaces {id : ℕ} {set : Prop} {next : Unit → Program ℤ}
    (rest : (next ()).Answers id set) (interfaces : List (ℕ × CString)) (i : ℕ) :
    (storeInterfaces interfaces i >>= next).Answers id set := by
  induction interfaces generalizing i with
  | nil => exact rest
  | cons interface interfaces ih =>
      have keepsIndex : KeepsTrace (IfNameindexResp.ifIndex i) := by
        simp [KeepsTrace, IfNameindexResp.ifIndex, respField]; omega
      have keepsName : KeepsTrace (IfNameindexResp.ifName i) := by
        simp [KeepsTrace, IfNameindexResp.ifName, respField]; omega
      simp [storeInterfaces, answers_storeInt keepsIndex, answers_store keepsName, ih]

theorem answers_ifnameindex : rpmsgHandleIfnameindex.Answers ifnameindexId False := by
  simp only [rpmsgHandleIfnameindex, answers_lprintf, answers_perform_bare]
  refine fun result => answers_storeInterfaces ?_ _ _
  simp (disch := decide) [answers_storeInt, IfNameindexResp.size]

theorem answers_gaistrerror : rpmsgHandleGaistrerror.Answers gaistrerrorId False := by
  simp only [rpmsgHandleGaistrerror, answers_lprintf, answers_perform_bare]
  intro result
  cases result.text with
  | none =>
      simp (disch := decide) [gaistrerrorResponse, answers_storeInt, GaiStrerrorResp.size]
  | some text =>
      simp (disch := decide) [gaistrerrorResponse, answers_store, answers_storeInt,
        GaiStrerrorResp.size]

/-- The id in the answers of a handler. -/
def Handler.answerId : Handler → ℕ
  | .handleUnlink => ioctlId
  | handler => ((serviceTable.find? fun service => service.cbFunction = handler).map
      RpcService.id).getD 0

theorem Handler.answers (handler : Handler) : handler.body.Answers handler.answerId False := by
  unfold Handler.body
  cases handler with
  | handleOpen => exact answers_commonHandler (by decide) _ _ _
  | handleRead => exact answers_transferHandler (by decide) _ _ _ _
  | handleWrite => exact answers_sizeHandler (by decide) _ _ _ _
  | handleClose => exact answers_commonHandler (by decide) _ _ _
  | handleLseek => exact answers_sizeHandler (by decide) _ _ _ _
  | handleFcntl => exact answers_commonHandler (by decide) _ _ _
  | handleIoctl => exact answers_ioctl
  | handleUnlink => exact answers_commonHandler (by decide) _ _ _
  | handleGetdents64 => exact answers_getdents64
  | handleFreeaddrinfo => exact answers_freeaddrinfo
  | handleGetaddrinfo => exact answers_getaddrinfo
  | handleGethostbyaddr => exact answers_hostHandler (by decide) _ _ _
  | handleGethostbyname => exact answers_hostHandler (by decide) _ _ _
  | handlePoll => exact answers_poll
  | handleGetpeername => exact answers_nameHandler _ _ _ _
  | handleGethostname => exact answers_gethostname
  | handleGetsockname => exact answers_nameHandler _ _ _ _
  | handleGetsockopt => exact answers_getsockopt
  | handleSelect => exact answers_select
  | handleAccept => exact answers_acceptHandler (by decide) (by decide) _ _ _ _ _
  | handleBind => exact answers_commonHandler (by decide) _ _ _
  | handleConnect => exact answers_commonHandler (by decide) _ _ _
  | handleListen => exact answers_commonHandler (by decide) _ _ _
  | handleRecv => exact answers_transferHandler (by decide) _ _ _ _
  | handleRecvfrom => exact answers_recvfrom
  | handleSend => exact answers_sizeHandler (by decide) _ _ _ _
  | handleSendto => exact answers_sizeHandler (by decide) _ _ _ _
  | handleSetsockopt => exact answers_commonHandler (by decide) _ _ _
  | handleShutdown => exact answers_commonHandler (by decide) _ _ _
  | handleSocket => exact answers_commonHandler (by decide) _ _ _
  | handleFopen => exact answers_handleHandler (by decide) _ _ _
  | handleFclose => exact answers_fclose
  | handleFread => exact answers_fread
  | handleFwrite => exact answers_fwrite
  | handleFreopen => exact answers_handleHandler (by decide) _ _ _
  | handleFputs => exact answers_streamHandler (by decide) _ _ _
  | handleFgets => exact answers_fgets
  | handleFeof => exact answers_streamHandler (by decide) _ _ _
  | handleFprintf => exact answers_fprintf
  | handleGetc => exact answers_streamHandler (by decide) _ _ _
  | handleFerror => exact answers_streamHandler (by decide) _ _ _
  | handleGetcUnlocked => exact answers_streamHandler (by decide) _ _ _
  | handlePclose => exact answers_streamHandler (by decide) _ _ _
  | handleTmpfile => exact answers_tmpfile
  | handleClearerr => exact answers_clearerr
  | handlePopen => exact answers_handleHandler (by decide) _ _ _
  | handleUngetc => exact answers_directHandler (by decide) (by decide) (by decide) _ _ _
  | handleFseeko => exact answers_directHandler (by decide) (by decide) (by decide) _ _ _
  | handleFtello => exact answers_directHandler (by decide) (by decide) (by decide) _ _ _
  | handleFseek => exact answers_directHandler (by decide) (by decide) (by decide) _ _ _
  | handleFtell => exact answers_directHandler (by decide) (by decide) (by decide) _ _ _
  | handleRename => exact answers_directHandler (by decide) (by decide) (by decide) _ _ _
  | handleRemove => exact answers_directHandler (by decide) (by decide) (by decide) _ _ _
  | handleMkstemp => exact answers_directHandler (by decide) (by decide) (by decide) _ _ _
  | handleStat => exact answers_statHandler (by decide) _ _ _
  | handleLstat => exact answers_statHandler (by decide) _ _ _
  | handleGetcwd => exact answers_getcwd
  | handlePrintf => exact answers_printf
  | handleFflush => exact answers_fflush
  | handleGetwc => exact answers_wideHandler (by decide) _ _ _
  | handlePutwc => exact answers_wideHandler (by decide) _ _ _
  | handlePutc => exact answers_putc
  | handleUngetwc => exact answers_ungetwc
  | handleFstat => exact answers_statHandler (by decide) _ _ _
  | handleFdopen => exact answers_fdopen
  | handleFileno => exact answers_commonHandler (by decide) _ _ _
  | handleSetvbuf => exact answers_commonHandler (by decide) _ _ _
  | handleSystem => exact answers_commonHandler (by decide) _ _ _
  | handleReadlink => exact answers_transferHandler (by decide) _ _ _ _
  | handleAccess => exact answers_commonHandler (by decide) _ _ _
  | handleDup2 => exact answers_commonHandler (by decide) _ _ _
  | handleMkfifo => exact answers_commonHandler (by decide) _ _ _
  | handleChmod => exact answers_commonHandler (by decide) _ _ _
  | handleChdir => exact answers_commonHandler (by decide) _ _ _
  | handleMkdir => exact answers_commonHandler (by decide) _ _ _
  | handleRmdir => exact answers_commonHandler (by decide) _ _ _
  | handlePipe => exact answers_pipe
  | handleFscanfx => exact answers_fscanfx
  | handleIfnameindex => exact answers_ifnameindex
  | handlePutchar => exact answers_commonHandler (by decide) _ _ _
  | handleGaistrerror => exact answers_gaistrerror
  | handleAccept4 => exact answers_acceptHandler (by decide) (by decide) _ _ _ _ _
  | handleWritev => exact answers_writev

end Mica.Rpc
