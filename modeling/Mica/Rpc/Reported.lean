import Mica.Rpc.Replies

/-!
# What the handlers report

For each handler the calls that it is for, and what its response says about their
result: one proof per body with the rules of `Program.Replies`.
-/

namespace Mica.Rpc

open Cells

/-- The field has the bytes of the number. -/
def Holds (field : Field) (value : ℤ) (memory : Mem) : Prop :=
  load memory field field.size = LittleEndian.intBytes field.size value

/-- The field has what `told` makes of the last own result. -/
def Told (field : Field) (told : OsResult → ℤ) : Option OsResult → Mem → Prop
  | some result, memory => Holds field (told result) memory
  | none, _ => True

theorem holds_stored (field : Field) (value : ℤ) (memory : Mem) :
    Holds field value (overwrite memory field (LittleEndian.intBytes field.size value)) := by
  have stored := load_overwrite_self memory field (LittleEndian.intBytes field.size value)
  rwa [LittleEndian.length_intBytes] at stored

theorem int_of_holds {field : Field} {value : ℤ} {memory : Mem} (holds : Holds field value memory) :
    field.int memory = value.bmod (256 ^ field.size) := by
  have stored := Extent.int_overwrite_intBytes memory field value
  have bytes := holds_stored field value memory
  rwa [Extent.int, Extent.nat, bytes, ← holds, ← Extent.nat, ← Extent.int] at stored

theorem Holds.agree {fields : List Field} {field : Field} {value : ℤ} {memory memory' : Mem}
    (holds : Holds field value memory) (same : Agree fields memory memory')
    (listed : field ∈ fields) : Holds field value memory' :=
  (same field listed).trans holds

theorem Holds.overwrite {field other : Field} {value : ℤ} {memory : Mem}
    (holds : Holds field value memory) (apart : field.Apart other) {data : List UInt8}
    (fits : data.length ≤ other.size) : Holds field value (overwrite memory other data) :=
  (load_overwrite_of_apart apart fits).trans holds

theorem spares_reply {fields : List Field} {id size : ℕ} {sent : ℤ → Line}
    (inFrame : ∀ kept ∈ fields, kept.off + kept.size ≤ size) :
    (do
      let ret ← rpcServerSend id .rpmsgRpcOk size
      lprintf (sent ret)
      answer ret).Spares fields :=
  ⟨inFrame, fun _ => trivial⟩

section Bodies

variable {results : ℕ → OsResult} {own : List OsCall} {earlier : Option OsResult}
  {P : Mem → Prop} {Q : Option OsResult → Mem → Prop} {id : ℕ} {operation : Operation}

theorem replies_tell {field : Field} {told : OsResult → ℤ} {result : OsResult} {value : ℤ}
    {next : Unit → Program ℤ} (isTold : told result = value)
    (inResp : field.region = .resp ∧ 8 ≤ field.off)
    (spares : (next ()).Spares [respErrnum, field]) :
    (storeInt field value >>= fun _ => setRspBase >>= next).Replies results own (some result) P
      (Told field told) := by
  subst isTold
  apply replies_storeInt (Holds field (told result)) (fun memory _ => holds_stored _ _ memory)
  apply replies_setRspBase [field]
  · simpa using inResp
  · exact fun memory memory' holds same => holds.agree same (List.mem_singleton_self _)
  · exact spares

theorem replies_call {enter : Line} {leave : OsResult → Line} {ret : OsResult → ℤ}
    {next : OsResult → Unit → Program ℤ} (isOwn : own.contains operation.function = true)
    (notOwn : own.contains .strerror = false)
    (rest : ∀ result, (next result ()).Replies results own (some result) (fun _ => True) Q) :
    (lprintf enter >>= fun _ => perform operation >>= fun result =>
      lprintf (leave result) >>= fun _ => errno >>= fun errnum =>
      lerror (ret result) errnum >>= next result).Replies results own earlier P Q := by
  apply replies_lprintf
  apply replies_own isOwn
  intro result
  apply replies_lprintf
  exact replies_lerror_errno notOwn (rest result)

theorem replies_commonHandler (isOwn : own.contains operation.function = true)
    (notOwn : own.contains .strerror = false) (enter : Line) (leave sent : ℤ → Line) :
    (commonHandler id enter operation leave sent).Replies results own earlier P
      (Told CommonResp.ret OsResult.int) := by
  apply replies_call isOwn notOwn
  intro result
  apply replies_tell rfl (by decide)
  simp +decide

theorem replies_streamHandler (isOwn : own.contains operation.function = true) (enter : Line)
    (leave sent : ℤ → Line) :
    (streamHandler id enter operation leave sent).Replies results own earlier P
      (Told CommonResp.ret OsResult.int) := by
  apply replies_zeroResp
  apply replies_lprintf
  apply replies_own isOwn
  intro result
  apply replies_lprintf
  apply replies_tell rfl (by decide)
  simp +decide

theorem replies_directHandler {field : Field} {size : ℕ}
    (isOwn : own.contains operation.function = true)
    (inResp : field.region = .resp ∧ 8 ≤ field.off) (large : field.off + field.size ≤ size)
    (enter leave : Line) (sent : ℤ → Line) :
    (directHandler id field size enter operation leave sent).Replies results own earlier P
      (Told field OsResult.ret) := by
  apply replies_zeroResp
  apply replies_lprintf
  apply replies_own isOwn
  intro result
  apply replies_storeInt (Holds field result.ret) (fun memory _ => holds_stored _ _ memory)
  apply replies_lprintf
  apply replies_setRspBase [field]
  · simpa using inResp
  · exact fun memory memory' holds same => holds.agree same (List.mem_singleton_self _)
  · have header : respErrnum.off + respErrnum.size ≤ size := by
      have front : respErrnum.off + respErrnum.size = 8 := rfl
      omega
    simp [header, large]

theorem replies_handleHandler (isOwn : own.contains operation.function = true) (enter : Line)
    (leave : OsResult → Line) (sent : ℤ → Line) :
    (handleHandler id enter operation leave sent).Replies results own earlier P
      (fun _ _ => True) := by
  apply replies_zeroResp
  apply replies_lprintf
  apply replies_own isOwn
  intro result
  apply replies_lprintf
  apply replies_storeInt (fun _ => True) (fun _ _ => trivial)
  apply replies_setRspBase [] (by simp) (fun _ _ _ _ => trivial)
  simp +decide

theorem replies_wideHandler (isOwn : own.contains operation.function = true)
    (notOwn : own.contains .streamDescriptor = false) (enter : (Value → ℤ) → Line)
    (leave sent : ℤ → Line) :
    (wideHandler id enter operation leave sent).Replies results own earlier P
      (Told CommonResp.ret OsResult.int) := by
  apply replies_other notOwn
  intro streams
  apply replies_lprintf
  apply replies_own isOwn
  intro result
  apply replies_lprintf
  apply replies_tell rfl (by decide)
  simp +decide

theorem replies_sizeHandler (isOwn : own.contains operation.function = true)
    (notOwn : own.contains .strerror = false) (enter : Line) (leave sent : ℤ → Line)
    (reported : OsResult → ℤ) :
    (sizeHandler id enter operation leave reported sent).Replies results own earlier P
      (Told CsretResp.ret OsResult.long) := by
  apply replies_call isOwn notOwn
  intro result
  apply replies_tell rfl (by decide)
  simp +decide

theorem replies_transferHandler (isOwn : own.contains operation.function = true)
    (notOwn : own.contains .strerror = false) (enter : Line) (leave sent : ℤ → Line)
    (reported : OsResult → ℤ) :
    (transferHandler id enter operation leave reported sent).Replies results own earlier P
      (Told ReadResp.ret OsResult.long) := by
  apply replies_call isOwn notOwn
  intro result
  apply replies_tell rfl (by decide)
  have header : ∀ kept ∈ [respErrnum, ReadResp.ret],
      kept.off + kept.size ≤ ReadResp.size - ReadResp.buf.size := by decide
  exact spares_reply fun kept listed => Nat.le_add_right_of_le (header kept listed)

theorem replies_statHandler (isOwn : own.contains operation.function = true)
    (notOwn : own.contains .strerror = false) (enter : Line) (leave sent : ℤ → Line) :
    (statHandler id enter operation leave sent).Replies results own earlier P
      (Told StatResp.ret OsResult.int) := by
  apply replies_call isOwn notOwn
  intro result
  apply replies_storeInt (Holds StatResp.ret result.int)
    (fun memory _ => holds_stored _ _ memory)
  simp only [setStatBuff, bind_assoc]
  iterate 16
    apply replies_storeInt _ fun memory holds => Holds.overwrite holds (by decide)
      (LittleEndian.length_intBytes _ _).le
  apply replies_setRspBase [StatResp.ret] (by simp +decide)
  · exact fun memory memory' holds same => holds.agree same (List.mem_singleton_self _)
  · exact spares_reply (by decide)

theorem replies_nameHandler {function : OsCall} (isOwn : own.contains function = true)
    (notOwn : own.contains .strerror = false) (enter : Line) (leave sent : ℤ → Line) :
    (nameHandler id enter function leave sent).Replies results own earlier P
      (Told GetpeernameResp.ret OsResult.int) := by
  apply replies_call isOwn notOwn
  intro result
  apply replies_tell rfl (by decide)
  have header : ∀ kept ∈ [respErrnum, GetpeernameResp.ret],
      kept.off + kept.size ≤ GetpeernameResp.size - GetpeernameResp.addrBuf.size := by decide
  intro addrlen _
  refine ⟨by decide, fun _ => ⟨by decide, ?_⟩⟩
  exact spares_reply fun kept listed => Nat.le_add_right_of_le (header kept listed)

theorem replies_acceptReply (notOwn : own.contains .strerror = false) (addrlen addrBuf : Field)
    (leave sent : ℤ → Line) (result : OsResult) :
    (acceptReply id addrlen addrBuf leave sent result).Replies results own (some result) P
      (Told GetpeernameResp.ret OsResult.int) := by
  have header : ∀ kept ∈ [respErrnum, GetpeernameResp.ret],
      kept.off + kept.size ≤ GetpeernameResp.size - GetpeernameResp.addrlen.size := by decide
  apply replies_lprintf
  apply replies_lerror_errno notOwn
  apply replies_tell rfl (by decide)
  refine fun _ => ⟨by decide, fun length fits => ⟨by decide, ?_⟩⟩
  exact spares_reply fun kept listed => Nat.le_add_right_of_le (header kept listed)

theorem replies_acceptHandler {function : OsCall} (isOwn : own.contains function = true)
    (notOwn : own.contains .strerror = false) (enter : Line) (args : List (Mem → Value))
    (addrlen addrBuf : Field) (leave sent : ℤ → Line) :
    (acceptHandler id enter function args addrlen addrBuf leave sent).Replies results own earlier P
      (Told GetpeernameResp.ret OsResult.int) := by
  apply replies_lprintf
  apply replies_test
  intro withAddress
  apply replies_ite
  · intro _
    apply replies_own isOwn
    exact replies_acceptReply notOwn addrlen addrBuf leave sent
  · intro _
    apply replies_own isOwn
    exact replies_acceptReply notOwn addrlen addrBuf leave sent

theorem spares_printHost {fields : List Field} {next : Unit → Program ℤ}
    (rest : (next ()).Spares fields) (host : Option Hostent) :
    (printHost host >>= next).Spares fields := by
  cases host with
  | none => exact rest
  | some host => exact spares_printLines rest _

theorem replies_hostHandler (isOwn : own.contains operation.function = true)
    (notOwn : own.contains .strerror = false) (enter : Line) (leave sent : ℤ → Line) :
    (hostHandler id enter operation leave sent).Replies results own earlier P
      (fun _ _ => True) := by
  have header : ∀ kept ∈ [respErrnum],
      kept.off + kept.size ≤ GethostbyaddrResp.size - GethostbyaddrResp.buf.size := by decide
  apply replies_call isOwn notOwn
  intro result
  apply replies_setRspBase [] (by simp) (fun _ _ _ _ => trivial)
  apply spares_printHost
  cases result.host with
  | none => exact ⟨by decide, spares_reply header⟩
  | some host =>
      refine ⟨by decide, by decide, by decide, ?_⟩
      exact spares_reply fun kept listed => Nat.le_add_right_of_le (header kept listed)

end Bodies

/-! ## Handlers with a body of their own -/

section Handlers

variable {results : ℕ → OsResult} {P : Mem → Prop}

theorem replies_ioctl : rpmsgHandleIoctl.Replies results [.ioctl] none P
    (Told IoctlResp.ret OsResult.int) := by
  apply replies_call rfl rfl
  intro result
  apply replies_storeInt (Holds IoctlResp.ret result.int) (fun memory _ => holds_stored _ _ memory)
  apply replies_assign (Holds IoctlResp.ret result.int)
  · exact fun memory holds => holds.overwrite (by decide) (length_load _ _ _).le
  apply replies_setRspBase [IoctlResp.ret] (by simp +decide)
  · exact fun memory memory' holds same => holds.agree same (List.mem_singleton_self _)
  -- a length that fits the array leaves the header in the frame
  have bound : IoctlResp.buf.size = 432 := rfl
  have sizes : IoctlResp.size - IoctlReq.buf.size = 24 := rfl
  have header : ∀ kept ∈ [respErrnum, IoctlResp.ret], kept.off + kept.size ≤ 24 := by decide
  have inFrame : ∀ len, len ≤ IoctlResp.buf.size → ∀ kept ∈ [respErrnum, IoctlResp.ret],
      kept.off + kept.size ≤ (IoctlResp.size - IoctlReq.buf.size + len) % 2 ^ 64 := by
    intro len fits kept listed
    have inHeader := header kept listed
    omega
  rw [spares_peekNat]
  intro len
  rw [spares_ite]
  refine ⟨fun _ fits => ⟨by decide, spares_reply (inFrame _ fits)⟩, fun zero => ?_⟩
  exact spares_reply (inFrame _ (by omega))

theorem replies_getdents64Reply {own : List OsCall} {Q : Option OsResult → Mem → Prop}
    (notOwn : own.contains .strerror = false) {result : OsResult} {ret : ℤ}
    (gives : ∀ memory, Holds Getdents64Resp.ret ret memory → Q (some result) memory) :
    (getdents64Reply ret).Replies results own (some result) P Q := by
  have header : ∀ kept ∈ [respErrnum, Getdents64Resp.ret],
      kept.off + kept.size ≤ Getdents64Resp.size - Getdents64Resp.buf.size := by decide
  apply replies_storeInt (Holds Getdents64Resp.ret ret) (fun memory _ => holds_stored _ _ memory)
  apply replies_lerror_errno notOwn
  apply replies_setRspBase [Getdents64Resp.ret] (by simp +decide)
  · exact fun memory memory' holds same =>
      gives memory' (holds.agree same (List.mem_singleton_self _))
  intro position
  refine ⟨by decide, ?_⟩
  exact spares_reply fun kept listed => Nat.le_add_right_of_le (header kept listed)

/-- The result of `getdents64`, or -1 for a failed `lseek`. -/
def Getdents64Told : Option OsResult → Mem → Prop
  | some result, memory => Holds Getdents64Resp.ret result.int memory ∨
      result.long < 0 ∧ Holds Getdents64Resp.ret (-1) memory
  | none, _ => True

theorem replies_getdents64From {earlier : Option OsResult} {off : ℤ}
    (sought : off < 0 → ∃ result : OsResult, earlier = some result ∧ result.long < 0) :
    (getdents64From off).Replies results [.lseek, .getdents64] earlier P Getdents64Told := by
  apply replies_ite
  · intro failed
    rcases sought failed with ⟨result, rfl, negative⟩
    apply replies_lprintf
    apply replies_getdents64Reply rfl
    exact fun memory holds => Or.inr ⟨negative, holds⟩
  · intro _
    apply replies_own rfl
    intro result
    apply replies_lprintf
    apply replies_getdents64Reply rfl
    exact fun memory holds => Or.inl holds

theorem replies_getdents64 : rpmsgHandleGetdents64.Replies results [.lseek, .getdents64] none P
    Getdents64Told := by
  rw [rpmsgHandleGetdents64]
  apply replies_lprintf
  apply replies_test
  intro atCurrent
  apply replies_ite
  · intro _
    exact replies_getdents64From fun negative => absurd negative (lt_irrefl 0)
  · intro _
    apply replies_own rfl
    intro result
    exact replies_getdents64From fun negative => ⟨result, rfl, negative⟩

theorem replies_getcwd : rpmsgHandleGetcwd.Replies results [.getcwd] none P
    (fun _ _ => True) := by
  have header : ∀ kept ∈ [respErrnum],
      kept.off + kept.size ≤ GetcwdResp.size - GetcwdResp.buf.size := by decide
  have reply : ∀ result : OsResult, getcwdReply.Replies results [.getcwd] (some result)
      (fun _ => True) (fun _ _ => True) := by
    intro result
    apply replies_setRspBase [] (by simp) (fun _ _ _ _ => trivial)
    intro size
    exact spares_reply fun kept listed => Nat.le_add_right_of_le (header kept listed)
  apply replies_test
  intro tooLarge
  apply replies_ite
  · exact fun _ => replies_pure _
  · intro _
    apply replies_lprintf
    apply replies_own rfl
    intro result
    apply replies_ite
    · intro _
      apply replies_lprintf
      exact replies_storeInt _ (fun _ _ => trivial) (reply result)
    · intro _
      apply replies_errno
      intro errnum
      apply replies_other rfl
      intro message
      apply replies_lprintf
      exact replies_storeInt _ (fun _ _ => trivial) (reply result)

theorem replies_pipe : rpmsgHandlePipe.Replies results [.pipe] none P
    (Told PipeResp.ret OsResult.int) := by
  apply replies_call rfl rfl
  intro result
  apply replies_tell rfl (by decide)
  exact spares_reply (by decide)

theorem replies_copyVectors {own : List OsCall} {earlier : Option OsResult}
    {Q : Option OsResult → Mem → Prop} (notOwn : own.contains .malloc = false)
    {next : Unit → Program ℤ} (rest : (next ()).Replies results own earlier (fun _ => True) Q)
    (remaining i : ℕ) :
    (copyVectors remaining i >>= next).Replies results own earlier (fun _ => True) Q := by
  induction remaining generalizing i with
  | zero => exact rest
  | succ remaining ih =>
      rw [copyVectors, bind_assoc]
      apply replies_other notOwn
      intro block
      rw [bind_assoc]
      apply replies_peekNat
      intro len
      rw [Program.ite_bind]
      apply replies_ite
      · exact fun _ => replies_fault
      · intro _
        rw [bind_assoc]
        exact replies_memcpy _ (fun _ _ _ => trivial) (ih (i + 1))

theorem replies_writev : rpmsgHandleWritev.Replies results [.writev] none P
    (Told CsretResp.ret OsResult.int) := by
  apply replies_lprintf
  apply replies_peekInt
  intro iovcnt
  apply replies_ite
  · exact fun _ => replies_fault
  · intro _
    apply Program.Replies.mono _ (fun _ _ => trivial)
    apply replies_copyVectors rfl
    apply replies_own rfl
    intro result
    apply replies_lprintf
    apply replies_lerror_errno rfl
    apply replies_tell rfl (by decide)
    exact spares_reply (by decide)

theorem replies_fclose : rpmsgHandleFclose.Replies results [.fclose] none P
    (Told CommonResp.ret OsResult.int) := by
  apply replies_zeroResp
  apply replies_call rfl rfl
  intro result
  apply replies_tell rfl (by decide)
  exact spares_reply (by decide)

/-- The number of items as a value of `ret`. -/
def items (result : OsResult) : ℤ := result.count

theorem replies_fread : rpmsgHandleFread.Replies results [.fread] none P
    (Told ReadResp.ret items) := by
  have header : ∀ kept ∈ [respErrnum, ReadResp.ret],
      kept.off + kept.size ≤ ReadResp.size - ReadResp.buf.size := by decide
  apply replies_zeroResp
  apply replies_lprintf
  apply replies_own rfl
  intro result
  apply replies_lprintf
  apply replies_tell rfl (by decide)
  exact spares_reply fun kept listed => Nat.le_add_right_of_le (header kept listed)

theorem replies_fwrite : rpmsgHandleFwrite.Replies results [.fwrite] none P
    (Told CsretResp.ret items) := by
  apply replies_zeroResp
  apply replies_lprintf
  apply replies_own rfl
  intro result
  apply replies_lprintf
  apply replies_tell rfl (by decide)
  exact spares_reply (by decide)

theorem replies_fgets : rpmsgHandleFgets.Replies results [.fgets] none P
    (fun _ _ => True) := by
  apply replies_zeroResp
  apply replies_lprintf
  apply replies_own rfl
  intro result
  apply replies_lprintf
  apply replies_storeInt (fun _ => True) (fun _ _ => trivial)
  apply replies_lprintf
  apply replies_setRspBase [] (by simp) (fun _ _ _ _ => trivial)
  exact spares_reply (by decide)

theorem replies_tmpfile : rpmsgHandleTmpfile.Replies results [.tmpfile] none P
    (fun _ _ => True) := by
  apply replies_zeroResp
  apply replies_lprintf
  apply replies_own rfl
  intro result
  apply replies_storeInt (fun _ => True) (fun _ _ => trivial)
  apply replies_setRspBase [] (by simp) (fun _ _ _ _ => trivial)
  exact spares_reply (by decide)

theorem replies_fdopen : rpmsgHandleFdopen.Replies results [.fdopen] none P
    (fun _ _ => True) := by
  apply replies_call rfl rfl
  intro result
  apply replies_storeInt (fun _ => True) (fun _ _ => trivial)
  apply replies_setRspBase [] (by simp) (fun _ _ _ _ => trivial)
  exact spares_reply (by decide)

theorem replies_rpcWrite {own : List OsCall} {earlier : Option OsResult}
    {Q : Option OsResult → Mem → Prop} (array : Field) (length : Mem → ℕ) (next : ℤ → Line) :
    (do
      let ret ← rpcWrite array length
      lprintf (next ret)
      answer ret).Replies results own earlier P Q := by
  intro stack state holds frame sent
  cases sent

theorem replies_printf {own : List OsCall} : rpmsgHandlePrintf.Replies results own none P
    (fun _ _ => True) :=
  replies_rpcWrite _ _ _

theorem replies_fprintf {own : List OsCall} : rpmsgHandleFprintf.Replies results own none P
    (fun _ _ => True) := by
  apply replies_test
  intro isPty
  apply replies_ite
  · exact fun _ => replies_rpcWrite _ _ _
  · intro _ stack state holds frame sent
    cases sent

theorem replies_clearerr {own : List OsCall} : rpmsgHandleClearerr.Replies results own none P
    (fun _ _ => True) := by
  intro stack state holds frame sent
  cases sent

theorem replies_freeaddrinfo {own : List OsCall} :
    rpmsgHandleFreeaddrinfo.Replies results own none P (fun _ _ => True) := by
  intro stack state holds frame sent
  cases sent

theorem replies_fflush : rpmsgHandleFflush.Replies results [.fflush] none P
    (Told CommonResp.ret OsResult.int) := by
  apply replies_other rfl
  exact fun streams => replies_commonHandler rfl rfl _ _ _

theorem replies_putc : rpmsgHandlePutc.Replies results [.putc] none P
    (Told CommonResp.ret OsResult.int) := by
  apply replies_other rfl
  exact fun streams => replies_commonHandler rfl rfl _ _ _

theorem replies_ungetwc : rpmsgHandleUngetwc.Replies results [.ungetwc] none P
    (Told CommonResp.ret fun _ => 0) := by
  apply replies_other rfl
  intro streams
  apply replies_lprintf
  apply replies_own rfl
  intro result
  apply replies_lprintf
  apply replies_tell rfl (by decide)
  exact spares_reply (by decide)

theorem replies_fscanfx : rpmsgHandleFscanfx.Replies results [.fscanf] none P
    (Told FscanfxResp.ret OsResult.int) := by
  apply replies_zeroResp
  apply replies_call rfl rfl
  intro result
  apply replies_tell rfl (by decide)
  exact spares_reply (by decide)

theorem replies_poll : rpmsgHandlePoll.Replies results [.poll] none P
    (Told PollResp.ret OsResult.int) := by
  apply replies_call rfl rfl
  intro result
  apply replies_tell rfl (by decide)
  exact fun nfds fits => ⟨by decide, spares_reply (by decide)⟩

theorem replies_select : rpmsgHandleSelect.Replies results [.select] none P
    (Told SelectResp.ret OsResult.int) := by
  apply replies_call rfl rfl
  intro result
  apply replies_tell rfl (by decide)
  refine fun _ => ⟨by decide, fun _ => ⟨by decide, fun _ => ⟨by decide, fun _ => ⟨by decide, ?_⟩⟩⟩⟩
  exact spares_reply (by decide)

theorem replies_gethostnameReply (result : OsResult) (len : ℤ) :
    (gethostnameReply result.int len).Replies results [.gethostname] (some result) P
      (Told GetpeernameResp.ret OsResult.int) := by
  have header : ∀ kept ∈ [respErrnum, GetpeernameResp.ret],
      kept.off + kept.size ≤ GetpeernameResp.size - GetpeernameResp.addrBuf.size := by decide
  apply replies_storeInt (fun _ => True) (fun _ _ => trivial)
  apply replies_tell rfl (by decide)
  exact spares_reply fun kept listed => Nat.le_add_right_of_le (header kept listed)

theorem replies_gethostname : rpmsgHandleGethostname.Replies results [.gethostname] none P
    (Told GetpeernameResp.ret OsResult.int) := by
  have call : gethostnameCall.Replies results [.gethostname] none (fun _ => True)
      (Told GetpeernameResp.ret OsResult.int) := by
    apply replies_own rfl
    intro result
    apply replies_lprintf
    apply replies_lerror_errno rfl
    apply replies_ite
    · intro _
      apply replies_peek
      exact fun len => replies_gethostnameReply result len
    · exact fun _ => replies_gethostnameReply result 0
  rw [rpmsgHandleGethostname]
  apply replies_lprintf
  apply replies_test
  intro tooLong
  apply replies_ite
  · exact fun _ => replies_storeInt _ (fun _ _ => trivial) call
  · exact fun _ => call.mono fun _ _ => trivial

/-- As `Told`, with `-RPC_EOVERLONG` in place of the result if the length in the response exceeds
the array. -/
def ToldUnlessOverlong (field length : Field) (limit : ℕ) (told : OsResult → ℤ) :
    Option OsResult → Mem → Prop
  | some result, memory =>
      Holds field (if limit < length.nat memory then -rpcEoverlong else told result) memory
  | none, _ => True

theorem nat_of_agree {fields : List Field} {memory memory' : Mem}
    (same : Agree fields memory memory') {field : Field} (listed : field ∈ fields) :
    field.nat memory' = field.nat memory := by
  rw [Extent.nat, Extent.nat, same field listed]

theorem replies_getsockoptReply (result : OsResult) (tooLong : Bool) (size : ℕ)
    (header : ∀ kept ∈ [respErrnum, GetpeernameResp.ret, GetpeernameResp.addrlen],
      kept.off + kept.size ≤ size) :
    (do
      let ret := if tooLong then -rpcEoverlong else result.int
      lprintf (line "==getsockopt(%d)\n" [.int ret])
      lerror ret (← errno)
      storeInt GetpeernameResp.ret ret
      assign GetpeernameResp.addrlen GetsockoptReq.optlen
      setRspBase
      let ret ← rpcServerSend getsockoptId .rpmsgRpcOk size
      lprintf (line "==getsockopt send rsp(%d)\n" [.int ret])
      answer ret).Replies results [.getsockopt] (some result)
      (fun memory => GetpeernameResp.addrBuf.size < GetsockoptReq.optlen.nat memory ↔ tooLong)
      (ToldUnlessOverlong GetpeernameResp.ret GetpeernameResp.addrlen
        GetpeernameResp.addrBuf.size OsResult.int) := by
  apply replies_lprintf
  apply replies_lerror_errno rfl
  apply replies_storeInt (fun memory =>
    (GetpeernameResp.addrBuf.size < GetsockoptReq.optlen.nat memory ↔ tooLong) ∧
      Holds GetpeernameResp.ret (if tooLong then -rpcEoverlong else result.int) memory)
  · intro memory decided
    refine ⟨?_, holds_stored _ _ memory⟩
    rw [Extent.nat_overwrite_of_apart (by decide) (LittleEndian.length_intBytes _ _).le]
    exact decided
  apply replies_assign (fun memory =>
    (GetpeernameResp.addrBuf.size < GetpeernameResp.addrlen.nat memory ↔ tooLong) ∧
      Holds GetpeernameResp.ret (if tooLong then -rpcEoverlong else result.int) memory)
  · rintro memory ⟨decided, holds⟩
    refine ⟨?_, holds.overwrite (by decide) (length_load _ _ _).le⟩
    have copied : GetpeernameResp.addrlen.nat (Cells.overwrite memory GetpeernameResp.addrlen
        (load memory GetsockoptReq.optlen GetpeernameResp.addrlen.size)) =
          GetsockoptReq.optlen.nat memory := Extent.nat_overwrite_load memory rfl
    rw [copied]
    exact decided
  apply replies_setRspBase [GetpeernameResp.ret, GetpeernameResp.addrlen] (by simp +decide)
  · rintro memory memory' ⟨decided, holds⟩ same
    have length := nat_of_agree same (List.mem_cons_of_mem _ (List.mem_singleton_self _))
    have kept := holds.agree same List.mem_cons_self
    rw [← length] at decided
    simp only [ToldUnlessOverlong, decided]
    exact kept
  · exact spares_reply header

theorem replies_getsockopt : rpmsgHandleGetsockopt.Replies results [.getsockopt] none P
    (ToldUnlessOverlong GetpeernameResp.ret GetpeernameResp.addrlen
      GetpeernameResp.addrBuf.size OsResult.int) := by
  have header : ∀ kept ∈ [respErrnum, GetpeernameResp.ret, GetpeernameResp.addrlen],
      kept.off + kept.size ≤ GetpeernameResp.size - GetpeernameResp.addrBuf.size := by decide
  apply replies_lprintf
  apply replies_own rfl
  intro result
  apply replies_test
  intro tooLong
  have decided : ∀ memory, True ∧ decide (GetpeernameResp.addrBuf.size <
      GetsockoptReq.optlen.nat memory) = tooLong →
        (GetpeernameResp.addrBuf.size < GetsockoptReq.optlen.nat memory ↔ tooLong) := by
    rintro memory ⟨-, rfl⟩
    simp
  apply Program.Replies.mono _ decided
  cases tooLong with
  | true => exact replies_getsockoptReply result true _ header
  | false =>
      apply replies_peekNat
      intro optlen
      exact replies_getsockoptReply result false _
        fun kept listed => Nat.le_add_right_of_le (header kept listed)

theorem spares_recvfromReply (sret : ℤ) : (recvfromReply sret).Spares [respErrnum] := by
  have header : ∀ kept ∈ [respErrnum],
      kept.off + kept.size ≤ RecvfromResp.size - RecvfromResp.buf.size := by decide
  rw [recvfromReply, spares_assign, spares_test]
  refine ⟨by decide, ?_⟩
  intro tooLong
  rw [spares_ite]
  refine ⟨fun _ => ⟨by decide, (spares_lprintf _ _).2 (spares_reply header)⟩, fun _ => ?_⟩
  refine fun length _ => ⟨by decide, spares_reply fun kept listed => ?_⟩
  exact Nat.le_add_right_of_le (header kept listed)

theorem shows_recvfromReply (result : OsResult) :
    (recvfromReply result.long).Shows results (Holds RecvfromResp.ret result.long)
      (ToldUnlessOverlong RecvfromResp.ret RecvfromResp.addrlen RecvfromResp.addr.size
        OsResult.long (some result)) := by
  have header : ∀ kept ∈ [RecvfromResp.ret, RecvfromResp.addrlen],
      kept.off + kept.size ≤ RecvfromResp.size - RecvfromResp.buf.size := by decide
  have inResp : ∀ kept ∈ [RecvfromResp.ret, RecvfromResp.addrlen], kept.region = .resp := by
    decide
  have length : RecvfromResp.addrlen ∈ [RecvfromResp.ret, RecvfromResp.addrlen] :=
    List.mem_cons_of_mem _ (List.mem_singleton_self _)
  refine shows_assign (fun memory => Holds RecvfromResp.ret result.long memory ∧
    RecvfromResp.addrlen.nat memory = RecvfromReq.addrlen.nat memory) ?_
    (shows_test fun tooLong => ?_)
  · intro memory holds
    refine ⟨holds.overwrite (by decide) (length_load _ _ _).le, ?_⟩
    have copied : RecvfromResp.addrlen.nat (Cells.overwrite memory RecvfromResp.addrlen
        (load memory RecvfromReq.addrlen RecvfromResp.addrlen.size)) =
          RecvfromReq.addrlen.nat memory := Extent.nat_overwrite_load memory rfl
    rw [copied, Extent.nat_overwrite_of_apart (by decide) (length_load _ _ _).le]
  · cases tooLong with
    | true =>
        refine shows_storeInt (fun memory => Holds RecvfromResp.ret (-rpcEoverlong) memory ∧
          RecvfromResp.addr.size < RecvfromResp.addrlen.nat memory) ?_ ?_
        · rintro memory ⟨⟨-, sameLength⟩, long⟩
          refine ⟨holds_stored _ _ memory, ?_⟩
          rw [Extent.nat_overwrite_of_apart (by decide) (LittleEndian.length_intBytes _ _).le,
            sameLength]
          exact of_decide_eq_true long
        · refine Program.Spares.shows ((spares_lprintf _ _).2 (spares_reply header)) inResp ?_
          rintro memory memory' ⟨holds, long⟩ same
          rw [← nat_of_agree same length] at long
          rw [ToldUnlessOverlong, if_pos long]
          exact holds.agree same List.mem_cons_self
    | false =>
        refine Program.Spares.shows (fun count _ => ⟨by decide, spares_reply fun kept listed =>
          Nat.le_add_right_of_le (header kept listed)⟩) inResp ?_
        rintro memory memory' ⟨⟨holds, sameLength⟩, short⟩ same
        have within : ¬RecvfromResp.addr.size < RecvfromResp.addrlen.nat memory := by
          rw [sameLength]
          exact of_decide_eq_false short
        rw [← nat_of_agree same length] at within
        rw [ToldUnlessOverlong, if_neg within]
        exact holds.agree same List.mem_cons_self

theorem replies_recvfrom : rpmsgHandleRecvfrom.Replies results [.recvfrom] none P
    (ToldUnlessOverlong RecvfromResp.ret RecvfromResp.addrlen RecvfromResp.addr.size
      OsResult.long) := by
  apply replies_call rfl rfl
  intro result
  refine replies_storeInt (Holds RecvfromResp.ret result.long)
    (fun memory _ => holds_stored _ _ memory) (replies_setRspBase_shows ?_ ?_
      (spares_recvfromReply result.long) (shows_recvfromReply result))
  · exact fun memory data fits holds => holds.overwrite (by decide) fits
  · exact fun memory data fits holds => holds.overwrite (by decide) fits

theorem replies_getaddrinfoResponse {earlier : Option OsResult}
    {Q : Option OsResult → Mem → Prop} {size : ℕ} (large : 24 ≤ size) {ret : ℤ}
    (gives : ∀ memory, Holds GetaddrinfoResp.ret ret memory → Q earlier memory)
    (infos : List Addrinfo) :
    (getaddrinfoResponse ret size infos).Replies results [.getaddrinfo] earlier P Q := by
  have header : ∀ kept ∈ [respErrnum, GetaddrinfoResp.ret], kept.off + kept.size ≤ 24 := by decide
  have tail : (do
      storeInt GetaddrinfoResp.ret ret
      setRspBase
      let ret ← rpcServerSend getaddrinfoId .rpmsgRpcOk size
      lprintf (line "==getaddrinfo send rsp:%d,%d\n" [.int size, .int ret])
      answer ret).Replies results [.getaddrinfo] earlier (fun _ => True) Q := by
    apply replies_storeInt (Holds GetaddrinfoResp.ret ret) (fun memory _ => holds_stored _ _ memory)
    apply replies_setRspBase [GetaddrinfoResp.ret] (by simp +decide)
    · exact fun memory memory' holds same =>
        gives memory' (holds.agree same (List.mem_singleton_self _))
    · exact spares_reply fun kept listed => (header kept listed).trans large
  apply replies_ite
  · exact fun _ => replies_other rfl fun _ => tail
  · exact fun _ => tail.mono fun _ _ => trivial

theorem replies_getaddrinfoCall : getaddrinfoCall.Replies results [.getaddrinfo] none P
    (Told GetaddrinfoResp.ret OsResult.int) := by
  apply replies_peekInt
  intro node
  apply replies_peekInt
  intro service
  apply replies_peekInt
  intro buflen
  apply replies_lprintf
  apply replies_own rfl
  intro result
  apply replies_lprintf
  apply replies_ite
  · exact fun _ => replies_getaddrinfoResponse (by decide) (fun _ holds => holds) _
  · intro _
    apply replies_ite
    · intro _
      apply replies_storeInt (fun _ => True) (fun _ _ => trivial)
      apply replies_storeInt (fun _ => True) (fun _ _ => trivial)
      exact replies_getaddrinfoResponse (by decide) (fun _ holds => holds) _
    · intro _
      apply replies_store (fun _ => True) (fun _ _ _ => trivial)
      apply replies_storeInt (fun _ => True) (fun _ _ => trivial)
      apply replies_storeInt (fun _ => True) (fun _ _ => trivial)
      exact replies_getaddrinfoResponse (Nat.le_add_right _ _) (fun _ holds => holds) _

theorem replies_getaddrinfo : rpmsgHandleGetaddrinfo.Replies results [.getaddrinfo] none P
    (Told GetaddrinfoResp.ret OsResult.int) := by
  apply replies_test
  intro rejected
  apply replies_ite
  · exact fun _ => replies_pure _
  · intro _
    apply replies_test
    intro hasHints
    apply replies_ite
    · intro _
      apply replies_other rfl
      intro memory
      apply replies_peek
      intro decoded
      apply replies_ite
      · exact fun _ => replies_fault
      · intro _
        apply replies_ite
        · intro _
          apply replies_lprintf
          exact replies_getaddrinfoResponse (by decide) (fun _ _ => trivial) _
        · exact fun _ => replies_getaddrinfoCall
    · exact fun _ => replies_getaddrinfoCall

theorem replies_storeInterfaces {own : List OsCall} {earlier : Option OsResult} {initial : Mem}
    {Q : Option OsResult → Mem → Prop} {next : Unit → Program ℤ}
    (rest : (next ()).Replies results own earlier (Agree [IfNameindexResp.ret] initial) Q)
    (interfaces : List (ℕ × CString)) (i : ℕ) :
    (storeInterfaces interfaces i >>= next).Replies results own earlier
      (Agree [IfNameindexResp.ret] initial) Q := by
  have apart : ∀ off size, 16 ≤ off →
      ∀ kept ∈ [IfNameindexResp.ret], kept.Apart (respField off size) := by
    intro off size behind kept listed
    rw [List.mem_singleton.1 listed]
    exact Or.inr (Or.inl behind)
  induction interfaces generalizing i with
  | nil => exact rest
  | cons interface interfaces ih =>
      rw [storeInterfaces]
      split
      · exact replies_fault
      · simp only [bind_assoc]
        refine replies_storeInt (Agree [IfNameindexResp.ret] initial) ?_
          (replies_store (Agree [IfNameindexResp.ret] initial) ?_ (ih (i + 1)))
        · exact fun memory same => same.trans
            (agree_overwrite (apart _ _ (by omega)) memory (LittleEndian.length_intBytes _ _).le)
        · exact fun fits memory same => same.trans
            (agree_overwrite (apart _ _ (by omega)) memory fits)

theorem replies_ifnameindex {initial : Mem} :
    rpmsgHandleIfnameindex.Replies results [.ifNameindex] none (· = initial)
      (fun _ => Agree [IfNameindexResp.ret] initial) := by
  apply replies_lprintf
  apply replies_perform (fun _ => Agree [IfNameindexResp.ret] initial)
  · rintro memory result rfl
    exact Agree.refl _ _
  intro result
  apply replies_storeInterfaces
  apply replies_storeInt (Agree [IfNameindexResp.ret] initial)
  · exact fun memory same => same.trans
      (agree_overwrite (by decide) memory (LittleEndian.length_intBytes _ _).le)
  apply replies_setRspBase [IfNameindexResp.ret] (by simp +decide)
  · exact fun memory memory' before after => before.trans after
  · exact ⟨by decide, fun _ _ => trivial⟩

theorem replies_gaistrerror : rpmsgHandleGaistrerror.Replies results [.gaiStrerror] none P
    (fun _ _ => True) := by
  have response : ∀ {Q : Mem → Prop} {earlier : Option OsResult} (isNull : ℤ),
      (gaistrerrorResponse isNull).Replies results [.gaiStrerror] earlier Q (fun _ _ => True) := by
    intro Q earlier isNull
    apply replies_storeInt (fun _ => True) (fun _ _ => trivial)
    apply replies_setRspBase [] (by simp) (fun _ _ _ _ => trivial)
    exact spares_reply (by decide)
  apply replies_lprintf
  apply replies_own rfl
  intro result
  cases result.text with
  | some text =>
      apply replies_store (fun _ => True) (fun _ _ _ => trivial)
      apply replies_lprintf
      exact response 0
  | none =>
      apply replies_errno
      intro errnum
      apply replies_other rfl
      intro message
      apply replies_lprintf
      exact response 1

end Handlers

/-! ## All handlers -/

/-- The calls that the handler is for. -/
def Handler.ownCalls : Handler → List OsCall
  | .handleOpen => [.openFile]
  | .handleRead => [.read]
  | .handleWrite => [.write]
  | .handleClose => [.close]
  | .handleLseek => [.lseek]
  | .handleFcntl => [.fcntl]
  | .handleIoctl => [.ioctl]
  | .handleUnlink => [.unlink]
  | .handleGetdents64 => [.lseek, .getdents64]
  | .handleFreeaddrinfo => [.freeaddrinfo]
  | .handleGetaddrinfo => [.getaddrinfo]
  | .handleGethostbyaddr => [.gethostbyaddr]
  | .handleGethostbyname => [.gethostbyname]
  | .handlePoll => [.poll]
  | .handleGetpeername => [.getpeername]
  | .handleGethostname => [.gethostname]
  | .handleGetsockname => [.getsockname]
  | .handleGetsockopt => [.getsockopt]
  | .handleSelect => [.select]
  | .handleAccept => [.accept]
  | .handleBind => [.bind]
  | .handleConnect => [.connect]
  | .handleListen => [.listen]
  | .handleRecv => [.recv]
  | .handleRecvfrom => [.recvfrom]
  | .handleSend => [.send]
  | .handleSendto => [.sendto]
  | .handleSetsockopt => [.setsockopt]
  | .handleShutdown => [.shutdown]
  | .handleSocket => [.socket]
  | .handleFopen => [.fopen]
  | .handleFclose => [.fclose]
  | .handleFread => [.fread]
  | .handleFwrite => [.fwrite]
  | .handleFreopen => [.freopen]
  | .handleFputs => [.fputs]
  | .handleFgets => [.fgets]
  | .handleFeof => [.feof]
  | .handleFprintf => [.fwrite]
  | .handleGetc => [.getc]
  | .handleFerror => [.ferror]
  | .handleGetcUnlocked => [.getcUnlocked]
  | .handlePclose => [.pclose]
  | .handleTmpfile => [.tmpfile]
  | .handleClearerr => [.clearerr]
  | .handlePopen => [.popen]
  | .handleUngetc => [.ungetc]
  | .handleFseeko => [.fseeko]
  | .handleFtello => [.ftello]
  | .handleFseek => [.fseek]
  | .handleFtell => [.ftello]
  | .handleRename => [.rename]
  | .handleRemove => [.remove]
  | .handleMkstemp => [.mkstemp]
  | .handleStat => [.stat]
  | .handleLstat => [.lstat]
  | .handleGetcwd => [.getcwd]
  | .handlePrintf => [.fwrite, .fflush]
  | .handleFflush => [.fflush]
  | .handleGetwc => [.getwc]
  | .handlePutwc => [.putwc]
  | .handlePutc => [.putc]
  | .handleUngetwc => [.ungetwc]
  | .handleFstat => [.fstat]
  | .handleFdopen => [.fdopen]
  | .handleFileno => [.fileno]
  | .handleSetvbuf => [.setvbuf]
  | .handleSystem => [.system]
  | .handleReadlink => [.readlink]
  | .handleAccess => [.access]
  | .handleDup2 => [.dup2]
  | .handleMkfifo => [.mkfifo]
  | .handleChmod => [.chmod]
  | .handleChdir => [.chdir]
  | .handleMkdir => [.mkdir]
  | .handleRmdir => [.rmdir]
  | .handlePipe => [.pipe]
  | .handleFscanfx => [.fscanf]
  | .handleIfnameindex => [.ifNameindex]
  | .handlePutchar => [.putchar]
  | .handleGaistrerror => [.gaiStrerror]
  | .handleAccept4 => [.accept4]
  | .handleWritev => [.writev]

/-- The field `ret` of the response and what the handler makes of its call's result for it, if the
response has one and the handler always fills it so. -/
def Handler.told : Handler → Option (Field × (OsResult → ℤ))
  | .handleOpen | .handleClose | .handleFcntl | .handleUnlink | .handleBind | .handleConnect
  | .handleListen | .handleSetsockopt | .handleShutdown | .handleSocket | .handleFputs
  | .handleFeof | .handleGetc | .handleFerror | .handleGetcUnlocked | .handlePclose
  | .handleFileno | .handleSetvbuf | .handleSystem | .handleAccess | .handleDup2
  | .handleMkfifo | .handleChmod | .handleChdir | .handleMkdir | .handleRmdir
  | .handlePutchar | .handleFclose | .handleFflush | .handlePutc | .handleGetwc
  | .handlePutwc => some (CommonResp.ret, OsResult.int)
  | .handleUngetwc => some (CommonResp.ret, fun _ => 0)
  | .handleUngetc | .handleFseeko | .handleFseek | .handleRename | .handleRemove
  | .handleMkstemp => some (CommonResp.ret, OsResult.ret)
  | .handleFtello | .handleFtell => some (CsretResp.ret, OsResult.ret)
  | .handleWrite | .handleLseek | .handleSend | .handleSendto => some (CsretResp.ret, OsResult.long)
  | .handleWritev => some (CsretResp.ret, OsResult.int)
  | .handleFwrite => some (CsretResp.ret, items)
  | .handleFread => some (ReadResp.ret, items)
  | .handleRead | .handleRecv | .handleReadlink => some (ReadResp.ret, OsResult.long)
  | .handleIoctl => some (IoctlResp.ret, OsResult.int)
  | .handleStat | .handleLstat | .handleFstat => some (StatResp.ret, OsResult.int)
  | .handleGetpeername | .handleGetsockname | .handleGethostname | .handleAccept
  | .handleAccept4 => some (GetpeernameResp.ret, OsResult.int)
  | .handlePoll => some (PollResp.ret, OsResult.int)
  | .handleSelect => some (SelectResp.ret, OsResult.int)
  | .handlePipe => some (PipeResp.ret, OsResult.int)
  | .handleFscanfx => some (FscanfxResp.ret, OsResult.int)
  | .handleGetaddrinfo => some (GetaddrinfoResp.ret, OsResult.int)
  | _ => none

/-- What a response of the handler says, from the memory that it was entered with. -/
def Handler.Reports (handler : Handler) (initial : Mem) : Option OsResult → Mem → Prop :=
  match handler with
  | .handleGetdents64 => Getdents64Told
  | .handleGetsockopt => ToldUnlessOverlong GetpeernameResp.ret GetpeernameResp.addrlen
      GetpeernameResp.addrBuf.size OsResult.int
  | .handleRecvfrom => ToldUnlessOverlong RecvfromResp.ret RecvfromResp.addrlen
      RecvfromResp.addr.size OsResult.long
  | .handleIfnameindex => fun _ => Agree [IfNameindexResp.ret] initial
  | handler => handler.told.elim (fun _ _ => True) fun (field, told) => Told field told

theorem Handler.replies {results : ℕ → OsResult} (handler : Handler) (initial : Mem) :
    handler.body.Replies results handler.ownCalls none (· = initial)
      (handler.Reports initial) := by
  unfold Handler.body Handler.ownCalls Handler.Reports Handler.told
  cases handler with
  | handleOpen => exact replies_commonHandler rfl rfl _ _ _
  | handleRead => exact replies_transferHandler rfl rfl _ _ _ _
  | handleWrite => exact replies_sizeHandler rfl rfl _ _ _ _
  | handleClose => exact replies_commonHandler rfl rfl _ _ _
  | handleLseek => exact replies_sizeHandler rfl rfl _ _ _ _
  | handleFcntl => exact replies_commonHandler rfl rfl _ _ _
  | handleIoctl => exact replies_ioctl
  | handleUnlink => exact replies_commonHandler rfl rfl _ _ _
  | handleGetdents64 => exact replies_getdents64
  | handleFreeaddrinfo => exact replies_freeaddrinfo
  | handleGetaddrinfo => exact replies_getaddrinfo
  | handleGethostbyaddr => exact replies_hostHandler rfl rfl _ _ _
  | handleGethostbyname => exact replies_hostHandler rfl rfl _ _ _
  | handlePoll => exact replies_poll
  | handleGetpeername => exact replies_nameHandler rfl rfl _ _ _
  | handleGethostname => exact replies_gethostname
  | handleGetsockname => exact replies_nameHandler rfl rfl _ _ _
  | handleGetsockopt => exact replies_getsockopt
  | handleSelect => exact replies_select
  | handleAccept => exact replies_acceptHandler rfl rfl _ _ _ _ _ _
  | handleBind => exact replies_commonHandler rfl rfl _ _ _
  | handleConnect => exact replies_commonHandler rfl rfl _ _ _
  | handleListen => exact replies_commonHandler rfl rfl _ _ _
  | handleRecv => exact replies_transferHandler rfl rfl _ _ _ _
  | handleRecvfrom => exact replies_recvfrom
  | handleSend => exact replies_sizeHandler rfl rfl _ _ _ _
  | handleSendto => exact replies_sizeHandler rfl rfl _ _ _ _
  | handleSetsockopt => exact replies_commonHandler rfl rfl _ _ _
  | handleShutdown => exact replies_commonHandler rfl rfl _ _ _
  | handleSocket => exact replies_commonHandler rfl rfl _ _ _
  | handleFopen => exact replies_handleHandler rfl _ _ _
  | handleFclose => exact replies_fclose
  | handleFread => exact replies_fread
  | handleFwrite => exact replies_fwrite
  | handleFreopen => exact replies_handleHandler rfl _ _ _
  | handleFputs => exact replies_streamHandler rfl _ _ _
  | handleFgets => exact replies_fgets
  | handleFeof => exact replies_streamHandler rfl _ _ _
  | handleFprintf => exact replies_fprintf
  | handleGetc => exact replies_streamHandler rfl _ _ _
  | handleFerror => exact replies_streamHandler rfl _ _ _
  | handleGetcUnlocked => exact replies_streamHandler rfl _ _ _
  | handlePclose => exact replies_streamHandler rfl _ _ _
  | handleTmpfile => exact replies_tmpfile
  | handleClearerr => exact replies_clearerr
  | handlePopen => exact replies_handleHandler rfl _ _ _
  | handleUngetc => exact replies_directHandler rfl (by decide) (by decide) _ _ _
  | handleFseeko => exact replies_directHandler rfl (by decide) (by decide) _ _ _
  | handleFtello => exact replies_directHandler rfl (by decide) (by decide) _ _ _
  | handleFseek => exact replies_directHandler rfl (by decide) (by decide) _ _ _
  | handleFtell => exact replies_directHandler rfl (by decide) (by decide) _ _ _
  | handleRename => exact replies_directHandler rfl (by decide) (by decide) _ _ _
  | handleRemove => exact replies_directHandler rfl (by decide) (by decide) _ _ _
  | handleMkstemp => exact replies_directHandler rfl (by decide) (by decide) _ _ _
  | handleStat => exact replies_statHandler rfl rfl _ _ _
  | handleLstat => exact replies_statHandler rfl rfl _ _ _
  | handleGetcwd => exact replies_getcwd
  | handlePrintf => exact replies_printf
  | handleFflush => exact replies_fflush
  | handleGetwc => exact replies_wideHandler rfl rfl _ _ _
  | handlePutwc => exact replies_wideHandler rfl rfl _ _ _
  | handlePutc => exact replies_putc
  | handleUngetwc => exact replies_ungetwc
  | handleFstat => exact replies_statHandler rfl rfl _ _ _
  | handleFdopen => exact replies_fdopen
  | handleFileno => exact replies_commonHandler rfl rfl _ _ _
  | handleSetvbuf => exact replies_commonHandler rfl rfl _ _ _
  | handleSystem => exact replies_commonHandler rfl rfl _ _ _
  | handleReadlink => exact replies_transferHandler rfl rfl _ _ _ _
  | handleAccess => exact replies_commonHandler rfl rfl _ _ _
  | handleDup2 => exact replies_commonHandler rfl rfl _ _ _
  | handleMkfifo => exact replies_commonHandler rfl rfl _ _ _
  | handleChmod => exact replies_commonHandler rfl rfl _ _ _
  | handleChdir => exact replies_commonHandler rfl rfl _ _ _
  | handleMkdir => exact replies_commonHandler rfl rfl _ _ _
  | handleRmdir => exact replies_commonHandler rfl rfl _ _ _
  | handlePipe => exact replies_pipe
  | handleFscanfx => exact replies_fscanfx
  | handleIfnameindex => exact replies_ifnameindex
  | handlePutchar => exact replies_commonHandler rfl rfl _ _ _
  | handleGaistrerror => exact replies_gaistrerror
  | handleAccept4 => exact replies_acceptHandler rfl rfl _ _ _ _ _ _
  | handleWritev => exact replies_writev

/-! ## Requests -/

/-- A request of a history, with what memory and the stack behind the log buffer hold when it
arrives. -/
structure Request where
  message : Message
  memory : Mem
  stack : ℕ → UInt8

section Requests

variable (results : ℕ → OsResult)

/-- The handler that the callback runs. -/
def Request.handler? (request : Request) : Option Handler :=
  if request.message.len ≤ rpcBufferSize then
    (findService (request.message.id % 2 ^ 32)).map RpcService.cbFunction
  else none

/-- The state in which the callback starts. -/
def Request.arrive (request : Request) (state : State) : State :=
  { state with mem := request.memory }

/-- The state in which the handler starts. -/
def Request.entry (request : Request) (state : State) : State :=
  dispatched results request.message (request.arrive state)

/-- The responses to the request. -/
def Request.responses (request : Request) (state : State) : List Frame :=
  frames (serve request.stack results request.message (request.arrive state))

variable {results}

theorem frames_handlerEvents {stack : ℕ → UInt8} {message : Message} (state : State)
    (handler : Handler) :
    frames (handlerEvents stack results message state handler) =
      frames (handler.body.run stack results (dispatched results message state)) :=
  frames_bind_reportFailure _ _

theorem Request.responses_eq {request : Request} {handler : Handler}
    (found : handler ∈ request.handler?) (state : State) :
    request.responses results state =
      frames (handler.body.run request.stack results (request.entry results state)) := by
  rw [Request.handler?] at found
  split at found
  next fits =>
    rcases Option.map_eq_some_iff.1 found with ⟨service, isService, rfl⟩
    rw [Request.responses, frames_serve_of_found _ _ _ fits isService]
    exact frames_handlerEvents _ _
  next => cases found

end Requests

end Mica.Rpc
