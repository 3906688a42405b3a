import Mica.Rpc.Errnum

/-!
# Returned values

The field `ret` of a response has the type of the value that the call returns, or a
wider one. Between the two lie a local variable of the handler and one or two C
conversions; a value passes through unchanged if the field, converted back to the
type of the call, is the value that was returned.
-/

namespace Mica.Rpc

open Cells

/-! ## C types -/

/-- The type of the value that a call returns. -/
inductive RetType where
  | int
  /-- Also `ssize_t` and `off_t` -/
  | long
  | sizeT
  | wintT
  | pointer

namespace RetType

/-- The returned value. -/
def value : RetType → OsResult → ℤ
  | .int, result => result.int
  | .long, result => result.long
  | .sizeT, result => items result
  | .wintT, result => result.ret % 2 ^ 32
  | .pointer, result => result.pointer

/-- The conversion of a number to the type. -/
def convert : RetType → ℤ → ℤ
  | .int, number => number.bmod (2 ^ 32)
  | .long, number => number.bmod (2 ^ 64)
  | .sizeT, number | .pointer, number => number % 2 ^ 64
  | .wintT, number => number % 2 ^ 32

end RetType

/-- The field `ret` of the handler's response, and the type of its call. -/
def Handler.returns : Handler → Option (Field × RetType)
  | .handleOpen | .handleClose | .handleFcntl | .handleUnlink | .handleBind | .handleConnect
  | .handleListen | .handleSetsockopt | .handleShutdown | .handleSocket | .handleFputs
  | .handleFeof | .handleGetc | .handleFerror | .handleGetcUnlocked | .handlePclose
  | .handleFileno | .handleSetvbuf | .handleSystem | .handleAccess | .handleDup2
  | .handleMkfifo | .handleChmod | .handleChdir | .handleMkdir | .handleRmdir
  | .handlePutchar | .handleFclose | .handleFflush | .handlePutc | .handleUngetc
  | .handleFseeko | .handleFseek | .handleRename | .handleRemove | .handleMkstemp =>
      some (CommonResp.ret, .int)
  | .handleGetwc | .handlePutwc | .handleUngetwc => some (CommonResp.ret, .wintT)
  | .handleWrite | .handleLseek | .handleSend | .handleSendto | .handleWritev | .handleFtello
  | .handleFtell => some (CsretResp.ret, .long)
  | .handleFwrite => some (CsretResp.ret, .sizeT)
  | .handleFread => some (ReadResp.ret, .sizeT)
  | .handleRead | .handleRecv | .handleReadlink => some (ReadResp.ret, .long)
  | .handleRecvfrom => some (RecvfromResp.ret, .long)
  | .handleIoctl => some (IoctlResp.ret, .int)
  | .handleStat | .handleLstat | .handleFstat => some (StatResp.ret, .int)
  | .handleGetpeername | .handleGetsockname | .handleGethostname | .handleAccept
  | .handleAccept4 | .handleGetsockopt => some (GetpeernameResp.ret, .int)
  | .handlePoll => some (PollResp.ret, .int)
  | .handleSelect => some (SelectResp.ret, .int)
  | .handlePipe => some (PipeResp.ret, .int)
  | .handleFscanfx => some (FscanfxResp.ret, .int)
  | .handleGetaddrinfo => some (GetaddrinfoResp.ret, .int)
  | .handleGetdents64 => some (Getdents64Resp.ret, .long)
  | .handleIfnameindex => some (IfNameindexResp.ret, .pointer)
  | .handleFopen | .handleFreopen | .handlePopen | .handleFdopen | .handleTmpfile | .handleFgets
  | .handleGetcwd | .handleGethostbyaddr | .handleGethostbyname | .handleGaistrerror
  | .handleFreeaddrinfo | .handleFprintf | .handlePrintf | .handleClearerr => none

/-- The length in the response and the size of the array behind it, for the handlers that answer
`-RPC_EOVERLONG` if the array is too small. -/
def Handler.overlong : Handler → Option (Field × ℕ)
  | .handleGetsockopt => some (GetpeernameResp.addrlen, GetpeernameResp.addrBuf.size)
  | .handleRecvfrom => some (RecvfromResp.addrlen, RecvfromResp.addr.size)
  | _ => none

/-- The number that the response should have. -/
def Handler.due (handler : Handler) (type : RetType) (result : OsResult) (response : Mem) : ℤ :=
  match handler.overlong with
  | some (length, limit) =>
      if limit < length.nat response then -rpcEoverlong else type.value result
  | none => type.value result

section Requests

variable (results : ℕ → OsResult)

/-- The result of the handler's own call. -/
def Request.result? (request : Request) (state : State) (handler : Handler) : Option OsResult :=
  ownResult handler.ownCalls none (handler.body.made results (request.entry results state))

/-- Every response with a field `ret` has the value there that the handler's own call has
returned. -/
def Request.Transparent (request : Request) (state : State) : Prop :=
  ∀ handler ∈ request.handler?, ∀ field type, handler.returns = some (field, type) →
    ∀ frame ∈ request.responses results state, ∀ result ∈ request.result? results state handler,
      type.convert (field.int (asResponse frame.params)) =
        handler.due type result (asResponse frame.params)

end Requests

/-- The handlers that do not return every value: `ungetwc` answers with the initial value of a
variable, `if_nameindex` does not fill in the field, and `writev` and `getdents64` keep a `ssize_t`
in an `int`. -/
def Handler.Keeps (handler : Handler) (memory : Mem) (result : OsResult) : Prop :=
  match handler with
  | .handleUngetwc => result.ret % 2 ^ 32 = 0
  | .handleIfnameindex => IfNameindexResp.ret.nat memory = result.pointer
  | .handleWritev | .handleGetdents64 => -2 ^ 31 ≤ result.long ∧ result.long < 2 ^ 31
  | _ => True

/-! ## Conversions -/

namespace OsResult

variable (result : OsResult)

theorem int_bounds : -2 ^ 31 ≤ result.int ∧ result.int < 2 ^ 31 :=
  ⟨Int.le_bmod (by decide), Int.bmod_lt (by decide)⟩

theorem items_bounds : 0 ≤ items result ∧ items result < 2 ^ 63 := by
  have bounds : 0 ≤ result.ret % 2 ^ 63 ∧ result.ret % 2 ^ 63 < 2 ^ 63 := by omega
  rwa [items, count, Int.toNat_of_nonneg bounds.1]

theorem int_eq_long_iff : result.int = result.long ↔
    -2 ^ 31 ≤ result.long ∧ result.long < 2 ^ 31 := by
  have narrowed : result.int = result.long.bmod (2 ^ 32) :=
    (Int.bmod_bmod_of_dvd (show (2 ^ 32 : ℕ) ∣ 2 ^ 64 by decide)).symm
  have bounds := result.int_bounds
  constructor
  · intro same
    rwa [same] at bounds
  · intro inside
    rw [narrowed]
    apply Int.bmod_eq_of_le <;> omega

end OsResult

section Fields

variable {field : Field} {memory : Mem} {result : OsResult}

theorem convert_int {value : ℤ} (four : field.size = 4) (holds : Holds field value memory)
    (same : value.bmod (2 ^ 32) = result.int) :
    RetType.int.convert (field.int memory) = result.int := by
  rw [int_of_holds holds, four, RetType.convert, ← same]
  exact Int.bmod_bmod

theorem convert_long {value : ℤ} (eight : field.size = 8) (holds : Holds field value memory)
    (same : value.bmod (2 ^ 64) = result.long) :
    RetType.long.convert (field.int memory) = result.long := by
  rw [int_of_holds holds, eight, RetType.convert, ← same]
  exact Int.bmod_bmod

theorem int_of_holds_int (eight : field.size = 8) (holds : Holds field result.int memory) :
    field.int memory = result.int := by
  have bounds := result.int_bounds
  rw [int_of_holds holds, eight]
  apply Int.bmod_eq_of_le <;> omega

theorem convert_int_of_wide (eight : field.size = 8) (holds : Holds field result.int memory) :
    RetType.int.convert (field.int memory) = result.int := by
  rw [int_of_holds_int eight holds, RetType.convert, OsResult.int]
  exact Int.bmod_bmod

theorem convert_long_of_int (eight : field.size = 8) (holds : Holds field result.int memory) :
    RetType.long.convert (field.int memory) = result.int := by
  have bounds := result.int_bounds
  rw [int_of_holds_int eight holds, RetType.convert]
  apply Int.bmod_eq_of_le <;> omega

theorem convert_sizeT (eight : field.size = 8) (holds : Holds field (items result) memory) :
    RetType.sizeT.convert (field.int memory) = items result := by
  have bounds := result.items_bounds
  have same : field.int memory = items result := by
    rw [int_of_holds holds, eight]
    apply Int.bmod_eq_of_le <;> omega
  rw [same, RetType.convert]
  apply Int.emod_eq_of_lt <;> omega

theorem convert_wintT (four : field.size = 4) (holds : Holds field result.int memory) :
    RetType.wintT.convert (field.int memory) = result.ret % 2 ^ 32 := by
  rw [int_of_holds holds, four, RetType.convert, OsResult.int]
  exact (congrArg (· % 2 ^ 32) Int.bmod_bmod).trans Int.bmod_emod

end Fields

/-! ## Handlers -/

theorem convert_getdents64 {memory : Mem} {result : OsResult} (sought : -1 ≤ result.long)
    (told : Getdents64Told (some result) memory) :
    RetType.long.convert (Getdents64Resp.ret.int memory) = result.long ↔
      -2 ^ 31 ≤ result.long ∧ result.long < 2 ^ 31 := by
  have widened : ∀ value : ℤ, -2 ^ 31 ≤ value → value < 2 ^ 31 →
      Holds Getdents64Resp.ret value memory →
        RetType.long.convert (Getdents64Resp.ret.int memory) = value := by
    intro value least less holds
    have same : Getdents64Resp.ret.int memory = value := by
      rw [int_of_holds holds]
      apply Int.bmod_eq_of_le
      · exact least
      · exact less
    rw [same, RetType.convert]
    apply Int.bmod_eq_of_le <;> omega
  rcases told with whole | ⟨negative, failed⟩
  · rw [widened _ result.int_bounds.1 result.int_bounds.2 whole]
    exact result.int_eq_long_iff
  · rw [widened (-1) (by decide) (by decide) failed]
    omega

theorem due_overlong {handler : Handler} {field length : Field} {limit : ℕ} {type : RetType}
    {told : OsResult → ℤ} {result : OsResult} {memory : Mem}
    (isOverlong : handler.overlong = some (length, limit))
    (overridden : Holds field (-rpcEoverlong) memory →
      type.convert (field.int memory) = -rpcEoverlong)
    (converted : Holds field (told result) memory →
      type.convert (field.int memory) = type.value result)
    (reports : ToldUnlessOverlong field length limit told (some result) memory) :
    type.convert (field.int memory) = handler.due type result memory := by
  rw [Handler.due, isOverlong]
  rw [ToldUnlessOverlong] at reports
  by_cases long : limit < length.nat memory
  · rw [if_pos long] at reports
    exact (overridden reports).trans (if_pos long).symm
  · rw [if_neg long] at reports
    exact (converted reports).trans (if_neg long).symm

theorem convert_ifnameindex {initial memory : Mem}
    (same : Agree [IfNameindexResp.ret] initial memory) :
    RetType.pointer.convert (IfNameindexResp.ret.int memory) = IfNameindexResp.ret.nat initial := by
  have bytes := nat_of_agree same (List.mem_singleton_self _)
  have small : IfNameindexResp.ret.nat memory < 2 ^ 64 := by
    have less := LittleEndian.value_lt (load memory IfNameindexResp.ret IfNameindexResp.ret.size)
    rwa [length_load] at less
  have wrapped : IfNameindexResp.ret.int memory % 2 ^ 64 =
      (IfNameindexResp.ret.nat memory : ℤ) % 2 ^ 64 := Extent.int_emod memory IfNameindexResp.ret
  rw [RetType.convert, wrapped, ← bytes]
  omega

theorem Handler.transparent_iff {handler : Handler} {initial memory : Mem} {result : OsResult}
    {field : Field} {type : RetType} (returns : handler.returns = some (field, type))
    (sought : handler = .handleGetdents64 → -1 ≤ result.long)
    (reports : handler.Reports initial (some result) memory) :
    type.convert (field.int memory) = handler.due type result memory ↔
      handler.Keeps initial result := by
  cases handler with
  | handleOpen | handleClose | handleFcntl | handleUnlink | handleBind | handleConnect
  | handleListen | handleSetsockopt | handleShutdown | handleSocket | handleFputs
  | handleFeof | handleGetc | handleFerror | handleGetcUnlocked | handlePclose | handleFileno
  | handleSetvbuf | handleSystem | handleAccess | handleDup2 | handleMkfifo | handleChmod
  | handleChdir | handleMkdir | handleRmdir | handlePutchar | handleFclose | handleFflush
  | handlePutc | handleIoctl | handleStat | handleLstat | handleFstat | handleGetpeername
  | handleGetsockname | handleGethostname | handleAccept | handleAccept4 | handlePoll
  | handleSelect | handleGetaddrinfo =>
      cases returns; exact iff_of_true (convert_int rfl reports Int.bmod_bmod) trivial
  | handleUngetc | handleFseeko | handleFseek | handleRename | handleRemove | handleMkstemp =>
      cases returns; exact iff_of_true (convert_int rfl reports rfl) trivial
  | handleWrite | handleLseek | handleSend | handleSendto | handleRead | handleRecv
  | handleReadlink =>
      cases returns; exact iff_of_true (convert_long rfl reports Int.bmod_bmod) trivial
  | handleFtello | handleFtell =>
      cases returns; exact iff_of_true (convert_long rfl reports rfl) trivial
  | handlePipe | handleFscanfx =>
      cases returns; exact iff_of_true (convert_int_of_wide rfl reports) trivial
  | handleFread | handleFwrite =>
      cases returns; exact iff_of_true (convert_sizeT rfl reports) trivial
  | handleGetwc | handlePutwc =>
      cases returns; exact iff_of_true (convert_wintT rfl reports) trivial
  | handleWritev =>
      cases returns
      rw [convert_long_of_int rfl reports]
      exact result.int_eq_long_iff
  | handleGetdents64 =>
      cases returns
      exact convert_getdents64 (sought rfl) reports
  | handleIfnameindex =>
      cases returns
      rw [convert_ifnameindex reports]
      rfl
  | handleUngetwc =>
      cases returns
      have zero : CommonResp.ret.int memory = 0 := int_of_holds reports
      rw [zero]
      exact eq_comm
  | handleGetsockopt =>
      cases returns
      refine iff_of_true (due_overlong rfl ?_ ?_ reports) trivial
      · intro holds
        rw [int_of_holds holds]
        rfl
      · exact fun holds => convert_int rfl holds Int.bmod_bmod
  | handleRecvfrom =>
      cases returns
      refine iff_of_true (due_overlong rfl ?_ ?_ reports) trivial
      · intro holds
        rw [int_of_holds holds]
        rfl
      · exact fun holds => convert_long rfl holds Int.bmod_bmod
  | handleFopen | handleFreopen | handlePopen | handleFdopen | handleTmpfile | handleFgets
  | handleGetcwd | handleGethostbyaddr | handleGethostbyname | handleGaistrerror
  | handleFreeaddrinfo | handleFprintf | handlePrintf | handleClearerr => cases returns

theorem Handler.keeps_of_returns_none {handler : Handler} (none : handler.returns = none)
    (memory : Mem) (result : OsResult) : handler.Keeps memory result := by
  cases handler with
  | handleUngetwc | handleIfnameindex | handleWritev | handleGetdents64 => cases none
  | _ => trivial

/-- `lseek` and `getdents64` return no negative number but -1. -/
def SeeksDocumented (results : ℕ → OsResult) (request : Request) : Prop :=
  request.handler? = some .handleGetdents64 → ∀ time, -1 ≤ (results time).long

/-- If the handler responds, it keeps the returned value. -/
def Request.Kept (results : ℕ → OsResult) (request : Request) (state : State) : Prop :=
  ∀ handler ∈ request.handler?, request.responses results state ≠ [] →
    ∀ result ∈ request.result? results state handler,
      handler.Keeps (request.entry results state).mem result

theorem Request.due_iff {results : ℕ → OsResult} {request : Request}
    (documented : SeeksDocumented results request) {state : State} {handler : Handler}
    (found : handler ∈ request.handler?) {field : Field} {type : RetType}
    (returns : handler.returns = some (field, type)) {frame : Frame}
    (sent : frame ∈ request.responses results state) {result : OsResult}
    (isResult : result ∈ request.result? results state handler) :
    type.convert (field.int (asResponse frame.params)) =
        handler.due type result (asResponse frame.params) ↔
      handler.Keeps (request.entry results state).mem result := by
  rw [Request.responses_eq found] at sent
  have reports := (handler.replies _ _ _ rfl frame sent).2
  rw [Request.result?, Option.mem_def] at isResult
  rw [isResult] at reports
  refine Handler.transparent_iff returns ?_ reports
  rintro rfl
  rcases ownResult_mem isResult with ⟨call, listed, rfl⟩
  rcases mem_made _ _ call listed with ⟨time, same⟩
  rw [same]
  exact documented found time

theorem Request.kept_of_transparent {results : ℕ → OsResult} {request : Request}
    (documented : SeeksDocumented results request) {state : State}
    (transparent : request.Transparent results state) : request.Kept results state := by
  intro handler found responds result isResult
  rcases List.exists_mem_of_ne_nil _ responds with ⟨frame, sent⟩
  cases returns : handler.returns with
  | some pair =>
      exact (Request.due_iff documented found returns sent isResult).1
        (transparent handler found _ _ returns frame sent result isResult)
  | none => exact Handler.keeps_of_returns_none returns _ _

theorem Request.transparent_iff_kept {results : ℕ → OsResult} {request : Request}
    (documented : SeeksDocumented results request) (state : State) :
    request.Transparent results state ↔ request.Kept results state := by
  refine ⟨Request.kept_of_transparent documented, ?_⟩
  intro kept handler found field type returns frame sent result isResult
  exact (Request.due_iff documented found returns sent isResult).2
    (kept handler found (List.ne_nil_of_mem sent) result isResult)

theorem seeksDocumented_of_le {result : OsResult} (least : -1 ≤ result.long) (request : Request) :
    SeeksDocumented (fun _ => result) request :=
  fun _ _ => least

theorem handler?_getdents64 : (bareRequest getdents64Id).handler? = some .handleGetdents64 := by
  decide

/-- `getdents64` returns 0 and so does the response. -/
theorem transparent_getdents64 :
    SeeksDocumented (fun _ => {}) (bareRequest getdents64Id) ∧
      (bareRequest getdents64Id).responses (fun _ => {}) ⟨fun _ => 0, 0, 0⟩ ≠ [] ∧
      (bareRequest getdents64Id).Transparent (fun _ => {}) ⟨fun _ => 0, 0, 0⟩ := by
  have documented : SeeksDocumented (fun _ => {}) (bareRequest getdents64Id) :=
    seeksDocumented_of_le (by decide) _
  refine ⟨documented, ?_, (Request.transparent_iff_kept documented _).mpr ?_⟩
  · rw [Request.responses_eq handler?_getdents64]
    exact List.cons_ne_nil _ _
  · intro handler found _ result isResult
    rw [handler?_getdents64, Option.mem_some_iff] at found
    subst found
    rcases ownResult_mem isResult with ⟨call, listed, rfl⟩
    rcases mem_made _ _ call listed with ⟨time, same⟩
    rw [same]
    exact (by decide : -2 ^ 31 ≤ OsResult.long {} ∧ OsResult.long {} < 2 ^ 31)

theorem handler?_ungetwc : (bareRequest ungetwcId).handler? = some .handleUngetwc := by
  have fits : (bareRequest ungetwcId).message.len ≤ rpcBufferSize :=
    show 8 ≤ rpcBufferSize by decide
  have found : findService ((callOf ungetwcId).id % 2 ^ 32) = some ⟨ungetwcId, .handleUngetwc⟩ := by
    decide
  rw [Request.handler?, if_pos fits, bareRequest, found]
  rfl

/-- `ungetwc` pushes back the character 97 and returns it; the response says 0. -/
theorem not_transparent_ungetwc :
    ¬(bareRequest ungetwcId).Transparent (fun _ => { ret := 97 }) ⟨fun _ => 0, 0, 0⟩ := by
  intro transparent
  have documented : SeeksDocumented (fun _ => { ret := 97 }) (bareRequest ungetwcId) :=
    seeksDocumented_of_le (by decide) _
  have responds : (bareRequest ungetwcId).responses (fun _ => { ret := 97 }) ⟨fun _ => 0, 0, 0⟩ ≠
      [] := by
    rw [Request.responses_eq handler?_ungetwc]
    exact List.cons_ne_nil _ _
  have zero : (97 : ℤ) % 2 ^ 32 = 0 := Request.kept_of_transparent documented transparent
    .handleUngetwc handler?_ungetwc responds { ret := 97 } rfl
  exact absurd zero (by decide)

end Mica.Rpc
