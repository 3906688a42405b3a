import Mica.Rpc.Basic

/-!
# Bodies shared by handlers

Most handlers of `rpc_backend.c` are copies of a few bodies: they log the
request, make one call, log what it returned, fill in the response, send it and
log what became of that. The bodies differ in the type of the response, in
whether the response is cleared first and in whether a failure is logged.
-/

namespace Mica.Rpc

/-- Handlers that answer with `rpc_common_resp_t`, from a local `ret`. -/
def commonHandler (id : ℕ) (enter : Line) (operation : Operation) (leave sent : ℤ → Line) :
    Program ℤ := do
  lprintf enter
  let result ← perform operation
  let ret := result.int
  lprintf (leave ret)
  lerror ret (← errno)
  storeInt CommonResp.ret ret
  setRspBase
  let ret ← rpcServerSend id .rpmsgRpcOk CommonResp.size
  lprintf (sent ret)
  answer ret

/-- Handlers of streams that clear `rpc_common_resp_t` and do not log the error. -/
def streamHandler (id : ℕ) (enter : Line) (operation : Operation) (leave sent : ℤ → Line) :
    Program ℤ := do
  zeroResp CommonResp.size
  lprintf enter
  let result ← perform operation
  let ret := result.int
  lprintf (leave ret)
  storeInt CommonResp.ret ret
  setRspBase
  let ret ← rpcServerSend id .rpmsgRpcOk CommonResp.size
  lprintf (sent ret)
  answer ret

/-- Handlers that clear the response and assign the result to its field `retField` at once. -/
def directHandler (id : ℕ) (retField : Field) (size : ℕ) (enter : Line) (operation : Operation)
    (leave : Line) (sent : ℤ → Line) : Program ℤ := do
  zeroResp size
  lprintf enter
  let result ← perform operation
  storeInt retField result.ret
  lprintf leave
  setRspBase
  let ret ← rpcServerSend id .rpmsgRpcOk size
  lprintf (sent ret)
  answer ret

/-- Handlers that answer with `rpc_fcommon_resp_t`, the handle of a stream. -/
def handleHandler (id : ℕ) (enter : Line) (operation : Operation) (leave : OsResult → Line)
    (sent : ℤ → Line) : Program ℤ := do
  zeroResp FcommonResp.size
  lprintf enter
  let result ← perform operation
  lprintf (leave result)
  storeInt FcommonResp.fhandle result.pointer
  setRspBase
  let ret ← rpcServerSend id .rpmsgRpcOk FcommonResp.size
  lprintf (sent ret)
  answer ret

/-- Handlers of wide characters; they log the result of the call also after sending. -/
def wideHandler (id : ℕ) (enter : (Value → ℤ) → Line) (operation : Operation)
    (leave sent : ℤ → Line) : Program ℤ := do
  let streams ← perform { function := .streamDescriptor }
  lprintf (enter streams.filenos)
  let result ← perform operation
  let wret := result.int
  lprintf (leave wret)
  storeInt CommonResp.ret wret
  setRspBase
  let ret ← rpcServerSend id .rpmsgRpcOk CommonResp.size
  lprintf (sent wret)
  answer ret

/-- Handlers that answer with a `ssize_t` or `off_t`. `reported` is what `lerror` is given. -/
def sizeHandler (id : ℕ) (enter : Line) (operation : Operation) (leave : ℤ → Line)
    (reported : OsResult → ℤ) (sent : ℤ → Line) : Program ℤ := do
  lprintf enter
  let result ← perform operation
  lprintf (leave result.long)
  lerror (reported result) (← errno)
  storeInt CsretResp.ret result.long
  setRspBase
  let ret ← rpcServerSend id .rpmsgRpcOk CsretResp.size
  lprintf (sent ret)
  answer ret

/-- Handlers that answer with the bytes a call has stored in the response. -/
def transferHandler (id : ℕ) (enter : Line) (operation : Operation) (leave : ℤ → Line)
    (reported : OsResult → ℤ) (sent : ℤ → Line) : Program ℤ := do
  lprintf enter
  let result ← perform operation
  let sret := result.long
  lprintf (leave sret)
  lerror (reported result) (← errno)
  storeInt ReadResp.ret sret
  setRspBase
  let payloadSize := ReadResp.size - ReadResp.buf.size + (if 0 < sret then sret.toNat else 0)
  let ret ← rpcServerSend id .rpmsgRpcOk payloadSize
  lprintf (sent ret)
  answer ret

end Mica.Rpc
