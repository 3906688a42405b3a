import Mica.Rpc.Bodies

/-!
# Handlers of sockets
-/

namespace Mica.Rpc

/-- The body of `getpeername` and `getsockname`. -/
def nameHandler (id : ℕ) (enter : Line) (function : OsCall) (leave sent : ℤ → Line) :
    Program ℤ := do
  lprintf enter
  let result ← perform
    { function := function
      args := [intArg GetpeernameReq.sockfd]
      arrays := [bytesOf GetpeernameReq.addrBuf fun memory => GetpeernameReq.addrlen.nat memory]
      outs := [GetpeernameReq.addrBuf]
      socklen := some GetpeernameReq.addrlen }
  let ret := result.int
  lprintf (leave ret)
  lerror ret (← errno)
  storeInt GetpeernameResp.ret ret
  setRspBase
  let addrlen ← peekNat GetpeernameReq.addrlen
  memcpy GetpeernameResp.addrBuf GetpeernameReq.addrBuf addrlen
  assign GetpeernameResp.addrlen GetpeernameReq.addrlen
  let payloadSize := GetpeernameResp.size - GetpeernameResp.addrBuf.size + addrlen
  let ret ← rpcServerSend id .rpmsgRpcOk payloadSize
  lprintf (sent ret)
  answer ret

def rpmsgHandleGetpeername : Program ℤ :=
  nameHandler getpeernameId
    (line "==getpeername(%d, %d)\n"
      [.signed GetpeernameReq.sockfd, .unsigned GetpeernameReq.addrlen])
    .getpeername
    (fun ret => line "==getpeername ret:%d\n" [.int ret])
    (fun ret => line "==getpeername send rsp, %d\n" [.int ret])

def rpmsgHandleGetsockname : Program ℤ :=
  nameHandler getsocknameId
    (line "==getsockname(%d, %d)\n"
      [.signed GetpeernameReq.sockfd, .unsigned GetpeernameReq.addrlen])
    .getsockname
    (fun ret => line "==getsockname ret:%d\n" [.int ret])
    (fun ret => line "==getsockname send rsp, %d\n" [.int ret])

/-- The end of `accept` and `accept4`, behind the call. -/
def acceptReply (id : ℕ) (addrlen addrBuf : Field) (leave sent : ℤ → Line) (result : OsResult) :
    Program ℤ := do
  let ret := result.int
  lprintf (leave ret)
  lerror ret (← errno)
  storeInt GetpeernameResp.ret ret
  setRspBase
  assign GetpeernameResp.addrlen addrlen
  let length ← peekNat addrlen
  memcpy GetpeernameResp.addrBuf addrBuf length
  let payloadSize := GetpeernameResp.size - GetpeernameResp.addrlen.size + length
  let ret ← rpcServerSend id .rpmsgRpcOk payloadSize
  lprintf (sent ret)
  answer ret

/-- The body of `accept` and `accept4`: without a length the call is given null pointers, and the
size of the field `addrlen`, not that of the array, is taken off the size of the response. -/
def acceptHandler (id : ℕ) (enter : Line) (function : OsCall) (args : List (Mem → Value))
    (addrlen addrBuf : Field) (leave sent : ℤ → Line) : Program ℤ := do
  lprintf enter
  let withAddress ← test fun memory => 0 < addrlen.nat memory
  if withAddress then do
    let result ← perform
      { function := function
        args := args
        arrays := [bytesOf addrBuf fun memory => addrlen.nat memory]
        outs := [addrBuf]
        socklen := some addrlen }
    acceptReply id addrlen addrBuf leave sent result
  else do
    let result ← perform
      { function := function, args := args ++ [fun _ => .null, fun _ => .null] }
    acceptReply id addrlen addrBuf leave sent result

def rpmsgHandleAccept : Program ℤ :=
  acceptHandler acceptId
    (line "==accept(%d, %d)\n" [.signed GetpeernameReq.sockfd, .unsigned GetpeernameReq.addrlen])
    .accept [intArg GetpeernameReq.sockfd] GetpeernameReq.addrlen GetpeernameReq.addrBuf
    (fun ret => line "==accept ret:%d, addrlen:%d\n"
      [.int ret, .unsigned GetpeernameReq.addrlen])
    (fun ret => line "==accept send rsp,%d\n" [.int ret])

def rpmsgHandleAccept4 : Program ℤ :=
  acceptHandler accept4Id
    (line "==accept4(%d, %d)\n" [.signed Accept4Req.sockfd, .unsigned Accept4Req.addrlen])
    .accept4 [intArg Accept4Req.sockfd, intArg Accept4Req.flags] Accept4Req.addrlen
    Accept4Req.addrBuf
    (fun ret => line "==accept4 ret:%d, addrlen:%d\n" [.int ret, .unsigned Accept4Req.addrlen])
    (fun ret => line "==accept4 send rsp,%d\n" [.int ret])

def rpmsgHandleBind : Program ℤ :=
  commonHandler bindId
    (line "==bind(%d, %d)\n" [.signed GetpeernameReq.sockfd, .unsigned GetpeernameReq.addrlen])
    { function := .bind
      args := [intArg GetpeernameReq.sockfd]
      arrays := [bytesOf GetpeernameReq.addrBuf fun memory =>
        GetpeernameReq.addrlen.nat memory] }
    (fun ret => line "==bind ret:%d, addrlen:%d\n" [.int ret, .unsigned GetpeernameReq.addrlen])
    (fun ret => line "==bind send rsp, %d\n" [.int ret])

def rpmsgHandleConnect : Program ℤ :=
  commonHandler connectId
    (line "==connect(%d, %d)\n" [.signed GetpeernameReq.sockfd, .unsigned GetpeernameReq.addrlen])
    { function := .connect
      args := [intArg GetpeernameReq.sockfd]
      arrays := [bytesOf GetpeernameReq.addrBuf fun memory =>
        GetpeernameReq.addrlen.nat memory] }
    (fun ret => line "==connect ret:%d, addrlen:%d\n"
      [.int ret, .unsigned GetpeernameReq.addrlen])
    (fun ret => line "==connect send rsp, %d\n" [.int ret])

def rpmsgHandleListen : Program ℤ :=
  commonHandler listenId
    (line "==listen(%d, %d)\n" [.signed ListenReq.sockfd, .signed ListenReq.backlog])
    { function := .listen, args := [intArg ListenReq.sockfd, intArg ListenReq.backlog] }
    (fun ret => line "==listen ret:%d\n" [.int ret])
    (fun ret => line "==listen send rsp, %d\n" [.int ret])

/-- `lerror` is given the local `ret`, which is still zero. -/
def rpmsgHandleRecv : Program ℤ :=
  transferHandler recvId
    (line "==recv(%d, %lu, %d)\n" [.signed RecvReq.fd, .unsigned RecvReq.len,
      .signed RecvReq.flags])
    { function := .recv
      args := [intArg RecvReq.fd, intArg RecvReq.flags]
      arrays := [bytesOf ReadResp.buf fun memory => RecvReq.len.nat memory]
      outs := [ReadResp.buf] }
    (fun sret => line "==recv ret:%ld\n" [.int sret])
    (fun _ => 0)
    (fun ret => line "==recv send rsp, %d\n" [.int ret])

/-- The end of `recvfrom`, behind `set_rsp_base`. -/
def recvfromReply (sret : ℤ) : Program ℤ := do
  assign RecvfromResp.addrlen RecvfromReq.addrlen
  let header := RecvfromResp.size - RecvfromResp.buf.size
  let tooLong ← test fun memory => RecvfromResp.addr.size < RecvfromReq.addrlen.nat memory
  if tooLong then do
    storeInt RecvfromResp.ret (-rpcEoverlong)
    lprintf (line "==recvfrom addr overflow:%d, %d\n"
      [.unsigned RecvfromReq.addrlen, .int RecvfromResp.addr.size])
    let ret ← rpcServerSend recvfromId .rpmsgRpcOk header
    lprintf (line "==recv send rsp, %d\n" [.int ret])
    answer ret
  else do
    let addrlen ← peekNat RecvfromReq.addrlen
    memcpy RecvfromResp.addr RecvfromReq.buf addrlen
    let ret ← rpcServerSend recvfromId .rpmsgRpcOk
      (header + (if 0 < sret then sret.toNat else 0))
    lprintf (line "==recv send rsp, %d\n" [.int ret])
    answer ret

def rpmsgHandleRecvfrom : Program ℤ := do
  lprintf (line "==recvfrom(%d, %lu, %d)\n"
    [.signed RecvfromReq.fd, .unsigned RecvfromReq.len, .signed RecvfromReq.flags])
  let result ← perform
    { function := .recvfrom
      args := [intArg RecvfromReq.fd, intArg RecvfromReq.flags]
      arrays := [bytesOf RecvfromResp.buf fun memory =>
          min RecvfromResp.buf.size (RecvfromReq.len.nat memory),
        bytesOf RecvfromReq.buf fun memory => RecvfromReq.addrlen.nat memory]
      outs := [RecvfromResp.buf, RecvfromReq.buf]
      socklen := some RecvfromReq.addrlen }
  let sret := result.long
  lprintf (line "==recvfrom ret:%ld\n" [.int sret])
  lerror 0 (← errno)
  storeInt RecvfromResp.ret sret
  setRspBase
  recvfromReply sret

def rpmsgHandleSend : Program ℤ :=
  sizeHandler sendId
    (line "==send(%d, %lu, %d)\n" [.signed SendReq.fd, .unsigned SendReq.len,
      .signed SendReq.flags])
    { function := .send
      args := [intArg SendReq.fd, intArg SendReq.flags]
      arrays := [bytesOf SendReq.buf fun memory => SendReq.len.nat memory] }
    (fun sret => line "==send ret:%ld\n" [.int sret])
    (fun _ => 0)
    (fun ret => line "==send send rsp, %d\n" [.int ret])

def rpmsgHandleSendto : Program ℤ :=
  sizeHandler sendtoId
    (line "==sendto(%d, %lu, %d, %d)\n"
      [.signed SendtoReq.fd, .unsigned SendtoReq.len, .signed SendtoReq.flags,
        .unsigned SendtoReq.addrlen])
    { function := .sendto
      args := [intArg SendtoReq.fd, intArg SendtoReq.flags]
      arrays := [bytesFrom SendtoReq.buf (fun memory => SendtoReq.addrlen.nat memory)
          fun memory => SendtoReq.len.nat memory,
        bytesOf SendtoReq.buf fun memory => SendtoReq.addrlen.nat memory] }
    (fun sret => line "==sendto ret:%ld\n" [.int sret])
    (fun _ => 0)
    (fun ret => line "==sendto send rsp, %d\n" [.int ret])

def rpmsgHandleSetsockopt : Program ℤ :=
  commonHandler setsockoptId
    (line "==setsockopt(%d, %d, %d, %d)\n"
      [.signed SetsockoptReq.fd, .signed SetsockoptReq.level, .signed SetsockoptReq.optname,
        .unsigned SetsockoptReq.optlen])
    { function := .setsockopt
      args := [intArg SetsockoptReq.fd, intArg SetsockoptReq.level, intArg SetsockoptReq.optname]
      arrays := [bytesOf SetsockoptReq.optval fun memory => SetsockoptReq.optlen.nat memory] }
    (fun ret => line "==setsockopt ret:%d\n" [.int ret])
    (fun ret => line "==setsockopt send rsp, %d\n" [.int ret])

def rpmsgHandleShutdown : Program ℤ :=
  commonHandler shutdownId
    (line "==shutdown(%d, %d)\n" [.signed ShutdownReq.fd, .signed ShutdownReq.how])
    { function := .shutdown, args := [intArg ShutdownReq.fd, intArg ShutdownReq.how] }
    (fun ret => line "==shutdown ret:%d\n" [.int ret])
    (fun ret => line "==shutdown send rsp, %d\n" [.int ret])

def rpmsgHandleSocket : Program ℤ :=
  commonHandler socketId
    (line "==socket(%d, %d, %d)\n"
      [.signed SocketReq.domain, .signed SocketReq.type, .signed SocketReq.protocol])
    { function := .socket
      args := [intArg SocketReq.domain, intArg SocketReq.type, intArg SocketReq.protocol] }
    (fun ret => line "==socket ret:%d\n" [.int ret])
    (fun ret => line "==socket send rsp, %d\n" [.int ret])

/-- `struct pollfd` has 8 bytes. -/
def rpmsgHandlePoll : Program ℤ := do
  lprintf (line "==poll(%d,%d,%d,%ld,%d)\n"
    [.signed PollReq.fd0, .signed PollReq.events0, .signed PollReq.revents0,
      .unsigned PollReq.nfds, .signed PollReq.timeout])
  let result ← perform
    { function := .poll
      args := [natArg PollReq.nfds, intArg PollReq.timeout]
      arrays := [bytesOf PollReq.fds fun memory => 8 * PollReq.nfds.nat memory]
      outs := [PollReq.fds] }
  let ret := result.int
  lprintf (line "==poll ret:%d\n" [.int ret])
  lerror ret (← errno)
  storeInt PollResp.ret ret
  setRspBase
  let nfds ← peekNat PollReq.nfds
  memcpy PollResp.fds PollReq.fds (8 * nfds % 2 ^ 64)
  let ret ← rpcServerSend pollId .rpmsgRpcOk PollResp.size
  lprintf (line "==poll send rsp:(%d,%d,%d)\n"
    [.signed PollResp.fd0, .signed PollResp.revents0, .int ret])
  answer ret

/-- A pointer to the set or timeout in the request, or a null pointer. -/
def optionalArg (present field : Field) (memory : Mem) : Value :=
  if present.int memory ≠ 0 then .array field else .null

/-- For a null pointer the call stores nothing. -/
def rpmsgHandleSelect : Program ℤ := do
  lprintf (line "\n==select(%d,%d,%d,%d,%d,%ld,%ld)\n"
    [.signed SelectReq.nfds, .signed SelectReq.isReadfdsNotNull,
      .signed SelectReq.isWritefdsNotNull, .signed SelectReq.isExceptfdsNotNull,
      .signed SelectReq.isTimeoutNotNull, .signed SelectReq.tvSec, .signed SelectReq.tvUsec])
  let result ← perform
    { function := .select
      args := [intArg SelectReq.nfds,
        optionalArg SelectReq.isReadfdsNotNull SelectReq.readfds,
        optionalArg SelectReq.isWritefdsNotNull SelectReq.writefds,
        optionalArg SelectReq.isExceptfdsNotNull SelectReq.exceptfds,
        optionalArg SelectReq.isTimeoutNotNull SelectReq.timeout]
      outs := [SelectReq.readfds, SelectReq.writefds, SelectReq.exceptfds, SelectReq.timeout] }
  let ret := result.int
  lprintf (line "==select ret:%d\n" [.int ret])
  lerror ret (← errno)
  storeInt SelectResp.ret ret
  setRspBase
  memcpy SelectResp.readfds SelectReq.readfds 128
  memcpy SelectResp.writefds SelectReq.writefds 128
  memcpy SelectResp.exceptfds SelectReq.exceptfds 128
  memcpy SelectResp.timeout SelectReq.timeout 16
  let ret ← rpcServerSend selectId .rpmsgRpcOk SelectResp.size
  lprintf (line "==select send rsp:%d\n" [.int ret])
  answer ret

/-- `strlen(resp.name)` -/
def hostNameLength (memory : Mem) : ℕ := (GetpeernameResp.addrBuf.string stringLimit memory).length

/-- The end of `gethostname`, once the length of the name is known. -/
def gethostnameReply (ret len : ℤ) : Program ℤ := do
  storeInt GetpeernameResp.addrlen len
  storeInt GetpeernameResp.ret ret
  setRspBase
  let payloadSize := GetpeernameResp.size - GetpeernameResp.addrBuf.size + len.toNat
  let ret ← rpcServerSend gethostnameId .rpmsgRpcOk payloadSize
  lprintf (line "==gethostname send rsp(%d)\n" [.int ret])
  answer ret

/-- `gethostname` once the length of the request has been checked. -/
def gethostnameCall : Program ℤ := do
  let result ← perform
    { function := .gethostname
      arrays := [bytesOf GetpeernameResp.addrBuf fun memory => GethostnameReq.len.nat memory]
      outs := [GetpeernameResp.addrBuf] }
  lprintf (line "==gethostname ret:%d\n" [.int result.int])
  lerror result.int (← errno)
  if result.int = 0 then do
    let len ← peek fun memory => hostNameLength memory + 1
    gethostnameReply result.int len
  else gethostnameReply result.int 0

def rpmsgHandleGethostname : Program ℤ := do
  lprintf (line "==gethostname(%lu)\n" [.unsigned GethostnameReq.len])
  let tooLong ← test fun memory => maxStringLen < GethostnameReq.len.nat memory
  if tooLong then do
    storeInt GethostnameReq.len maxStringLen
    gethostnameCall
  else gethostnameCall

def rpmsgHandleGetsockopt : Program ℤ := do
  lprintf (line "==getsockopt(%d, %d, %d)\n"
    [.signed GetsockoptReq.sockfd, .signed GetsockoptReq.level, .signed GetsockoptReq.optname])
  let result ← perform
    { function := .getsockopt
      args := [intArg GetsockoptReq.sockfd, intArg GetsockoptReq.level,
        intArg GetsockoptReq.optname]
      arrays := [bytesOf GetpeernameResp.addrBuf fun memory => GetsockoptReq.optlen.nat memory]
      outs := [GetpeernameResp.addrBuf]
      socklen := some GetsockoptReq.optlen }
  let header := GetpeernameResp.size - GetpeernameResp.addrBuf.size
  let tooLong ← test fun memory =>
    GetpeernameResp.addrBuf.size < GetsockoptReq.optlen.nat memory
  let optlen ← if tooLong then pure 0 else peekNat GetsockoptReq.optlen
  let ret := if tooLong then -rpcEoverlong else result.int
  lprintf (line "==getsockopt(%d)\n" [.int ret])
  lerror ret (← errno)
  storeInt GetpeernameResp.ret ret
  assign GetpeernameResp.addrlen GetsockoptReq.optlen
  setRspBase
  let ret ← rpcServerSend getsockoptId .rpmsgRpcOk (header + optlen)
  lprintf (line "==getsockopt send rsp(%d)\n" [.int ret])
  answer ret

end Mica.Rpc
