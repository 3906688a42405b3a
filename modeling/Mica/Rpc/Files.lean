import Mica.Rpc.Bodies

/-!
# Handlers of files and directories
-/

namespace Mica.Rpc

open Errno

def rpmsgHandleOpen : Program ℤ :=
  commonHandler openId (line "==open(%s)\n" [.string OpenReq.buf])
    { function := .openFile
      args := [stringArg OpenReq.buf, intArg OpenReq.flags, natArg OpenReq.mode] }
    (fun fd => line "==open ret:%d\n" [.int fd])
    (fun ret => line "==open send rsp:%d, %d\n" [.signed CommonResp.ret, .int ret])

def rpmsgHandleClose : Program ℤ :=
  commonHandler closeId (line "==close(%d)\n" [.signed CloseReq.fd])
    { function := .close, args := [intArg CloseReq.fd] }
    (fun ret => line "==close ret(%d)\n" [.int ret])
    (fun ret => line "==close send rsp:%d, %d\n" [.signed CloseReq.fd, .int ret])

/-- A read from descriptor 0 asks for `MAX_STRING_LEN` bytes, whatever the count is. -/
def readLength (memory : Mem) : ℕ :=
  if ReadReq.fd.int memory = 0 then maxStringLen else ReadReq.count.nat memory

def rpmsgHandleRead : Program ℤ :=
  transferHandler readId (line "==read(%d, %d)\n" [.signed ReadReq.fd, .unsigned ReadReq.count])
    { function := .read
      args := [intArg ReadReq.fd]
      arrays := [bytesOf ReadResp.buf readLength]
      outs := [ReadResp.buf] }
    (fun sret => line "==read ret %ld\n" [.int sret])
    OsResult.int
    (fun ret => line "==read send rsp:%d, %d\n" [.signed ReadReq.fd, .int ret])

def rpmsgHandleWrite : Program ℤ :=
  sizeHandler writeId
    (line "==write(%d, %d)\n" [.signed WriteReq.fd, .unsigned WriteReq.count])
    { function := .write
      args := [intArg WriteReq.fd]
      arrays := [bytesOf WriteReq.buf fun memory => WriteReq.count.nat memory] }
    (fun sret => line "==write ret:%ld\n" [.int sret])
    OsResult.int
    (fun ret => line "==write send rsp:%d, %d\n" [.signed WriteReq.fd, .int ret])

def rpmsgHandleLseek : Program ℤ :=
  sizeHandler lseekId
    (line "==lseek(%d, %ld, %d)\n"
      [.signed LseekReq.fd, .signed LseekReq.offset, .signed LseekReq.whence])
    { function := .lseek
      args := [intArg LseekReq.fd, intArg LseekReq.offset, intArg LseekReq.whence] }
    (fun off => line "==lseek ret:%ld\n" [.int off])
    OsResult.int
    (fun ret => line "==lseek send rsp:%d,%d\n" [.signed LseekReq.fd, .int ret])

def rpmsgHandleFcntl : Program ℤ :=
  commonHandler fcntlId
    (line "==fcntl(%d, %d, %lu)\n"
      [.signed FcntlReq.fd, .signed FcntlReq.cmd, .unsigned FcntlReq.arg])
    { function := .fcntl
      args := [intArg FcntlReq.fd, intArg FcntlReq.cmd, natArg FcntlReq.arg] }
    (fun ret => line "==fcntl ret:%d\n" [.int ret])
    (fun ret => line "==fcntl send rsp:%d, %d\n" [.signed FcntlReq.fd, .int ret])

/-- `ioctl` is given the array of the request without a length. -/
def rpmsgHandleIoctl : Program ℤ := do
  lprintf (line "==ioctl(%d, %ld)\n" [.signed IoctlReq.fd, .signed IoctlReq.request])
  let result ← perform
    { function := .ioctl
      args := [intArg IoctlReq.fd, natArg IoctlReq.request, fun _ => .array IoctlReq.buf]
      outs := [IoctlReq.buf] }
  let ret := result.int
  lprintf (line "==ioctl ret:%d\n" [.int ret])
  lerror ret (← errno)
  storeInt IoctlResp.ret ret
  assign IoctlResp.len IoctlReq.len
  setRspBase
  let len ← peekNat IoctlReq.len
  if 0 < len then memcpy IoctlResp.buf IoctlReq.buf len else pure ()
  let payloadSize := (IoctlResp.size - IoctlReq.buf.size + len) % 2 ^ 64
  let ret ← rpcServerSend ioctlId .rpmsgRpcOk payloadSize
  lprintf (line "==ioctl send rsp:%d,%d\n" [.signed IoctlReq.fd, .int ret])
  answer ret

/-- The answer carries `IOCTL_ID`. -/
def rpmsgHandleUnlink : Program ℤ :=
  commonHandler ioctlId (line "==unlink(%s)\n" [.string UnlinkReq.buf])
    { function := .unlink, args := [stringArg UnlinkReq.buf] }
    (fun ret => line "==unlink ret:%d\n" [.int ret])
    (fun ret => line "==unlink send rsp:%s,%d\n" [.string UnlinkReq.buf, .int ret])

/-- `MIN(req->count, sizeof(resp.buf))`, where the `int` is converted to `size_t`. -/
def getdents64Length (memory : Mem) : ℕ :=
  min (Getdents64Req.count.int memory % 2 ^ 64).toNat Getdents64Resp.buf.size

/-- The end of `getdents64`, once the result is known. -/
def getdents64Reply (ret : ℤ) : Program ℤ := do
  storeInt Getdents64Resp.ret ret
  lerror ret (← errno)
  setRspBase
  let position ← perform
    { function := .lseek, args := [intArg Getdents64Req.fd, fun _ => .int 0, fun _ => .int 1] }
  storeInt Getdents64Resp.pos position.long
  let payloadSize :=
    Getdents64Resp.size - Getdents64Resp.buf.size + (if 0 < ret then ret.toNat else 0)
  let ret ← rpcServerSend getdents64Id .rpmsgRpcOk payloadSize
  lprintf (line "==getdents64 send rsp(%d), new pos: %ld\n" [.int ret, .signed Getdents64Resp.pos])
  answer ret

/-- `getdents64` once the position has been set. -/
def getdents64From (off : ℤ) : Program ℤ :=
  if off < 0 then do
    lprintf (line "==getdents64 seek fail fd:%d, ret:%ld\n" [.signed Getdents64Req.fd, .int off])
    getdents64Reply (-1)
  else do
    let result ← perform
      { function := .getdents64
        args := [intArg Getdents64Req.fd]
        arrays := [bytesOf Getdents64Resp.buf getdents64Length]
        outs := [Getdents64Resp.buf] }
    lprintf (line "==getdents64 fd:%d, ret:%d\n" [.signed Getdents64Req.fd, .int result.int])
    getdents64Reply result.int

def rpmsgHandleGetdents64 : Program ℤ := do
  lprintf (line "==getdents64 fd:%d, pos:%ld\n"
    [.signed Getdents64Req.fd, .signed Getdents64Req.pos])
  let atCurrent ← test fun memory => Getdents64Req.pos.int memory = -1
  if atCurrent then getdents64From 0
  else do
    let result ← perform
      { function := .lseek
        args := [intArg Getdents64Req.fd, intArg Getdents64Req.pos, fun _ => .int 0] }
    getdents64From result.long

def setStatBuff (status : Stat) : Program Unit := do
  storeInt StatResp.dev status.dev
  storeInt StatResp.ino status.ino
  storeInt StatResp.nlink status.nlink
  storeInt StatResp.mode status.mode
  storeInt StatResp.uid status.uid
  storeInt StatResp.gid status.gid
  storeInt StatResp.rdev status.rdev
  storeInt StatResp.stSize status.size
  storeInt StatResp.blksize status.blksize
  storeInt StatResp.blocks status.blocks
  storeInt StatResp.atimeSec status.atimSec
  storeInt StatResp.atimeNsec status.atimNsec
  storeInt StatResp.mtimeSec status.mtimSec
  storeInt StatResp.mtimeNsec status.mtimNsec
  storeInt StatResp.ctimeSec status.ctimSec
  storeInt StatResp.ctimeNsec status.ctimNsec

/-- The body of `stat`, `lstat` and `fstat`. -/
def statHandler (id : ℕ) (enter : Line) (operation : Operation) (leave sent : ℤ → Line) :
    Program ℤ := do
  lprintf enter
  let result ← perform operation
  let ret := result.int
  lprintf (leave ret)
  lerror ret (← errno)
  storeInt StatResp.ret ret
  setStatBuff result.stat
  setRspBase
  let ret ← rpcServerSend id .rpmsgRpcOk StatResp.size
  lprintf (sent ret)
  answer ret

def rpmsgHandleStat : Program ℤ :=
  statHandler statId (line "==stat(%s)\n" [.string StatReq.path])
    { function := .stat, args := [stringArg StatReq.path] }
    (fun ret => line "==stat(%d)\n" [.int ret])
    (fun ret => line "==stat send rsp(%d)\n" [.int ret])

def rpmsgHandleLstat : Program ℤ :=
  statHandler lstatId (line "==lstat(%s)\n" [.string StatReq.path])
    { function := .lstat, args := [stringArg StatReq.path] }
    (fun ret => line "==lstat(%d)\n" [.int ret])
    (fun ret => line "==lstat send rsp(%d)\n" [.int ret])

def rpmsgHandleFstat : Program ℤ :=
  statHandler fstatId (line "==fstat(%d)\n" [.signed FstatReq.fd])
    { function := .fstat, args := [intArg FstatReq.fd] }
    (fun ret => line "==fstat(%d)\n" [.int ret])
    (fun ret => line "==fstat send rsp(%d)\n" [.int ret])

/-- `req->size > sizeof(resp.buf)` -/
def getcwdRejects (memory : Mem) : Bool := GetcwdResp.buf.size < GetcwdReq.size.nat memory

def getcwdReply : Program ℤ := do
  setRspBase
  let size ← peekNat GetcwdReq.size
  let ret ← rpcServerSend getcwdId .rpmsgRpcOk (GetcwdResp.size - GetcwdResp.buf.size + size)
  lprintf (line "==getcwd send rsp(%d)\n" [.int ret])
  answer ret

def getcwdAccepted : Program ℤ := do
  lprintf (line "==getcwd(%ld)\n" [.unsigned GetcwdReq.size])
  let result ← perform
    { function := .getcwd
      arrays := [bytesOf GetcwdResp.buf fun memory => GetcwdReq.size.nat memory]
      outs := [GetcwdResp.buf] }
  if result.pointer ≠ 0 then do
    lprintf (line "==getcwd(%s)\n" [.string GetcwdResp.buf])
    storeInt GetcwdResp.isNull 0
  else do
    let errnum ← errno
    let message ← perform { function := .strerror, args := [fun _ => .int errnum] }
    lprintf (line "==getcwd(NULL) %s\n" [message.text.elim .null .text])
    storeInt GetcwdResp.isNull 1
  getcwdReply

def rpmsgHandleGetcwd : Program ℤ := do
  let rejected ← test getcwdRejects
  if rejected then pure (-einval) else getcwdAccepted

def rpmsgHandleReadlink : Program ℤ :=
  transferHandler readlinkId
    (line "==readlink(%s, %lu)\n" [.string ReadlinkReq.pathname, .unsigned ReadlinkReq.bufsiz])
    { function := .readlink
      args := [stringArg ReadlinkReq.pathname]
      arrays := [bytesOf ReadResp.buf fun memory =>
        min ReadResp.buf.size (ReadlinkReq.bufsiz.nat memory)]
      outs := [ReadResp.buf] }
    (fun sret => line "==readlink ret:%ld\n" [.int sret])
    OsResult.int
    (fun ret => line "==readlink send rsp, %d\n" [.int ret])

def rpmsgHandleSystem : Program ℤ :=
  commonHandler systemId (line "==system(%s)\n" [.string UnlinkReq.buf])
    { function := .system, args := [stringArg UnlinkReq.buf] }
    (fun ret => line "==system ret:%d\n" [.int ret])
    (fun ret => line "==system send rsp, %d\n" [.int ret])

def rpmsgHandleAccess : Program ℤ :=
  commonHandler accessId
    (line "==access(%s,%d)\n" [.string AccessReq.pathname, .signed AccessReq.mode])
    { function := .access, args := [stringArg AccessReq.pathname, intArg AccessReq.mode] }
    (fun ret => line "==access ret:%d\n" [.int ret])
    (fun ret => line "==access send rsp, %d\n" [.int ret])

def rpmsgHandleDup2 : Program ℤ :=
  commonHandler dup2Id (line "==dup2(%d,%d)\n" [.signed Dup2Req.oldfd, .signed Dup2Req.newfd])
    { function := .dup2, args := [intArg Dup2Req.oldfd, intArg Dup2Req.newfd] }
    (fun ret => line "==dup2 ret:%d\n" [.int ret])
    (fun ret => line "==dup2 send rsp, %d\n" [.int ret])

def rpmsgHandleMkfifo : Program ℤ :=
  commonHandler mkfifoId
    (line "==mkfifo(%s,%u)\n" [.string AccessReq.pathname, .signed AccessReq.mode])
    { function := .mkfifo, args := [stringArg AccessReq.pathname, intArg AccessReq.mode] }
    (fun ret => line "==mkfifo ret:%d\n" [.int ret])
    (fun ret => line "==mkfifo send rsp, %d\n" [.int ret])

def rpmsgHandleChmod : Program ℤ :=
  commonHandler chmodId
    (line "==chmod(%s,%d)\n" [.string AccessReq.pathname, .signed AccessReq.mode])
    { function := .chmod, args := [stringArg AccessReq.pathname, intArg AccessReq.mode] }
    (fun ret => line "==chmod ret:%d\n" [.int ret])
    (fun ret => line "==chmod send rsp, %d\n" [.int ret])

def rpmsgHandleChdir : Program ℤ :=
  commonHandler chdirId (line "==chdir(%s)\n" [.string UnlinkReq.buf])
    { function := .chdir, args := [stringArg UnlinkReq.buf] }
    (fun ret => line "==chdir ret:%d\n" [.int ret])
    (fun ret => line "==chdir send rsp, %d\n" [.int ret])

def rpmsgHandleMkdir : Program ℤ :=
  commonHandler mkdirId
    (line "==mkdir(%s,%d)\n" [.string AccessReq.pathname, .signed AccessReq.mode])
    { function := .mkdir, args := [stringArg AccessReq.pathname, intArg AccessReq.mode] }
    (fun ret => line "==mkdir ret:%d\n" [.int ret])
    (fun ret => line "==mkdir send rsp, %d\n" [.int ret])

def rpmsgHandleRmdir : Program ℤ :=
  commonHandler rmdirId (line "==rmdir(%s)\n" [.string UnlinkReq.buf])
    { function := .rmdir, args := [stringArg UnlinkReq.buf] }
    (fun ret => line "==rmdir ret:%d\n" [.int ret])
    (fun ret => line "==rmdir send rsp, %d\n" [.int ret])

def rpmsgHandlePipe : Program ℤ := do
  lprintf (line "==pipe\n" [])
  let result ← perform
    { function := .pipe
      arrays := [bytesOf PipeResp.fd fun _ => PipeResp.fd.size]
      outs := [PipeResp.fd] }
  let ret := result.int
  lprintf (line "==pipe ret:%d fd[2]:%d %d\n"
    [.int ret, .signed PipeResp.fd0, .signed PipeResp.fd1])
  lerror ret (← errno)
  storeInt PipeResp.ret ret
  setRspBase
  let ret ← rpcServerSend pipeId .rpmsgRpcOk PipeResp.size
  lprintf (line "==pipe send rsp, %d\n" [.int ret])
  answer ret

/-- The block allocated for the `i`-th vector has `MAX_IOV_SIZE` bytes. -/
def iovBlock (i : ℕ) : Field := ⟨.heap i, 0, maxIovSize⟩

/-- The loop of `writev` over the vectors from the `i`-th on. `memcpy` to a null pointer is a
fault. -/
def copyVectors : ℕ → ℕ → Program Unit
  | 0, _ => pure ()
  | remaining + 1, i => do
      let block ← perform { function := .malloc, args := [fun _ => .int maxIovSize] }
      let len ← peekNat (WritevReq.len i)
      if block.pointer = 0 then .fault
      else do
        memcpy (iovBlock i) (WritevReq.iov i) len
        copyVectors remaining (i + 1)

/-- The arrays that `writev` is handed. -/
def writevOperation (iovcnt : ℤ) : Operation where
  function := .writev
  args := [intArg WritevReq.fd, intArg WritevReq.iovcnt]
  arrays := (List.range iovcnt.toNat).map fun i =>
    bytesOf (iovBlock i) fun memory => (WritevReq.len i).nat memory

/-- The end of `writev`, behind the call. -/
def writevReply (result : OsResult) : Program ℤ := do
  let ret := result.int
  lprintf (line "==writev ret:%d\n" [.int ret])
  lerror ret (← errno)
  storeInt CsretResp.ret ret
  setRspBase
  let ret ← rpcServerSend writevId .rpmsgRpcOk CsretResp.size
  lprintf (line "==writev send rsp, %d\n" [.int ret])
  answer ret

/-- `writev` behind its first line. A negative `iovcnt` is the size of the array of vectors: a
fault. -/
def writeVectors (iovcnt : ℤ) : Program ℤ :=
  if iovcnt < 0 then .fault
  else do
    copyVectors iovcnt.toNat 0
    perform (writevOperation iovcnt) >>= writevReply

def rpmsgHandleWritev : Program ℤ := do
  lprintf (line "==writev\n" [])
  peekInt WritevReq.iovcnt >>= writeVectors

end Mica.Rpc
