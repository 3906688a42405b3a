import Mica.Rpc.Files
import Mica.Rpc.Streams
import Mica.Rpc.Sockets
import Mica.Rpc.Hosts

/-!
# The RPC server

The service table, the search for an entry and the callback for an incoming
message, in the build without `MULTI_WORKERS`: the handler runs in the callback,
on the callback's own buffer.
-/

namespace Mica.Rpc

open Errno Cells

def Handler.body : Handler → Program ℤ
  | .handleOpen => rpmsgHandleOpen
  | .handleRead => rpmsgHandleRead
  | .handleWrite => rpmsgHandleWrite
  | .handleClose => rpmsgHandleClose
  | .handleLseek => rpmsgHandleLseek
  | .handleFcntl => rpmsgHandleFcntl
  | .handleIoctl => rpmsgHandleIoctl
  | .handleUnlink => rpmsgHandleUnlink
  | .handleGetdents64 => rpmsgHandleGetdents64
  | .handleFreeaddrinfo => rpmsgHandleFreeaddrinfo
  | .handleGetaddrinfo => rpmsgHandleGetaddrinfo
  | .handleGethostbyaddr => rpmsgHandleGethostbyaddr
  | .handleGethostbyname => rpmsgHandleGethostbyname
  | .handlePoll => rpmsgHandlePoll
  | .handleGetpeername => rpmsgHandleGetpeername
  | .handleGethostname => rpmsgHandleGethostname
  | .handleGetsockname => rpmsgHandleGetsockname
  | .handleGetsockopt => rpmsgHandleGetsockopt
  | .handleSelect => rpmsgHandleSelect
  | .handleAccept => rpmsgHandleAccept
  | .handleBind => rpmsgHandleBind
  | .handleConnect => rpmsgHandleConnect
  | .handleListen => rpmsgHandleListen
  | .handleRecv => rpmsgHandleRecv
  | .handleRecvfrom => rpmsgHandleRecvfrom
  | .handleSend => rpmsgHandleSend
  | .handleSendto => rpmsgHandleSendto
  | .handleSetsockopt => rpmsgHandleSetsockopt
  | .handleShutdown => rpmsgHandleShutdown
  | .handleSocket => rpmsgHandleSocket
  | .handleFopen => rpmsgHandleFopen
  | .handleFclose => rpmsgHandleFclose
  | .handleFread => rpmsgHandleFread
  | .handleFwrite => rpmsgHandleFwrite
  | .handleFreopen => rpmsgHandleFreopen
  | .handleFputs => rpmsgHandleFputs
  | .handleFgets => rpmsgHandleFgets
  | .handleFeof => rpmsgHandleFeof
  | .handleFprintf => rpmsgHandleFprintf
  | .handleGetc => rpmsgHandleGetc
  | .handleFerror => rpmsgHandleFerror
  | .handleGetcUnlocked => rpmsgHandleGetcUnlocked
  | .handlePclose => rpmsgHandlePclose
  | .handleTmpfile => rpmsgHandleTmpfile
  | .handleClearerr => rpmsgHandleClearerr
  | .handlePopen => rpmsgHandlePopen
  | .handleUngetc => rpmsgHandleUngetc
  | .handleFseeko => rpmsgHandleFseeko
  | .handleFtello => rpmsgHandleFtello
  | .handleFseek => rpmsgHandleFseek
  | .handleFtell => rpmsgHandleFtell
  | .handleRename => rpmsgHandleRename
  | .handleRemove => rpmsgHandleRemove
  | .handleMkstemp => rpmsgHandleMkstemp
  | .handleStat => rpmsgHandleStat
  | .handleLstat => rpmsgHandleLstat
  | .handleGetcwd => rpmsgHandleGetcwd
  | .handlePrintf => rpmsgHandlePrintf
  | .handleFflush => rpmsgHandleFflush
  | .handleGetwc => rpmsgHandleGetwc
  | .handlePutwc => rpmsgHandlePutwc
  | .handlePutc => rpmsgHandlePutc
  | .handleUngetwc => rpmsgHandleUngetwc
  | .handleFstat => rpmsgHandleFstat
  | .handleFdopen => rpmsgHandleFdopen
  | .handleFileno => rpmsgHandleFileno
  | .handleSetvbuf => rpmsgHandleSetvbuf
  | .handleSystem => rpmsgHandleSystem
  | .handleReadlink => rpmsgHandleReadlink
  | .handleAccess => rpmsgHandleAccess
  | .handleDup2 => rpmsgHandleDup2
  | .handleMkfifo => rpmsgHandleMkfifo
  | .handleChmod => rpmsgHandleChmod
  | .handleChdir => rpmsgHandleChdir
  | .handleMkdir => rpmsgHandleMkdir
  | .handleRmdir => rpmsgHandleRmdir
  | .handlePipe => rpmsgHandlePipe
  | .handleFscanfx => rpmsgHandleFscanfx
  | .handleIfnameindex => rpmsgHandleIfnameindex
  | .handlePutchar => rpmsgHandlePutchar
  | .handleGaistrerror => rpmsgHandleGaistrerror
  | .handleAccept4 => rpmsgHandleAccept4
  | .handleWritev => rpmsgHandleWritev

/-- `struct rpc_service` -/
structure RpcService where
  id : ℕ
  cbFunction : Handler
deriving DecidableEq

def serviceTable : List RpcService := [
  ⟨openId, .handleOpen⟩,
  ⟨readId, .handleRead⟩,
  ⟨writeId, .handleWrite⟩,
  ⟨closeId, .handleClose⟩,
  ⟨lseekId, .handleLseek⟩,
  ⟨fcntlId, .handleFcntl⟩,
  ⟨ioctlId, .handleIoctl⟩,
  ⟨unlinkId, .handleUnlink⟩,
  ⟨getdents64Id, .handleGetdents64⟩,
  ⟨freeaddrinfoId, .handleFreeaddrinfo⟩,
  ⟨getaddrinfoId, .handleGetaddrinfo⟩,
  ⟨gethostbyaddrId, .handleGethostbyaddr⟩,
  ⟨gethostbynameId, .handleGethostbyname⟩,
  ⟨pollId, .handlePoll⟩,
  ⟨getpeernameId, .handleGetpeername⟩,
  ⟨gethostnameId, .handleGethostname⟩,
  ⟨getsocknameId, .handleGetsockname⟩,
  ⟨getsockoptId, .handleGetsockopt⟩,
  ⟨selectId, .handleSelect⟩,
  ⟨acceptId, .handleAccept⟩,
  ⟨bindId, .handleBind⟩,
  ⟨connectId, .handleConnect⟩,
  ⟨listenId, .handleListen⟩,
  ⟨recvId, .handleRecv⟩,
  ⟨recvfromId, .handleRecvfrom⟩,
  ⟨sendId, .handleSend⟩,
  ⟨sendtoId, .handleSendto⟩,
  ⟨setsockoptId, .handleSetsockopt⟩,
  ⟨shutdownId, .handleShutdown⟩,
  ⟨socketId, .handleSocket⟩,
  ⟨fopenId, .handleFopen⟩,
  ⟨fcloseId, .handleFclose⟩,
  ⟨freadId, .handleFread⟩,
  ⟨fwriteId, .handleFwrite⟩,
  ⟨freopenId, .handleFreopen⟩,
  ⟨fputsId, .handleFputs⟩,
  ⟨fgetsId, .handleFgets⟩,
  ⟨feofId, .handleFeof⟩,
  ⟨fprintfId, .handleFprintf⟩,
  ⟨getcId, .handleGetc⟩,
  ⟨ferrorId, .handleFerror⟩,
  ⟨getcUnlockId, .handleGetcUnlocked⟩,
  ⟨pcloseId, .handlePclose⟩,
  ⟨tmpfileId, .handleTmpfile⟩,
  ⟨clearerrId, .handleClearerr⟩,
  ⟨popenId, .handlePopen⟩,
  ⟨ungetcId, .handleUngetc⟩,
  ⟨fseekoId, .handleFseeko⟩,
  ⟨ftelloId, .handleFtello⟩,
  ⟨fseekId, .handleFseek⟩,
  ⟨ftellId, .handleFtell⟩,
  ⟨renameId, .handleRename⟩,
  ⟨removeId, .handleRemove⟩,
  ⟨mkstmpId, .handleMkstemp⟩,
  ⟨statId, .handleStat⟩,
  ⟨lstatId, .handleLstat⟩,
  ⟨getcwdId, .handleGetcwd⟩,
  ⟨printfId, .handlePrintf⟩,
  ⟨fflushId, .handleFflush⟩,
  ⟨getwcId, .handleGetwc⟩,
  ⟨putwcId, .handlePutwc⟩,
  ⟨putcId, .handlePutc⟩,
  ⟨ungetwcId, .handleUngetwc⟩,
  ⟨fstatId, .handleFstat⟩,
  ⟨fdopenId, .handleFdopen⟩,
  ⟨filenoId, .handleFileno⟩,
  ⟨setvbufId, .handleSetvbuf⟩,
  ⟨systemId, .handleSystem⟩,
  ⟨readlinkId, .handleReadlink⟩,
  ⟨accessId, .handleAccess⟩,
  ⟨dup2Id, .handleDup2⟩,
  ⟨mkfifoId, .handleMkfifo⟩,
  ⟨chmodId, .handleChmod⟩,
  ⟨chdirId, .handleChdir⟩,
  ⟨mkdirId, .handleMkdir⟩,
  ⟨rmdirId, .handleRmdir⟩,
  ⟨pipeId, .handlePipe⟩,
  ⟨fscanfxId, .handleFscanfx⟩,
  ⟨ifnameindexId, .handleIfnameindex⟩,
  ⟨putcharId, .handlePutchar⟩,
  ⟨gaistrerrorId, .handleGaistrerror⟩,
  ⟨accept4Id, .handleAccept4⟩,
  ⟨writevId, .handleWritev⟩]

/-- `find_service`; its argument is an `unsigned int`. -/
def findService (id : ℕ) : Option RpcService := serviceTable.find? fun service => service.id = id

/-- A message: the receive buffer, how much of it the message takes, and the sender. -/
structure Message where
  data : ℕ → UInt8
  len : ℕ
  src : ℕ

namespace Message

/-- `*(unsigned long *)data`, which does not look at the length of the message. -/
def id (message : Message) : ℕ := LittleEndian.value ((List.range 8).map message.data)

def bytes (message : Message) : List UInt8 := (List.range message.len).map message.data

end Message

def requestBuffer : Field := reqField 0 rpcBufferSize

/-- The call of a handler. -/
def runHandler (handler : Handler) : Program ℤ := .enter handler handler.body

def rpmsgRpcServerCb (message : Message) : Program ℤ := do
  lprintf (line "ccb: src %x, len %lu\n" [.int message.src, .int message.len])
  lprintf (line "fun_id:%d\n" [.int message.id])
  if rpcBufferSize < message.len then do
    lprintf (line "overlong data\n" [])
    let _ ← rpcServerSend (message.id % 2 ^ 32) .rpcEoverlong 0
    pure (-einval)
  else do
    store requestBuffer message.bytes
    match findService (message.id % 2 ^ 32) with
    | some service => do
        let failed ← runHandler service.cbFunction
        if failed ≠ 0 then lprintf (line "Service failed at rpc id: %u\r\n" [.int message.id])
        else pure ()
        pure 0
    | none => do
        lprintf (line "Handling remote procedure call errors: rpc id %u\r\n" [.int message.id])
        let _ ← rpcServerSend (message.id % 2 ^ 32) .rpmsgRpcInvalidId 0
        pure 0

end Mica.Rpc
