import Mica.Rpc.Program

/-!
# Layout of requests and responses

The structs of `rpc_internal_model.h` with the offsets of the LP64 ABI. A type
that the header defines as another one uses the fields of that one. Fields that
no handler touches are left out.
-/

namespace Mica.Rpc

def maxSbufLen : ℕ := 432
def maxStringLen : ℕ := maxSbufLen
def maxFileNameLen : ℕ := 128
def maxFileModeLen : ℕ := 6
def maxPollFds : ℕ := 32
def maxPathLen : ℕ := 1024
def maxIfnameindexLen : ℕ := 40
def maxIfnameindexSize : ℕ := 40
def maxIovLen : ℕ := 60
def maxIovSize : ℕ := 30

/-- Every request that is answered has the trace id behind the function id. -/
def traceId : Field := reqField 8 4

/-! ## Responses

`rpc_resp_base_t` is the beginning of every response. -/

def respTraceId : Field := respField 0 4
def respErrnum : Field := respField 4 4

namespace CommonResp
def ret : Field := respField 8 4
def size : ℕ := 12
end CommonResp

namespace FcommonResp
def fhandle : Field := respField 8 8
def size : ℕ := 16
end FcommonResp

/-- Also `rpc_lseek_resp_t`, `rpc_ftello_resp_t`, `rpc_fwrite_resp_t` and `rpc_writev_resp_t`. -/
def CsretResp.ret : Field := respField 8 8
def CsretResp.size : ℕ := 16

/-- Also the responses of `recv`, `readlink` and `fread`. -/
def ReadResp.ret : Field := respField 8 8
def ReadResp.buf : Field := respField 16 maxStringLen
def ReadResp.size : ℕ := 448

namespace IoctlResp
def ret : Field := respField 8 4
def len : Field := respField 16 8
def buf : Field := respField 24 maxStringLen
def size : ℕ := 456
end IoctlResp

namespace GethostbyaddrResp
def len : Field := respField 12 4
def buf : Field := respField 16 maxSbufLen
def size : ℕ := 448
end GethostbyaddrResp

namespace GetaddrinfoResp
def ret : Field := respField 12 4
def cnt : Field := respField 16 4
def buflen : Field := respField 20 4
def buf : Field := respField 24 maxSbufLen
def size : ℕ := 456
end GetaddrinfoResp

/-- Also the responses of `accept`, `accept4`, `gethostname` and `getsockopt`, whose arrays have
other names. -/
def GetpeernameResp.ret : Field := respField 8 4
def GetpeernameResp.addrlen : Field := respField 12 4
def GetpeernameResp.addrBuf : Field := respField 16 maxSbufLen
def GetpeernameResp.size : ℕ := 448

namespace RecvfromResp
def addrlen : Field := respField 8 4
def ret : Field := respField 16 8
/-- `MAX_SADDR_SIZE` times `struct sockaddr`, 16 bytes -/
def addr : Field := respField 24 128
def buf : Field := respField 152 304
def size : ℕ := 456
end RecvfromResp

namespace PollResp
def ret : Field := respField 8 4
def fds : Field := respField 12 256
/-- The descriptor and the returned events of the first entry -/
def fd0 : Field := respField 12 4
def revents0 : Field := respField 18 2
def size : ℕ := 268
end PollResp

namespace SelectResp
def readfds : Field := respField 8 128
def writefds : Field := respField 136 128
def exceptfds : Field := respField 264 128
def timeout : Field := respField 392 16
def ret : Field := respField 408 4
def size : ℕ := 416
end SelectResp

namespace Getdents64Resp
def pos : Field := respField 8 8
def ret : Field := respField 16 4
def buf : Field := respField 20 maxStringLen
def size : ℕ := 456
end Getdents64Resp

namespace FgetsResp
def isEof : Field := respField 8 4
def str : Field := respField 12 maxStringLen
def size : ℕ := 444
end FgetsResp

namespace StatResp
def ret : Field := respField 8 4
def dev : Field := respField 16 8
def ino : Field := respField 24 8
def nlink : Field := respField 32 8
def mode : Field := respField 40 4
def uid : Field := respField 44 4
def gid : Field := respField 48 4
def rdev : Field := respField 56 8
def stSize : Field := respField 64 8
def blksize : Field := respField 72 8
def blocks : Field := respField 80 8
def atimeSec : Field := respField 88 8
def atimeNsec : Field := respField 96 8
def mtimeSec : Field := respField 104 8
def mtimeNsec : Field := respField 112 8
def ctimeSec : Field := respField 120 8
def ctimeNsec : Field := respField 128 8
def size : ℕ := 136
end StatResp

namespace GetcwdResp
def isNull : Field := respField 8 4
def buf : Field := respField 12 maxPathLen
def size : ℕ := 1036
end GetcwdResp

namespace PipeResp
def ret : Field := respField 8 8
def fd : Field := respField 16 8
def fd0 : Field := respField 16 4
def fd1 : Field := respField 20 4
def size : ℕ := 24
end PipeResp

namespace FscanfxResp
def ret : Field := respField 8 8
def data : Field := respField 16 8
def size : ℕ := 24
end FscanfxResp

namespace IfNameindexResp
/-- Sent, but assigned by no handler -/
def ret : Field := respField 8 8
def cnt : Field := respField 16 4
/-- `if_index[i].if_index`; an entry has 44 bytes -/
def ifIndex (i : ℕ) : Field := respField (20 + 44 * i) 4
def ifName (i : ℕ) : Field := respField (24 + 44 * i) maxIfnameindexLen
def size : ℕ := 1784
end IfNameindexResp

namespace GaiStrerrorResp
def isNull : Field := respField 8 4
def buf : Field := respField 12 maxStringLen
def size : ℕ := 444
end GaiStrerrorResp

/-! ## Requests -/

namespace OpenReq
def flags : Field := reqField 12 4
def mode : Field := reqField 16 4
def buf : Field := reqField 20 maxFileNameLen
end OpenReq

namespace ReadReq
def fd : Field := reqField 12 4
def count : Field := reqField 16 4
end ReadReq

namespace WriteReq
def fd : Field := reqField 12 4
def count : Field := reqField 16 4
def buf : Field := reqField 20 maxStringLen
end WriteReq

namespace CloseReq
def fd : Field := reqField 12 4
end CloseReq

namespace IoctlReq
def fd : Field := reqField 12 4
def request : Field := reqField 16 8
def len : Field := reqField 24 8
def buf : Field := reqField 32 maxStringLen
end IoctlReq

namespace LseekReq
def fd : Field := reqField 12 4
def offset : Field := reqField 16 8
def whence : Field := reqField 24 4
end LseekReq

namespace FcntlReq
def fd : Field := reqField 12 4
def cmd : Field := reqField 16 4
def arg : Field := reqField 24 8
end FcntlReq

namespace UnlinkReq
def buf : Field := reqField 12 maxFileNameLen
end UnlinkReq

namespace GethostbyaddrReq
def len : Field := reqField 12 4
def type : Field := reqField 16 4
def buf : Field := reqField 20 maxSbufLen
end GethostbyaddrReq

namespace GethostbynameReq
def buf : Field := reqField 12 maxSbufLen
end GethostbynameReq

namespace GetaddrinfoReq
def hintsCnt : Field := reqField 12 4
def node : Field := reqField 20 4
def service : Field := reqField 24 4
def buflen : Field := reqField 28 4
def buf : Field := reqField 32 maxSbufLen
end GetaddrinfoReq

/-- Also the requests of `getsockname`, `accept`, `bind` and `connect`. -/
def GetpeernameReq.sockfd : Field := reqField 12 4
def GetpeernameReq.addrlen : Field := reqField 16 4
def GetpeernameReq.addrBuf : Field := reqField 20 maxSbufLen

namespace ListenReq
def sockfd : Field := reqField 12 4
def backlog : Field := reqField 16 4
end ListenReq

namespace RecvReq
def fd : Field := reqField 12 4
def flags : Field := reqField 16 4
def len : Field := reqField 24 8
end RecvReq

namespace RecvfromReq
def fd : Field := reqField 12 4
def flags : Field := reqField 16 4
def addrlen : Field := reqField 20 4
def len : Field := reqField 24 8
def buf : Field := reqField 32 maxSbufLen
end RecvfromReq

namespace SendReq
def fd : Field := reqField 12 4
def len : Field := reqField 16 8
def flags : Field := reqField 24 4
def buf : Field := reqField 28 maxSbufLen
end SendReq

namespace SendtoReq
def fd : Field := reqField 12 4
def len : Field := reqField 16 8
def flags : Field := reqField 24 4
def addrlen : Field := reqField 28 4
def buf : Field := reqField 32 maxSbufLen
end SendtoReq

namespace SetsockoptReq
def fd : Field := reqField 12 4
def level : Field := reqField 16 4
def optname : Field := reqField 20 4
def optlen : Field := reqField 24 4
def optval : Field := reqField 28 maxStringLen
end SetsockoptReq

namespace ShutdownReq
def fd : Field := reqField 12 4
def how : Field := reqField 16 4
end ShutdownReq

namespace SocketReq
def domain : Field := reqField 12 4
def type : Field := reqField 16 4
def protocol : Field := reqField 20 4
end SocketReq

namespace PollReq
def timeout : Field := reqField 12 4
def fds : Field := reqField 16 256
def fd0 : Field := reqField 16 4
def events0 : Field := reqField 20 2
def revents0 : Field := reqField 22 2
def nfds : Field := reqField 272 8
end PollReq

namespace SelectReq
def nfds : Field := reqField 12 4
def readfds : Field := reqField 16 128
def writefds : Field := reqField 144 128
def exceptfds : Field := reqField 272 128
def timeout : Field := reqField 400 16
def tvSec : Field := reqField 400 8
def tvUsec : Field := reqField 408 8
def isReadfdsNotNull : Field := reqField 416 1
def isWritefdsNotNull : Field := reqField 417 1
def isExceptfdsNotNull : Field := reqField 418 1
def isTimeoutNotNull : Field := reqField 419 1
end SelectReq

namespace GethostnameReq
def len : Field := reqField 16 8
end GethostnameReq

namespace GetsockoptReq
def sockfd : Field := reqField 12 4
def optlen : Field := reqField 16 4
def level : Field := reqField 20 4
def optname : Field := reqField 24 4
end GetsockoptReq

namespace PrintfReq
def len : Field := reqField 8 4
def buf : Field := reqField 12 maxStringLen
end PrintfReq

namespace Getdents64Req
def count : Field := reqField 12 4
def pos : Field := reqField 16 8
def fd : Field := reqField 24 4
end Getdents64Req

/-- Also the requests of `setvbuf` and, without trace id, not that of `clearerr`. -/
def FcommonReq.fhandle : Field := reqField 16 8

namespace FopenReq
def filename : Field := reqField 12 maxFileNameLen
def mode : Field := reqField 140 maxFileModeLen
end FopenReq

namespace FreadReq
def size : Field := reqField 16 8
def count : Field := reqField 24 8
def fhandle : Field := reqField 32 8
end FreadReq

namespace FwriteReq
def size : Field := reqField 16 8
def count : Field := reqField 24 8
def fhandle : Field := reqField 32 8
def buf : Field := reqField 40 maxStringLen
end FwriteReq

namespace FreopenReq
def filename : Field := reqField 12 maxFileNameLen
def mode : Field := reqField 140 maxFileModeLen
def fhandle : Field := reqField 152 8
end FreopenReq

namespace FputsReq
def fhandle : Field := reqField 16 8
def str : Field := reqField 24 maxStringLen
end FputsReq

namespace FgetsReq
def fhandle : Field := reqField 16 8
def size : Field := reqField 24 4
end FgetsReq

namespace FprintfReq
def fhandle : Field := reqField 8 8
def len : Field := reqField 16 4
def buf : Field := reqField 20 maxStringLen
end FprintfReq

namespace ClearerrReq
def fhandle : Field := reqField 8 8
end ClearerrReq

namespace PopenReq
def cmd : Field := reqField 12 maxFileNameLen
def mode : Field := reqField 140 maxFileModeLen
end PopenReq

/-- Also the request of `putc`, and those of `putwc` and `ungetwc`, whose character is `wc`. -/
def UngetcReq.c : Field := reqField 12 4
def UngetcReq.fhandle : Field := reqField 16 8

namespace FseekoReq
def fhandle : Field := reqField 16 8
def offset : Field := reqField 24 8
def whence : Field := reqField 32 4
end FseekoReq

namespace RenameReq
def old : Field := reqField 12 maxFileNameLen
def new : Field := reqField 140 maxFileNameLen
end RenameReq

namespace RemoveReq
def path : Field := reqField 12 maxFileNameLen
end RemoveReq

namespace MkstempReq
def tmp : Field := reqField 12 maxFileNameLen
end MkstempReq

namespace StatReq
def path : Field := reqField 12 maxPathLen
end StatReq

namespace GetcwdReq
def size : Field := reqField 16 8
end GetcwdReq

namespace FdopenReq
def fd : Field := reqField 12 4
def mode : Field := reqField 16 maxFileModeLen
end FdopenReq

namespace FstatReq
def fd : Field := reqField 12 4
end FstatReq

namespace ReadlinkReq
def bufsiz : Field := reqField 16 8
def pathname : Field := reqField 24 maxStringLen
end ReadlinkReq

/-- Also the requests of `mkfifo`, `chmod` and `mkdir`. -/
def AccessReq.mode : Field := reqField 12 4
def AccessReq.pathname : Field := reqField 16 maxStringLen

namespace Dup2Req
def oldfd : Field := reqField 12 4
def newfd : Field := reqField 16 4
end Dup2Req

namespace FscanfxReq
def fmt : Field := reqField 12 maxFileNameLen
def fhandle : Field := reqField 144 8
end FscanfxReq

namespace PutcharReq
def ch : Field := reqField 12 4
end PutcharReq

namespace GaiStrerrorReq
def error : Field := reqField 12 4
end GaiStrerrorReq

namespace Accept4Req
def sockfd : Field := reqField 12 4
def flags : Field := reqField 16 4
def addrlen : Field := reqField 20 4
def addrBuf : Field := reqField 24 maxSbufLen
end Accept4Req

namespace WritevReq
def fd : Field := reqField 12 4
def iovcnt : Field := reqField 16 4
/-- `buf[i].len` and `buf[i].iov`; an `rpc_iovbuf` has 72 bytes -/
def len (i : ℕ) : Field := reqField (24 + 72 * i) 8
def iov (i : ℕ) : Field := reqField (32 + 72 * i) maxIovLen
end WritevReq

end Mica.Rpc
