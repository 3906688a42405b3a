import Mica.Rpc.Bodies

/-!
# Handlers of streams

A stream is named by the handle that the client got from `fopen` and the like,
or by one of the standard handles, which all stand for the stream `fp` that the
server has opened itself.
-/

namespace Mica.Rpc

open Cells

def rpmsgHandleFopen : Program ℤ :=
  handleHandler fopenId
    (line "==fopen(%s, %s)\n" [.string FopenReq.filename, .string FopenReq.mode])
    { function := .fopen, args := [stringArg FopenReq.filename, stringArg FopenReq.mode] }
    (fun result => if result.pointer = 0 then line "==fopen fail.\n" []
      else line "==fopen success.\n" [])
    (fun ret => line "==fopen send rsp:%d\n" [.int ret])

def rpmsgHandleFclose : Program ℤ := do
  zeroResp CommonResp.size
  lprintf (line "==fclose(0x%x)\n" [.unsigned FcommonReq.fhandle])
  let result ← perform { function := .fclose, args := [fileArg FcommonReq.fhandle] }
  let ret := result.int
  lprintf (line "==fclose ret(%d)\n" [.int ret])
  lerror ret (← errno)
  storeInt CommonResp.ret ret
  setRspBase
  let ret ← rpcServerSend fcloseId .rpmsgRpcOk CommonResp.size
  lprintf (line "==fclose send rsp:0x%x, %d\n" [.unsigned FcommonReq.fhandle, .int ret])
  answer ret

def rpmsgHandleFread : Program ℤ := do
  zeroResp ReadResp.size
  lprintf (line "==fread(0x%x, %u, %u)\n"
    [.unsigned FreadReq.fhandle, .unsigned FreadReq.size, .unsigned FreadReq.count])
  let result ← perform
    { function := .fread
      args := [natArg FreadReq.size, natArg FreadReq.count, fileArg FreadReq.fhandle]
      arrays := [bytesOf ReadResp.buf fun memory =>
        FreadReq.size.nat memory * FreadReq.count.nat memory]
      outs := [ReadResp.buf] }
  let sz := result.count
  lprintf (line "==fread ret(%u)\n" [.int sz])
  storeInt ReadResp.ret sz
  setRspBase
  let payloadSize := ReadResp.size - ReadResp.buf.size + sz
  let ret ← rpcServerSend freadId .rpmsgRpcOk payloadSize
  lprintf (line "==fread send rsp:0x%x, %d\n" [.unsigned FreadReq.fhandle, .int ret])
  answer ret

def rpmsgHandleFwrite : Program ℤ := do
  zeroResp CsretResp.size
  lprintf (line "==fwrite(0x%x, %u, %u)\n"
    [.unsigned FwriteReq.fhandle, .unsigned FwriteReq.size, .unsigned FwriteReq.count])
  let result ← perform
    { function := .fwrite
      args := [natArg FwriteReq.size, natArg FwriteReq.count, fileArg FwriteReq.fhandle]
      arrays := [bytesOf FwriteReq.buf fun memory =>
        FwriteReq.size.nat memory * FwriteReq.count.nat memory] }
  let sz := result.count
  lprintf (line "==fwrite ret(%u)\n" [.int sz])
  storeInt CsretResp.ret sz
  setRspBase
  let ret ← rpcServerSend fwriteId .rpmsgRpcOk CsretResp.size
  lprintf (line "==fwrite send rsp:0x%x, %d\n" [.unsigned FwriteReq.fhandle, .int ret])
  answer ret

def rpmsgHandleFreopen : Program ℤ :=
  handleHandler freopenId
    (line "==freopen(%s, %s)\n" [.string FreopenReq.filename, .string FreopenReq.mode])
    { function := .freopen
      args := [stringArg FreopenReq.filename, stringArg FreopenReq.mode,
        fileArg FreopenReq.fhandle] }
    (fun result => if result.pointer = 0 then line "==freopen fail.\n" []
      else line "==freopen success.\n" [])
    (fun ret => line "==freopen send rsp:%d\n" [.int ret])

def rpmsgHandleFputs : Program ℤ :=
  streamHandler fputsId (line "==fputs(0x%x)\n" [.unsigned FputsReq.fhandle])
    { function := .fputs, args := [stringArg FputsReq.str, fileArg FputsReq.fhandle] }
    (fun ret => line "==fputs ret(%d)\n" [.int ret])
    (fun ret => line "==fputs send rsp:0x%x, %d\n" [.unsigned FputsReq.fhandle, .int ret])

def rpmsgHandleFgets : Program ℤ := do
  zeroResp FgetsResp.size
  lprintf (line "==fgets(0x%x)\n" [.unsigned FgetsReq.fhandle])
  let result ← perform
    { function := .fgets
      args := [intArg FgetsReq.size, fileArg FgetsReq.fhandle]
      arrays := [bytesOf FgetsResp.str fun memory => (FgetsReq.size.int memory).toNat]
      outs := [FgetsResp.str] }
  lprintf (if result.pointer = 0 then line "==fgets ret(end)\n" []
    else line "==fgets ret(continue)\n" [])
  storeInt FgetsResp.isEof (if result.pointer = 0 then 1 else 0)
  lprintf (line "==fgets isEof %d\n" [.signed FgetsResp.isEof])
  setRspBase
  let ret ← rpcServerSend fgetsId .rpmsgRpcOk FgetsResp.size
  lprintf (line "==fgets send rsp:0x%x, %d\n" [.unsigned FgetsReq.fhandle, .int ret])
  answer ret

def rpmsgHandleFeof : Program ℤ :=
  streamHandler feofId (line "==feof(0x%x)\n" [.unsigned FcommonReq.fhandle])
    { function := .feof, args := [fileArg FcommonReq.fhandle] }
    (fun ret => line "==feof ret(%d)\n" [.int ret])
    (fun ret => line "==feof send rsp:0x%x, %d\n" [.unsigned FcommonReq.fhandle, .int ret])

/-- The loop of `rpc_write`: a line feed is preceded by a carriage return. -/
def expandNewlines : List UInt8 → List UInt8
  | [] => []
  | byte :: rest =>
      if byte = 10 then 13 :: byte :: expandNewlines rest else byte :: expandNewlines rest

/-- Writes so many bytes of the array to the server's stream. -/
def rpcWrite (array : Field) (length : Mem → ℕ) : Program ℤ := do
  let result ← perform
    { function := .fwrite
      args := [fun memory => .string (expandNewlines (load memory array (length memory))),
        fun _ => .standardFile]
      arrays := [bytesOf array length] }
  let _ ← perform { function := .fflush, args := [fun _ => .standardFile] }
  pure (if result.int < 0 then result.int else 0)

/-- `MIN(sizeof(req->buf), req->len)`, where the `int` is converted to `size_t`. -/
def clampedLength (array len : Field) (memory : Mem) : ℕ :=
  min array.size (len.int memory % 2 ^ 64).toNat

def rpmsgHandlePrintf : Program ℤ := do
  let ret ← rpcWrite PrintfReq.buf (clampedLength PrintfReq.buf PrintfReq.len)
  lprintf (line "==printf(%d), ret(%d)\n" [.signed PrintfReq.len, .int ret])
  answer ret

def rpmsgHandleFprintf : Program ℤ := do
  let isPty ← test fun memory => isPtyFd (FprintfReq.fhandle.nat memory)
  if isPty then do
    let ret ← rpcWrite FprintfReq.buf (clampedLength FprintfReq.buf FprintfReq.len)
    lprintf (line "==fprintf printf(%d), ret(%d)\n" [.signed FprintfReq.len, .int ret])
    answer ret
  else do
    let result ← perform
      { function := .fwrite
        args := [fun memory => .file (FprintfReq.fhandle.nat memory)]
        arrays := [bytesOf FprintfReq.buf fun memory =>
          (FprintfReq.len.int memory % 2 ^ 64).toNat] }
    lprintf (line "==fprintf(%d), ret(%d)\n" [.signed FprintfReq.len, .int result.int])
    answer result.int

def rpmsgHandleGetc : Program ℤ :=
  streamHandler getcId (line "==getc(0x%x)\n" [.unsigned FcommonReq.fhandle])
    { function := .getc, args := [fileArg FcommonReq.fhandle] }
    (fun ret => line "==getc ret(%d)\n" [.int ret])
    (fun ret => line "==getc send rsp:0x%x, %d\n" [.unsigned FcommonReq.fhandle, .int ret])

def rpmsgHandleFerror : Program ℤ :=
  streamHandler ferrorId (line "==ferror(0x%x)\n" [.unsigned FcommonReq.fhandle])
    { function := .ferror, args := [fileArg FcommonReq.fhandle] }
    (fun ret => line "==ferror ret(%d)\n" [.int ret])
    (fun ret => line "==ferror send rsp:0x%x, %d\n" [.unsigned FcommonReq.fhandle, .int ret])

def rpmsgHandleGetcUnlocked : Program ℤ :=
  streamHandler getcUnlockId (line "==getc_unlocked(0x%x)\n" [.unsigned FcommonReq.fhandle])
    { function := .getcUnlocked, args := [fileArg FcommonReq.fhandle] }
    (fun ret => line "==getc_unlocked ret(%d)\n" [.int ret])
    (fun ret => line "==getc_unlocked send rsp:0x%x, %d\n"
      [.unsigned FcommonReq.fhandle, .int ret])

def rpmsgHandlePclose : Program ℤ :=
  streamHandler pcloseId (line "==pclose(0x%x)\n" [.unsigned FcommonReq.fhandle])
    { function := .pclose, args := [fileArg FcommonReq.fhandle] }
    (fun ret => line "==pclose ret(%d)\n" [.int ret])
    (fun ret => line "==pclose send rsp:0x%x, %d\n" [.unsigned FcommonReq.fhandle, .int ret])

def rpmsgHandleTmpfile : Program ℤ := do
  zeroResp FcommonResp.size
  lprintf (line "==tmpfile\n" [])
  let result ← perform { function := .tmpfile }
  storeInt FcommonResp.fhandle result.pointer
  setRspBase
  let ret ← rpcServerSend tmpfileId .rpmsgRpcOk FcommonResp.size
  lprintf (line "==tmpfile send rsp:0x%x, %d\n" [.unsigned FcommonResp.fhandle, .int ret])
  answer ret

def rpmsgHandleClearerr : Program ℤ := do
  lprintf (line "==clearerr(0x%x)\n" [.unsigned ClearerrReq.fhandle])
  let _ ← perform { function := .clearerr, args := [fileArg ClearerrReq.fhandle] }
  pure 0

def rpmsgHandlePopen : Program ℤ :=
  handleHandler popenId (line "==popen(%s, %s)\n" [.string PopenReq.cmd, .string PopenReq.mode])
    { function := .popen, args := [stringArg PopenReq.cmd, stringArg PopenReq.mode] }
    (fun result => if result.pointer = 0
      then line "==popen fail, fd: 0x%x.\n" [.int result.pointer]
      else line "==popen success, fd: 0x%x.\n" [.int result.pointer])
    (fun ret => line "==popen send rsp:%d\n" [.int ret])

def rpmsgHandleUngetc : Program ℤ :=
  directHandler ungetcId CommonResp.ret CommonResp.size
    (line "==ungetc(%d)\n" [.signed UngetcReq.c])
    { function := .ungetc, args := [intArg UngetcReq.c, fileArg UngetcReq.fhandle] }
    (line "==ungetc %d.\n" [.signed CommonResp.ret])
    (fun ret => line "==ungetc send rsp:%d\n" [.int ret])

def rpmsgHandleFseeko : Program ℤ :=
  directHandler fseekoId CommonResp.ret CommonResp.size
    (line "==fseeko(%ld, %d)\n" [.signed FseekoReq.offset, .signed FseekoReq.whence])
    { function := .fseeko
      args := [fileArg FseekoReq.fhandle, intArg FseekoReq.offset, intArg FseekoReq.whence] }
    (line "==fseeko %d.\n" [.signed CommonResp.ret])
    (fun ret => line "==fseeko send rsp:%d\n" [.int ret])

def rpmsgHandleFtello : Program ℤ :=
  directHandler ftelloId CsretResp.ret CsretResp.size (line "==ftello\n" [])
    { function := .ftello, args := [fileArg FcommonReq.fhandle] }
    (line "==ftello %d.\n" [.signed CsretResp.ret])
    (fun ret => line "==ftello send rsp:%d\n" [.int ret])

def rpmsgHandleFseek : Program ℤ :=
  directHandler fseekId CommonResp.ret CommonResp.size
    (line "==fseek(%ld, %d)\n" [.signed FseekoReq.offset, .signed FseekoReq.whence])
    { function := .fseek
      args := [fileArg FseekoReq.fhandle, intArg FseekoReq.offset, intArg FseekoReq.whence] }
    (line "==fseek %d.\n" [.signed CommonResp.ret])
    (fun ret => line "==fseek send rsp:%d\n" [.int ret])

/-- As `ftello` in everything but the id of the answer. -/
def rpmsgHandleFtell : Program ℤ :=
  directHandler ftellId CsretResp.ret CsretResp.size (line "==ftello\n" [])
    { function := .ftello, args := [fileArg FcommonReq.fhandle] }
    (line "==ftello %d.\n" [.signed CsretResp.ret])
    (fun ret => line "==ftello send rsp:%d\n" [.int ret])

def rpmsgHandleRename : Program ℤ :=
  directHandler renameId CommonResp.ret CommonResp.size
    (line "==rename(%s, %s)\n" [.string RenameReq.old, .string RenameReq.new])
    { function := .rename, args := [stringArg RenameReq.old, stringArg RenameReq.new] }
    (line "==rename %d.\n" [.signed CommonResp.ret])
    (fun ret => line "==rename send rsp:%d\n" [.int ret])

/-- The format of the first line has one conversion more than the call has arguments. -/
def rpmsgHandleRemove : Program ℤ :=
  directHandler removeId CommonResp.ret CommonResp.size
    (line "==remove(%s, %s)\n" [.string RemoveReq.path])
    { function := .remove, args := [stringArg RemoveReq.path] }
    (line "==remove %d.\n" [.signed CommonResp.ret])
    (fun ret => line "==remove send rsp:%d\n" [.int ret])

/-- `mkstemp` completes the template in the request. -/
def rpmsgHandleMkstemp : Program ℤ :=
  directHandler mkstmpId CommonResp.ret CommonResp.size
    (line "==mkstemp(%s)\n" [.string MkstempReq.tmp])
    { function := .mkstemp, args := [stringArg MkstempReq.tmp], outs := [MkstempReq.tmp] }
    (line "==mkstemp %d.\n" [.signed CommonResp.ret])
    (fun ret => line "==mkstemp send rsp:%d\n" [.int ret])

/-- The descriptor that a log line shows for the stream of a handle. -/
def descriptorOf (filenos : Value → ℤ) (fhandle : Field) : Arg :=
  .computed fun memory => file2fd filenos (fileArg fhandle memory)

def rpmsgHandleFflush : Program ℤ := do
  let streams ← perform { function := .streamDescriptor }
  commonHandler fflushId
    (line "==fflush(fileno: %d)\n" [descriptorOf streams.filenos FcommonReq.fhandle])
    { function := .fflush, args := [fileArg FcommonReq.fhandle] }
    (fun ret => line "==fflush(%d)\n" [.int ret])
    (fun ret => line "==fflush send rsp(%d)\n" [.int ret])

def rpmsgHandleGetwc : Program ℤ :=
  wideHandler getwcId
    (fun filenos => line "==getwc(fileno: %d)\n" [descriptorOf filenos FcommonReq.fhandle])
    { function := .getwc, args := [fileArg FcommonReq.fhandle] }
    (fun wret => line "==getwc(%d)\n" [.int wret])
    (fun wret => line "==getwc send rsp(%d)\n" [.int wret])

def rpmsgHandlePutwc : Program ℤ :=
  wideHandler putwcId
    (fun filenos => line "==putwc(%d, fileno: %d)\n"
      [.signed UngetcReq.c, descriptorOf filenos UngetcReq.fhandle])
    { function := .putwc, args := [intArg UngetcReq.c, fileArg UngetcReq.fhandle] }
    (fun wret => line "==putwc(%d)\n" [.int wret])
    (fun wret => line "==putwc send rsp(%d)\n" [.int wret])

def rpmsgHandlePutc : Program ℤ := do
  let streams ← perform { function := .streamDescriptor }
  commonHandler putcId
    (line "==putc(%d, fileno: %d)\n"
      [.signed UngetcReq.c, descriptorOf streams.filenos UngetcReq.fhandle])
    { function := .putc, args := [intArg UngetcReq.c, fileArg UngetcReq.fhandle] }
    (fun ret => line "==putc(%d)\n" [.int ret])
    (fun ret => line "==putc send rsp(%d)\n" [.int ret])

/-- The response carries the initial value of the local `ret`, not the result of the call. -/
def rpmsgHandleUngetwc : Program ℤ := do
  let streams ← perform { function := .streamDescriptor }
  lprintf (line "==ungetwc(%d, fileno: %d)\n"
    [.signed UngetcReq.c, descriptorOf streams.filenos UngetcReq.fhandle])
  let result ← perform
    { function := .ungetwc, args := [intArg UngetcReq.c, fileArg UngetcReq.fhandle] }
  let wret := result.int
  lprintf (line "==ungetwc(%d)\n" [.int wret])
  storeInt CommonResp.ret 0
  setRspBase
  let ret ← rpcServerSend ungetwcId .rpmsgRpcOk CommonResp.size
  lprintf (line "==ungetwc send rsp(%d)\n" [.int wret])
  answer ret

def rpmsgHandleFdopen : Program ℤ := do
  lprintf (line "==fdopen(%d)\n" [.signed FdopenReq.fd])
  let result ← perform
    { function := .fdopen, args := [intArg FdopenReq.fd, stringArg FdopenReq.mode] }
  lprintf (line "==fstat(%p)\n" [.int result.pointer])
  lerror (if result.pointer = 0 then -1 else 0) (← errno)
  storeInt FcommonResp.fhandle result.pointer
  setRspBase
  let ret ← rpcServerSend fdopenId .rpmsgRpcOk FcommonResp.size
  lprintf (line "==fdopen send rsp(%d)\n" [.int ret])
  answer ret

/-- The handle is used as it is, also when it is a standard one. -/
def rawFileArg (fhandle : Field) (memory : Mem) : Value := .file (fhandle.nat memory)

def rpmsgHandleFileno : Program ℤ :=
  commonHandler filenoId (line "==fileno(0x%lx)\n" [.unsigned FcommonReq.fhandle])
    { function := .fileno, args := [rawFileArg FcommonReq.fhandle] }
    (fun ret => line "==fileno(%d)\n" [.int ret])
    (fun ret => line "==fileno send rsp(%d)\n" [.int ret])

def rpmsgHandleSetvbuf : Program ℤ :=
  commonHandler setvbufId (line "==setvbuf(0x%lx) [_IONBF]\n" [.unsigned FcommonReq.fhandle])
    { function := .setvbuf, args := [rawFileArg FcommonReq.fhandle] }
    (fun ret => line "==setvbuf(%d)\n" [.int ret])
    (fun ret => line "==setvbuf send rsp(%d)\n" [.int ret])

def rpmsgHandleFscanfx : Program ℤ := do
  zeroResp FscanfxResp.size
  lprintf (line "==fscanfx(0x%x, %s)\n" [.unsigned FscanfxReq.fhandle, .string FscanfxReq.fmt])
  let result ← perform
    { function := .fscanf
      args := [fileArg FscanfxReq.fhandle, stringArg FscanfxReq.fmt]
      arrays := [bytesOf FscanfxResp.data fun _ => FscanfxResp.data.size]
      outs := [FscanfxResp.data] }
  let ret := result.int
  lprintf (line "==fscanfx ret:%d data:0x%llx\n" [.int ret, .unsigned FscanfxResp.data])
  lerror ret (← errno)
  storeInt FscanfxResp.ret ret
  setRspBase
  let ret ← rpcServerSend fscanfxId .rpmsgRpcOk FscanfxResp.size
  lprintf (line "==fscanfx send rsp, %d\n" [.int ret])
  answer ret

def rpmsgHandlePutchar : Program ℤ :=
  commonHandler putcharId (line "==putchar\n" [])
    { function := .putchar, args := [intArg PutcharReq.ch] }
    (fun ret => line "==putchar ret:%d\n" [.int ret])
    (fun ret => line "==putchar send rsp, %d\n" [.int ret])

end Mica.Rpc
