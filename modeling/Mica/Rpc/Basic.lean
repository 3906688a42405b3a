import Mica.Rpc.Layout

/-!
# Helpers of the RPC handlers

The functions of `rpc_backend.c` that every handler uses, the function ids and
the error codes. Requests start with the function id (8 bytes) and, except for
`printf`, `fprintf` and `clearerr`, the trace id (4 bytes); responses start with
`rpc_resp_base_t`, the trace id and the error number. Offsets are those of the
LP64 ABI. The null checks of the handlers' arguments are left out: the callback
passes its own buffer, the instance and its endpoint.
-/

namespace Mica.Rpc

open Cells

/-! ## Function ids -/

def openId : ℕ := 1
def closeId : ℕ := 2
def writeId : ℕ := 3
def readId : ℕ := 4
def lseekId : ℕ := 5
def fcntlId : ℕ := 6
def ioctlId : ℕ := 7
def unlinkId : ℕ := 8
def getdents64Id : ℕ := 9
def fopenId : ℕ := 10
def fcloseId : ℕ := 11
def freadId : ℕ := 12
def fwriteId : ℕ := 13
def freopenId : ℕ := 14
def fputsId : ℕ := 15
def fgetsId : ℕ := 16
def feofId : ℕ := 17
def fprintfId : ℕ := 18
def getcId : ℕ := 19
def ferrorId : ℕ := 20
def getcUnlockId : ℕ := 21
def pcloseId : ℕ := 22
def tmpfileId : ℕ := 23
def clearerrId : ℕ := 24
def popenId : ℕ := 25
def ungetcId : ℕ := 26
def fseekoId : ℕ := 27
def ftelloId : ℕ := 28
def renameId : ℕ := 29
def removeId : ℕ := 30
def mkstmpId : ℕ := 31
def fseekId : ℕ := 32
def ftellId : ℕ := 33
def fflushId : ℕ := 34
def getwcId : ℕ := 35
def putwcId : ℕ := 36
def putcId : ℕ := 37
def ungetwcId : ℕ := 38
def statId : ℕ := 39
def getcwdId : ℕ := 40
def lstatId : ℕ := 41
def fstatId : ℕ := 42
def fdopenId : ℕ := 45
def filenoId : ℕ := 46
def setvbufId : ℕ := 46
def readlinkId : ℕ := 47
def systemId : ℕ := 48
def accessId : ℕ := 49
def pipeId : ℕ := 50
def dup2Id : ℕ := 51
def mkfifoId : ℕ := 52
def chmodId : ℕ := 53
def chdirId : ℕ := 54
def mkdirId : ℕ := 55
def rmdirId : ℕ := 56
def fscanfxId : ℕ := 57
def freeaddrinfoId : ℕ := 100
def getaddrinfoId : ℕ := 101
def gethostbyaddrId : ℕ := 102
def gethostbynameId : ℕ := 103
def pollId : ℕ := 104
def getpeernameId : ℕ := 105
def gethostnameId : ℕ := 106
def getsocknameId : ℕ := 107
def getsockoptId : ℕ := 108
def selectId : ℕ := 109
def acceptId : ℕ := 110
def bindId : ℕ := 111
def connectId : ℕ := 112
def listenId : ℕ := 113
def recvId : ℕ := 114
def recvfromId : ℕ := 115
def sendId : ℕ := 116
def sendtoId : ℕ := 117
def setsockoptId : ℕ := 118
def shutdownId : ℕ := 119
def socketId : ℕ := 120
def ifnameindexId : ℕ := 121
def putcharId : ℕ := 122
def gaistrerrorId : ℕ := 123
def accept4Id : ℕ := 124
def writevId : ℕ := 125
def printfId : ℕ := 300

/-! ## Error codes -/

def rpcEoverlong : ℤ := 3002
def rpcEcorrupted : ℤ := 3003
def rpcEinval : ℤ := 3005
def rpcEnomem : ℤ := 3006

/-! ## Operations -/

/-- A call of `lprintf`. -/
structure Line where
  format : Format
  args : List Arg

def line (text : String) (args : List Arg)
    (separated : Printf.separated (Printf.parse text.toList) = true := by decide) : Line :=
  ⟨⟨text, separated⟩, args⟩

def lprintf (entry : Line) : Program Unit := .log entry.format entry.args (.pure ())

def intArg (field : Field) (memory : Mem) : Value := .int (field.int memory)

def natArg (field : Field) (memory : Mem) : Value := .int (field.nat memory)

def stringArg (field : Field) (memory : Mem) : Value := .string (field.string stringLimit memory)

/-- The array as a buffer of so many bytes. -/
def bytesOf (array : Field) (length : Mem → ℕ) (memory : Mem) : Access := ⟨array, 0, length memory⟩

def bytesFrom (array : Field) (start length : Mem → ℕ) (memory : Mem) : Access :=
  ⟨array, start memory, length memory⟩

def store (field : Field) (data : List UInt8) : Program Unit := .store field data (.pure ())

/-- A call: its arguments, the arrays of the request, the response or the heap that it is given, the
arrays and the length that it stores its results to. -/
structure Operation where
  function : OsCall
  args : List (Mem → Value) := []
  arrays : List (Mem → Access) := []
  outs : List Field := []
  socklen : Option Field := none

def storeOuts : List Field → List (List UInt8) → Program Unit
  | field :: fields, out :: outs => do
      store field out
      storeOuts fields outs
  | _, _ => pure ()

def storeSocklen : Option Field → Option ℕ → Program Unit
  | some field, some length => store field (LittleEndian.bytes field.size length)
  | _, _ => pure ()

def perform (operation : Operation) : Program OsResult :=
  .sys operation.function (fun memory => operation.args.map (· memory))
    (fun memory => operation.arrays.map (· memory)) fun result => do
      storeOuts operation.outs result.outs
      storeSocklen operation.socklen result.socklen
      pure result

theorem perform_bind {α : Type} (operation : Operation) (next : OsResult → Program α) :
    perform operation >>= next = .sys operation.function
      (fun memory => operation.args.map (· memory)) (fun memory => operation.arrays.map (· memory))
      fun result => (do
        storeOuts operation.outs result.outs
        storeSocklen operation.socklen result.socklen
        next result) := by
  show Program.sys _ _ _ _ = _
  congr
  funext result
  show (do
    storeOuts operation.outs result.outs
    storeSocklen operation.socklen result.socklen
    pure result) >>= next = _
  simp only [bind_assoc, pure_bind]

/-- Assignment of a number to a field. -/
def storeInt (field : Field) (value : ℤ) : Program Unit :=
  store field (LittleEndian.intBytes field.size value)

/-- `= {0}` -/
def zeroResp (size : ℕ) : Program Unit := store (respField 0 size) (List.replicate size 0)

def memcpy (dst src : Field) (count : ℕ) : Program Unit := .copy dst src count (.pure ())

/-- Assignment of a field to a field of the same size. -/
def assign (dst src : Field) : Program Unit := memcpy dst src dst.size

/-- A value computed from memory, to go on with. -/
def peek (read : Mem → ℤ) : Program ℤ := .peek read .pure

def peekNat (field : Field) : Program ℕ :=
  .peek (fun memory => field.nat memory) fun value => .pure value.toNat

def peekInt (field : Field) : Program ℤ := peek fun memory => field.int memory

def test (condition : Mem → Bool) : Program Bool :=
  .peek (fun memory => if condition memory then 1 else 0) fun value => .pure (value = 1)

def errno : Program ℤ := .getErrno .pure

def lerror (ret errnum : ℤ) : Program Unit :=
  if ret < 0 then do
    let message ← perform { function := .strerror, args := [fun _ => .int errnum] }
    lprintf (line "errstr:%s\n" [message.text.elim .null .text])
  else pure ()

def setRspBase : Program Unit := do
  assign respTraceId traceId
  let errnum ← errno
  storeInt respErrnum errnum
  .setErrno 0 (.pure ())

def rpcServerSend (id : ℕ) (status : Status) (size : ℕ) : Program ℤ := .send id status size .pure

/-- The end of a handler, `return ret > 0 ? 0 : ret` -/
def answer (ret : ℤ) : Program ℤ := pure (if 0 < ret then 0 else ret)

/-! ## Streams -/

/-- The standard streams of the client are the handles 1, 2 and 3. -/
def isPtyFd (fhandle : ℕ) : Bool := fhandle = 2 ∨ fhandle = 1 ∨ fhandle = 3

def handle2file (fhandle : ℕ) : Value :=
  if isPtyFd fhandle then .standardFile
  else if fhandle = 0 then .null
  else .file fhandle

def fileArg (fhandle : Field) (memory : Mem) : Value := handle2file (fhandle.nat memory)

def file2fd (filenos : Value → ℤ) (file : Value) : ℤ :=
  if file = .null then -1 else filenos file

end Mica.Rpc
