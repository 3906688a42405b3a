import Mica.Lib.CTypes
import Mica.Lib.Cells

/-!
# Programs of the RPC server

The handlers of `rpc_backend.c` are modelled as programs over what they do to
the world: write a log line, call the operating system or the C library, store
to and copy between the request buffer and the response struct, read a value
out of memory to decide how to go on, use `errno`, and send a frame. The result
of a call is an input of the run: `results k` is what the `k`-th call delivers,
the writes of the log and the transmissions included.

The request buffer `buf[RPC_BUFFER_SIZE]` and the response struct are regions
that start with unspecified contents and go on behind their end, where the rest
of the stack is. A store that does not fit the array it goes to leaves the
defined behaviour of C: the run ends there with the event `fault`.
-/

namespace Mica.Rpc

open Errno Cells

/-- The request buffer, the response struct, the blocks a handler allocates, and what a missing
argument of a variadic call points to. -/
inductive Region where
  | req
  | resp
  | heap (block : ℕ)
  | stray
deriving DecidableEq

abbrev Mem := Address Region → UInt8

/-- A field of a struct, or an array. -/
abbrev Field := Extent Region

def rpcBufferSize : ℕ := 2048

def proxyMaxBufLen : ℕ := 2024

/-- `WBUF_LEN`, the size of the buffer a log line is formatted into -/
def wbufLen : ℕ := 512

/-- A string without terminator is followed into the stack for at most so many bytes. -/
def stringLimit : ℕ := 2 * rpcBufferSize

/-- The field at an offset of the request. -/
def reqField (off size : ℕ) : Field := ⟨.req, off, size⟩

/-- The field at an offset of the response. -/
def respField (off size : ℕ) : Field := ⟨.resp, off, size⟩

/-! ## The operating system and the C library -/

inductive OsCall where
  | openFile | close | read | write | lseek | fcntl | ioctl | unlink | getdents64
  | getaddrinfo | freeaddrinfo | gethostbyaddr | gethostbyname | poll | getpeername | gethostname
  | getsockname | getsockopt | select | accept | bind | connect | listen | recv | recvfrom
  | send | sendto | setsockopt | shutdown | socket
  | fopen | fclose | fread | fwrite | freopen | fputs | fgets | feof | getc | ferror
  | getcUnlocked | pclose | tmpfile | clearerr | popen | ungetc | fseeko | ftello | fseek
  | rename | remove | mkstemp | fflush | getwc | putwc | putc | ungetwc | stat | lstat | getcwd
  | fstat | fdopen | fileno | setvbuf | system | readlink | access | dup2 | mkfifo | chmod
  | chdir | mkdir | rmdir | pipe | fscanf | ifNameindex | ifFreenameindex | putchar
  | gaiStrerror | accept4 | writev | strerror | malloc | streamDescriptor
deriving DecidableEq, Repr

/-- The argument of a call. -/
inductive Value where
  | int (value : ℤ)
  | string (bytes : List UInt8)
  | array (field : Field)
  | null
  | standardFile
  | file (handle : ℕ)
deriving DecidableEq

/-- Every address of a host has `h_length` bytes. -/
structure Hostent where
  name : Option CString
  aliases : List CString
  addrtype : ℤ
  length : ℕ
  addrList : List (List UInt8)
  addrLength : ∀ addr ∈ addrList, addr.length = length

/-- `ai_addr` points to `ai_addrlen` bytes. -/
structure Addrinfo where
  flags : ℤ
  family : ℤ
  socktype : ℤ
  protocol : ℤ
  addr : List UInt8
  canonname : Option CString

structure Stat where
  dev : ℤ := 0
  ino : ℤ := 0
  nlink : ℤ := 0
  mode : ℤ := 0
  uid : ℤ := 0
  gid : ℤ := 0
  rdev : ℤ := 0
  size : ℤ := 0
  blksize : ℤ := 0
  blocks : ℤ := 0
  atimSec : ℤ := 0
  atimNsec : ℤ := 0
  mtimSec : ℤ := 0
  mtimNsec : ℤ := 0
  ctimSec : ℤ := 0
  ctimNsec : ℤ := 0

/-- What a call delivers. Each call uses the parts that its documentation names: the value it
returns, the `errno` it sets, the bytes it stores into each array it is given, the length it
stores through a `socklen_t *`, the string, host, address list, interface list or file status
it returns a pointer to, and the `_fileno` of the streams when it looks at one. -/
structure OsResult where
  ret : ℤ := 0
  errno : Option ℤ := none
  outs : List (List UInt8) := []
  socklen : Option ℕ := none
  text : Option CString := none
  host : Option Hostent := none
  addrs : List Addrinfo := []
  interfaces : Option (List (ℕ × CString)) := none
  stat : Stat := {}
  filenos : Value → ℤ := fun _ => 0

instance : Inhabited OsResult := ⟨{}⟩

namespace OsResult

/-- The returned value as an `int`. -/
def int (result : OsResult) : ℤ := result.ret.bmod (2 ^ 32)

/-- The returned value as a `ssize_t`, `off_t` or `long`. -/
def long (result : OsResult) : ℤ := result.ret.bmod (2 ^ 64)

/-- The returned value as a number of items: no array has more than `PTRDIFF_MAX` of them. -/
def count (result : OsResult) : ℕ := (result.ret % 2 ^ 63).toNat

/-- The returned value as a pointer. -/
def pointer (result : OsResult) : ℤ := result.ret % 2 ^ 64

/-- The bytes stored into the `i`-th output array. -/
def out (result : OsResult) (i : ℕ) : List UInt8 := result.outs.getD i []

end OsResult

/-- Bytes of an array that a call or `memcpy` is given: `length` of them from `start` on. -/
structure Access where
  array : Field
  start : ℕ
  length : ℕ
deriving DecidableEq

def Access.InBounds (access : Access) : Prop := access.start + access.length ≤ access.array.size

instance (access : Access) : Decidable access.InBounds :=
  inferInstanceAs (Decidable (_ ≤ _))

/-! ## Log lines -/

/-- An argument of a log line: a number, a field of memory, a number computed from memory, the
string in a `char` array, a string of the C library, or a null pointer. -/
inductive Arg where
  | int (value : ℤ)
  | unsigned (field : Field)
  | signed (field : Field)
  | computed (read : Mem → ℤ)
  | string (field : Field)
  | text (content : CString)
  | null

/-- The text of an argument; glibc prints a null string as `(null)`. -/
def Arg.render (memory : Mem) (arg : Arg) (conversion : Printf.Conv) : List UInt8 :=
  match arg with
  | int value => conversion.text value
  | unsigned field => conversion.text (field.nat memory)
  | signed field => conversion.text (field.int memory)
  | computed read => conversion.text (read memory)
  | string field => field.string stringLimit memory
  | text content => content.bytes
  | null => [40, 110, 117, 108, 108, 41]

/-- A missing argument is whatever the register or stack slot it should be in points to. -/
def missingArg : Field := ⟨.stray, 0, 0⟩

/-- A format string of the source; see `Printf.separated`. -/
structure Format where
  text : String
  separated : Printf.separated (Printf.parse text.toList) = true

/-- The line that `vsnprintf` formats, before it is cut to the buffer. -/
def Format.line (format : Format) (args : List Arg) (memory : Mem) : List UInt8 :=
  Printf.render (Arg.render memory) (missingArg.string stringLimit memory)
    (Printf.parse format.text.toList) args

/-- What `__lprintf` writes: the line is cut to `WBUF_LEN - 1` bytes and a terminator, but as many
bytes are written as the whole line has; the rest comes from the stack behind the buffer. -/
def written (stack : ℕ → UInt8) (line : List UInt8) : List UInt8 :=
  if line.length < wbufLen then line
  else line.take (wbufLen - 1) ++ 0 :: (List.range (line.length - wbufLen)).map stack

/-! ## Programs -/

/-- The handlers of the service table. -/
inductive Handler where
  | handleOpen | handleRead | handleWrite | handleClose | handleLseek | handleFcntl | handleIoctl
  | handleUnlink | handleGetdents64 | handleFreeaddrinfo | handleGetaddrinfo | handleGethostbyaddr
  | handleGethostbyname | handlePoll | handleGetpeername | handleGethostname | handleGetsockname
  | handleGetsockopt | handleSelect | handleAccept | handleBind | handleConnect | handleListen
  | handleRecv | handleRecvfrom | handleSend | handleSendto | handleSetsockopt | handleShutdown
  | handleSocket | handleFopen | handleFclose | handleFread | handleFwrite | handleFreopen
  | handleFputs | handleFgets | handleFeof | handleFprintf | handleGetc | handleFerror
  | handleGetcUnlocked | handlePclose | handleTmpfile | handleClearerr | handlePopen
  | handleUngetc | handleFseeko | handleFtello | handleFseek | handleFtell | handleRename
  | handleRemove | handleMkstemp | handleStat | handleLstat | handleGetcwd | handlePrintf
  | handleFflush | handleGetwc | handlePutwc | handlePutc | handleUngetwc | handleFstat
  | handleFdopen | handleFileno | handleSetvbuf | handleSystem | handleReadlink | handleAccess
  | handleDup2 | handleMkfifo | handleChmod | handleChdir | handleMkdir | handleRmdir | handlePipe
  | handleFscanfx | handleIfnameindex | handlePutchar | handleGaistrerror | handleAccept4
  | handleWritev
deriving DecidableEq, Repr

/-- The status in an answer: `RPMSG_RPC_OK`, `RPMSG_RPC_INVALID_ID` or `RPC_EOVERLONG`. -/
inductive Status where
  | rpmsgRpcOk
  | rpmsgRpcInvalidId
  | rpcEoverlong
deriving DecidableEq, Repr

/-- What an execution does, in order. -/
inductive Event where
  | log (bytes : List UInt8)
  | frame (id : ℕ) (status : Status) (params : List UInt8)
  | call (call : OsCall) (args : List Value)
  | access (access : Access)
  | enter (handler : Handler)
  | fault
deriving DecidableEq

inductive Program (α : Type) where
  | pure (value : α)
  | log (format : Format) (args : List Arg) (next : Program α)
  | sys (call : OsCall) (args : Mem → List Value) (arrays : Mem → List Access)
      (next : OsResult → Program α)
  | store (field : Field) (data : List UInt8) (next : Program α)
  | copy (dst src : Field) (count : ℕ) (next : Program α)
  | peek (read : Mem → ℤ) (next : ℤ → Program α)
  | getErrno (next : ℤ → Program α)
  | setErrno (value : ℤ) (next : Program α)
  | send (id : ℕ) (status : Status) (size : ℕ) (next : ℤ → Program α)
  | enter (handler : Handler) (next : Program α)
  | fault

namespace Program

def bind {α β : Type} (program : Program α) (rest : α → Program β) : Program β :=
  match program with
  | pure value => rest value
  | log format args next => log format args (next.bind rest)
  | sys call args arrays next => sys call args arrays fun result => (next result).bind rest
  | store field data next => store field data (next.bind rest)
  | copy dst src count next => copy dst src count (next.bind rest)
  | peek read next => peek read fun value => (next value).bind rest
  | getErrno next => getErrno fun value => (next value).bind rest
  | setErrno value next => setErrno value (next.bind rest)
  | send id status size next => send id status size fun ret => (next ret).bind rest
  | enter handler next => enter handler (next.bind rest)
  | fault => fault

instance : Monad Program where
  pure := pure
  bind := bind

theorem bind_pure {α : Type} (program : Program α) : program.bind pure = program := by
  induction program <;> simp_all [bind]

theorem bind_bind {α β γ : Type} (program : Program α) (rest : α → Program β)
    (last : β → Program γ) :
    (program.bind rest).bind last = program.bind fun value => (rest value).bind last := by
  induction program <;> simp_all [bind]

instance : LawfulMonad Program :=
  LawfulMonad.mk' Program bind_pure (fun _ _ => rfl) bind_bind

@[simp]
theorem fault_bind {α β : Type} (rest : α → Program β) : (fault >>= rest) = fault := rfl

@[simp]
theorem ite_bind {α β : Type} {condition : Prop} [Decidable condition] (yes no : Program α)
    (rest : α → Program β) :
    ((if condition then yes else no) >>= rest) =
      if condition then yes >>= rest else no >>= rest := by
  split <;> rfl

end Program

structure State where
  mem : Mem
  errno : ℤ
  clock : ℕ

/-- The state after a call has delivered its result. -/
def State.tick (state : State) (result : OsResult) : State :=
  { state with errno := result.errno.getD state.errno, clock := state.clock + 1 }

@[simp]
theorem State.tick_mem (state : State) (result : OsResult) : (state.tick result).mem = state.mem :=
  rfl

/-- The events of a run. `stack` is the memory behind the buffer of the log. -/
def Program.run {α : Type} (stack : ℕ → UInt8) (results : ℕ → OsResult) :
    Program α → State → List Event
  | pure _, _ => []
  | log format args next, state =>
      .log (written stack (format.line args state.mem)) ::
        next.run stack results (state.tick (results state.clock))
  | sys call args arrays next, state =>
      .call call (args state.mem) :: (arrays state.mem).map .access ++
        (next (results state.clock)).run stack results (state.tick (results state.clock))
  | store field data next, state =>
      if data.length ≤ field.size then
        next.run stack results { state with mem := overwrite state.mem field data }
      else [.fault]
  | copy dst src count next, state =>
      .access ⟨dst, 0, count⟩ :: .access ⟨src, 0, count⟩ ::
        if count ≤ dst.size then
          next.run stack results
            { state with mem := overwrite state.mem dst (load state.mem src count) }
        else [.fault]
  | peek read next, state => (next (read state.mem)).run stack results state
  | getErrno next, state => (next state.errno).run stack results state
  | setErrno value next, state => next.run stack results { state with errno := value }
  | send id status size next, state =>
      -- `rpc_server_send` refuses what does not fit the message and sends nothing
      if proxyMaxBufLen < size then (next (-einval)).run stack results state
      else .frame id status (load state.mem (respField 0 size) size) ::
        (next (results state.clock).int).run stack results (state.tick (results state.clock))
  | enter handler next, state => .enter handler :: next.run stack results state
  | fault, _ => [.fault]

/-- What a run returns and the state it ends in; `none` if it ends with a fault. -/
def Program.final {α : Type} (results : ℕ → OsResult) : Program α → State → Option (α × State)
  | pure value, state => some (value, state)
  | log _ _ next, state => next.final results (state.tick (results state.clock))
  | sys _ _ _ next, state =>
      (next (results state.clock)).final results (state.tick (results state.clock))
  | store field data next, state =>
      if data.length ≤ field.size then
        next.final results { state with mem := overwrite state.mem field data }
      else none
  | copy dst src count next, state =>
      if count ≤ dst.size then
        next.final results { state with mem := overwrite state.mem dst (load state.mem src count) }
      else none
  | peek read next, state => (next (read state.mem)).final results state
  | getErrno next, state => (next state.errno).final results state
  | setErrno value next, state => next.final results { state with errno := value }
  | send _ _ size next, state =>
      if proxyMaxBufLen < size then (next (-einval)).final results state
      else (next (results state.clock).int).final results (state.tick (results state.clock))
  | enter _ next, state => next.final results state
  | fault, _ => none

theorem Program.final_bind {α β : Type} (results : ℕ → OsResult) (program : Program α)
    (rest : α → Program β) (state : State) :
    (program >>= rest).final results state =
      (program.final results state).bind fun last => (rest last.1).final results last.2 := by
  induction program generalizing state with
  | pure value => rfl
  | fault => rfl
  | log format args next ih => exact ih _
  | sys call args arrays next ih => exact ih _ _
  | peek read next ih => exact ih _ _
  | getErrno next ih => exact ih _ _
  | setErrno value next ih => exact ih _
  | enter handler next ih => exact ih _
  | store field data next ih =>
      by_cases fits : data.length ≤ field.size
      · exact (if_pos fits).trans ((ih _).trans (by rw [final, if_pos fits]))
      · exact (if_neg fits).trans (by rw [final, if_neg fits]; rfl)
  | copy dst src count next ih =>
      by_cases fits : count ≤ dst.size
      · exact (if_pos fits).trans ((ih _).trans (by rw [final, if_pos fits]))
      · exact (if_neg fits).trans (by rw [final, if_neg fits]; rfl)
  | send id status size next ih =>
      by_cases tooLong : proxyMaxBufLen < size
      · exact (if_pos tooLong).trans ((ih _ _).trans (by rw [final, if_pos tooLong]))
      · exact (if_neg tooLong).trans ((ih _ _).trans (by rw [final, if_neg tooLong]))

theorem Program.run_bind {α β : Type} (stack : ℕ → UInt8) (results : ℕ → OsResult)
    (program : Program α) (rest : α → Program β) (state : State) :
    (program >>= rest).run stack results state = program.run stack results state ++
      (program.final results state).elim [] fun last => (rest last.1).run stack results last.2 := by
  induction program generalizing state with
  | pure value => rfl
  | fault => rfl
  | log format args next ih => exact congrArg (_ :: ·) (ih _)
  | sys call args arrays next ih =>
      show _ :: _ ++ (next _ >>= rest).run _ _ _ = _
      rw [ih, run, List.append_assoc]
      rfl
  | peek read next ih => exact ih _ _
  | getErrno next ih => exact ih _ _
  | setErrno value next ih => exact ih _
  | enter handler next ih => exact congrArg (_ :: ·) (ih _)
  | store field data next ih =>
      by_cases fits : data.length ≤ field.size
      · exact (if_pos fits).trans ((ih _).trans (by rw [run, final, if_pos fits, if_pos fits]))
      · exact (if_neg fits).trans (by rw [run, final, if_neg fits, if_neg fits]; rfl)
  | copy dst src count next ih =>
      show _ :: _ :: (if _ then (next >>= rest).run _ _ _ else _) = _
      by_cases fits : count ≤ dst.size
      · rw [run, final, if_pos fits, if_pos fits, if_pos fits, ih]
        rfl
      · rw [run, final, if_neg fits, if_neg fits, if_neg fits]
        rfl
  | send id status size next ih =>
      show (if _ then (next _ >>= rest).run _ _ _ else _ :: (next _ >>= rest).run _ _ _) = _
      by_cases tooLong : proxyMaxBufLen < size
      · rw [run, final, if_pos tooLong, if_pos tooLong, if_pos tooLong, ih]
      · rw [run, final, if_neg tooLong, if_neg tooLong, if_neg tooLong, ih]
        rfl

end Mica.Rpc
