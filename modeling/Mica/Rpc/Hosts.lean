import Mica.Rpc.Bodies

/-!
# Handlers of host names and addresses

The encoders of `rpc_helper.c` turn the lists that the C library returns into
bytes of the response; lengths are counted in natural numbers. The list of hints
that `decode_addrlist` builds is only handed on to `getaddrinfo`, so that the
model keeps the value it returns.
-/

namespace Mica.Rpc

open Errno Cells

/-! ## Encoding -/

/-- A string with its terminator. -/
def terminated (string : CString) : List UInt8 := string.bytes ++ [0]

/-- `sizeof(ihostent_t)` -/
def ihostentSize : ℕ := 24

/-- Appends items behind the header and the bytes written so far, as long as they leave room, and
says whether all did. -/
def appendItems (buflen : ℕ) : List (List UInt8) → List UInt8 → List UInt8 × Bool
  | [], body => (body, true)
  | item :: items, body =>
      if buflen ≤ ihostentSize + body.length + item.length then (body, false)
      else appendItems buflen items (body ++ item)

structure EncodedHostent where
  ret : ℤ
  body : List UInt8
  header : Option (List UInt8)

/-- `encode_hostent`: the header is written last, and only if everything has found room. -/
def encodeHostent (host : Hostent) (buflen : ℕ) : EncodedHostent :=
  let names := appendItems buflen (host.name.toList.map terminated) []
  if names.2 = false then ⟨-rpcEoverlong, names.1, none⟩
  else
    let aliases := appendItems buflen (host.aliases.map terminated) names.1
    if aliases.2 = false then ⟨-rpcEoverlong, aliases.1, none⟩
    else
      let addrs := appendItems buflen host.addrList aliases.1
      if addrs.2 = false then ⟨-rpcEoverlong, addrs.1, none⟩
      else
        ⟨ihostentSize + addrs.1.length, addrs.1, some
          (LittleEndian.bytes 4 ihostentSize ++
            LittleEndian.bytes 4 (ihostentSize + names.1.length) ++
            LittleEndian.bytes 2 host.aliases.length ++
            LittleEndian.bytes 2 host.addrList.length ++
            LittleEndian.intBytes 4 host.addrtype ++
            LittleEndian.bytes 4 host.length ++
            LittleEndian.bytes 4 (ihostentSize + aliases.1.length))⟩

/-- The bytes of one element: flags, family, socket type, protocol and address length, the length
of the name, the address and the name. -/
def encodeAddrinfo (info : Addrinfo) : List UInt8 :=
  let name := info.canonname.elim [] terminated
  LittleEndian.intBytes 4 info.flags ++ LittleEndian.intBytes 4 info.family ++
    LittleEndian.intBytes 4 info.socktype ++ LittleEndian.intBytes 4 info.protocol ++
    LittleEndian.bytes 4 info.addr.length ++ LittleEndian.bytes 4 name.length ++
    info.addr ++ name

/-- `encode_addrlist`: the count it returns, the new `*buflen` and the bytes it writes. -/
def encodeAddrlist (infos : List Addrinfo) (buflen : ℕ) : ℤ × ℕ × List UInt8 :=
  let encoded := infos.flatMap encodeAddrinfo
  if buflen < encoded.length then (-rpcEoverlong, buflen, [])
  else (infos.length, encoded.length, encoded)

/-- The value returned by `decode_addrlist` for the elements from the index `bi` of the array on,
when `allocations` more elements can be allocated; `none` if the sum of index and address length
wraps around, after which `memcpy` copies more than the array has. -/
def decodeAddrlist (memory : Mem) (buf : Field) : ℕ → ℕ → ℕ → Option ℤ
  | 0, _, _ => some 0
  | cnt + 1, allocations, bi =>
      let addrlen := (reqField (buf.off + bi + 16) 4).nat memory
      let aclen := (reqField (buf.off + bi + 20) 4).int memory
      if allocations = 0 then some (-rpcEnomem)
      else if buf.size ≤ bi + 20 then some (-rpcEoverlong)
      else if buf.size ≤ bi + 24 then some (-rpcEoverlong)
      else if 0 < addrlen ∧ buf.size ≤ (bi + 24 + addrlen) % 2 ^ 32 then some (-rpcEoverlong)
      else if 2 ^ 32 ≤ bi + 24 + addrlen then none
      else decodeAddrlist memory buf cnt (allocations - 1) (bi + 24 + addrlen + aclen.toNat)

/-! ## Hosts -/

def printLines : List Line → Program Unit
  | [] => pure ()
  | entry :: entries => do
      lprintf entry
      printLines entries

def paddr (addr : List UInt8) : Line :=
  line "%d.%d.%d.%d\n" [.int (addr.getD 0 0).toNat, .int (addr.getD 1 0).toNat,
    .int (addr.getD 2 0).toNat, .int (addr.getD 3 0).toNat]

def printHost (host : Option Hostent) : Program Unit :=
  match host with
  | none => pure ()
  | some host => printLines
      (line "name:%s, %d\n" [host.name.elim .null .text, .int host.length] ::
        host.addrList.map paddr ++
        host.aliases.map fun aliasName => line "alias:%s\n" [.text aliasName])

/-- The bytes of the response behind the header of the encoded host, and the header. -/
def hostBody : Field := respField (16 + ihostentSize) (maxSbufLen - ihostentSize)
def hostHeader : Field := respField 16 ihostentSize

/-- The body of `gethostbyaddr` and `gethostbyname`; `h_errnum` is never assigned. -/
def hostHandler (id : ℕ) (enter : Line) (operation : Operation) (leave : ℤ → Line)
    (sent : ℤ → Line) : Program ℤ := do
  lprintf enter
  let result ← perform operation
  lprintf (leave (if result.host.isSome then result.pointer else 0))
  lerror (if result.host.isSome then 0 else -1) (← errno)
  setRspBase
  printHost result.host
  let header := GethostbyaddrResp.size - GethostbyaddrResp.buf.size
  match result.host with
  | none => do
      storeInt GethostbyaddrResp.len 0
      let ret ← rpcServerSend id .rpmsgRpcOk header
      lprintf (sent ret)
      answer ret
  | some host => do
      let encoded := encodeHostent host GethostbyaddrResp.buf.size
      store hostBody encoded.body
      store hostHeader (encoded.header.getD [])
      storeInt GethostbyaddrResp.len encoded.ret
      let ret ← rpcServerSend id .rpmsgRpcOk
        (header + (if 0 ≤ encoded.ret then encoded.ret.toNat else 0))
      lprintf (sent ret)
      answer ret

def rpmsgHandleGethostbyaddr : Program ℤ :=
  hostHandler gethostbyaddrId
    (line "==gethostbyaddr(%d, %d)\n"
      [.unsigned GethostbyaddrReq.len, .signed GethostbyaddrReq.type])
    { function := .gethostbyaddr
      args := [intArg GethostbyaddrReq.type]
      arrays := [bytesOf GethostbyaddrReq.buf fun memory => GethostbyaddrReq.len.nat memory] }
    (fun ht => line "==gethostbyaddr ret:%p\n" [.int ht])
    (fun ret => line "==gethostbyaddr send rsp, %d, %d\n" [.int ret, .signed GethostbyaddrResp.len])

def rpmsgHandleGethostbyname : Program ℤ :=
  hostHandler gethostbynameId (line "==gethostbyname(%s)\n" [.string GethostbynameReq.buf])
    { function := .gethostbyname, args := [stringArg GethostbynameReq.buf] }
    (fun ht => line "==gethostbyname ret:%p\n" [.int ht])
    (fun ret => line "==gethostbyname send rsp, %d, %d\n" [.int ret, .signed GethostbyaddrResp.len])

/-! ## Address lists -/

def rpmsgHandleFreeaddrinfo : Program ℤ := do
  lprintf (line "UNUSED\n" [])
  pure 0

/-- `req->node >= req->buflen || req->service >= req->buflen` -/
def getaddrinfoRejects (memory : Mem) : Bool :=
  GetaddrinfoReq.buflen.int memory ≤ GetaddrinfoReq.node.int memory ∨
    GetaddrinfoReq.buflen.int memory ≤ GetaddrinfoReq.service.int memory

/-- `&req->buf[index]`; below the request buffer lies other memory of the stack. -/
def bufferPointer (index : ℤ) : Field :=
  if 0 ≤ GetaddrinfoReq.buf.off + index then
    reqField (GetaddrinfoReq.buf.off + index).toNat 0
  else missingArg

/-- The label `response` of `getaddrinfo`. -/
def getaddrinfoResponse (ret : ℤ) (payloadSize : ℕ) (infos : List Addrinfo) : Program ℤ := do
  if infos ≠ [] then do
    let _ ← perform { function := .freeaddrinfo }
  storeInt GetaddrinfoResp.ret ret
  setRspBase
  let ret ← rpcServerSend getaddrinfoId .rpmsgRpcOk payloadSize
  lprintf (line "==getaddrinfo send rsp:%d,%d\n" [.int payloadSize, .int ret])
  answer ret

/-- The part of `getaddrinfo` behind the call. -/
def getaddrinfoReply (result : OsResult) : Program ℤ := do
  let ret := result.int
  lprintf (line "==getaddrinfo ret:%d\n" [.int ret])
  if ret < 0 then getaddrinfoResponse ret GetaddrinfoResp.size result.addrs
  else do
    let header := GetaddrinfoResp.size - GetaddrinfoResp.buf.size
    if result.addrs = [] then do
      storeInt GetaddrinfoResp.cnt 0
      storeInt GetaddrinfoResp.buflen 0
      getaddrinfoResponse ret header []
    else do
      let encoded := encodeAddrlist result.addrs GetaddrinfoResp.buf.size
      store GetaddrinfoResp.buf encoded.2.2
      storeInt GetaddrinfoResp.buflen encoded.2.1
      storeInt GetaddrinfoResp.cnt encoded.1
      getaddrinfoResponse ret (header + encoded.2.1) result.addrs

/-- The part of `getaddrinfo` behind the decoding of the hints. -/
def getaddrinfoCall : Program ℤ := do
  let node ← peekInt GetaddrinfoReq.node
  let service ← peekInt GetaddrinfoReq.service
  let buflen ← peekInt GetaddrinfoReq.buflen
  let nodeArg : Option Field := if node < service then some (bufferPointer node) else none
  let serviceArg : Option Field := if service < buflen then some (bufferPointer service) else none
  lprintf (line "==getaddrinfo(%s, %s)\n"
    [nodeArg.elim .null .string, serviceArg.elim .null .string])
  let result ← perform
    { function := .getaddrinfo
      args := [fun memory => nodeArg.elim .null fun field => stringArg field memory,
        fun memory => serviceArg.elim .null fun field => stringArg field memory] }
  getaddrinfoReply result

/-- What `getaddrinfo` does with a request that it does not reject. -/
def getaddrinfoAccepted : Program ℤ := do
  let hasHints ← test fun memory => 0 < GetaddrinfoReq.hintsCnt.int memory
  if hasHints then do
    let memory ← perform { function := .malloc }
    let decoded ← peek fun mem => (decodeAddrlist mem GetaddrinfoReq.buf
      (GetaddrinfoReq.hintsCnt.int mem).toNat memory.count 0).getD 1
    if 0 < decoded then .fault
    else if decoded < 0 then do
      lprintf (line "==getaddrinfo decode failed(%d)\n" [.int decoded])
      getaddrinfoResponse decoded GetaddrinfoResp.size []
    else getaddrinfoCall
  else getaddrinfoCall

/-- `h_errnum` is never assigned. The numbers behind a failed decoding are not assigned either, and
the whole response is sent. -/
def rpmsgHandleGetaddrinfo : Program ℤ := do
  let rejected ← test getaddrinfoRejects
  if rejected then pure (-einval) else getaddrinfoAccepted

/-! ## Interfaces and error texts -/

/-- The loop of `ifnameindex` over the interfaces from the `i`-th entry on. Writing behind the last
entry is a fault. -/
def storeInterfaces : List (ℕ × CString) → ℕ → Program Unit
  | [], _ => pure ()
  | (index, name) :: interfaces, i =>
      if maxIfnameindexSize ≤ i then .fault
      else do
        storeInt (IfNameindexResp.ifIndex i) index
        store (IfNameindexResp.ifName i) (terminated name)
        storeInterfaces interfaces (i + 1)

/-- The field `ret` of the response is never assigned. -/
def rpmsgHandleIfnameindex : Program ℤ := do
  lprintf (line "==ifnameindex\n" [])
  let result ← perform { function := .ifNameindex }
  let interfaces := result.interfaces.getD []
  storeInterfaces interfaces 0
  storeInt IfNameindexResp.cnt interfaces.length
  setRspBase
  let ret ← rpcServerSend ifnameindexId .rpmsgRpcOk IfNameindexResp.size
  lprintf (line "==ifnameindex send rsp, %d\n" [.int ret])
  let _ ← perform { function := .ifFreenameindex }
  answer ret

/-- The label behind the branches of `gaistrerror`. -/
def gaistrerrorResponse (isNull : ℤ) : Program ℤ := do
  storeInt GaiStrerrorResp.isNull isNull
  setRspBase
  let ret ← rpcServerSend gaistrerrorId .rpmsgRpcOk GaiStrerrorResp.size
  lprintf (line "==gaistrerror send rsp, %d\n" [.int ret])
  answer ret

def rpmsgHandleGaistrerror : Program ℤ := do
  lprintf (line "==gaistrerror\n" [])
  let result ← perform { function := .gaiStrerror, args := [intArg GaiStrerrorReq.error] }
  match result.text with
  | some text => do
      store GaiStrerrorResp.buf (terminated text)
      lprintf (line "==gaistrerror(%s)\n" [.string GaiStrerrorResp.buf])
      gaistrerrorResponse 0
  | none => do
      let errnum ← errno
      let message ← perform { function := .strerror, args := [fun _ => .int errnum] }
      lprintf (line "==gaistrerror(NULL) %s\n" [message.text.elim .null .text])
      gaistrerrorResponse 1

end Mica.Rpc
