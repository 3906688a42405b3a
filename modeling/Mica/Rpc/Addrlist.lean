import Mica.Lib.Buffer
import Mica.Lib.CTypes
import Mica.Rpc.Hosts

/-!
# The codec of address lists

`encode_addrlist` and `decode_addrlist` of `rpc_helper.c` on checked buffers,
with the integer types of the source. An address list is a list of elements;
what the elements of the list that is being decoded own is kept apart, because an
error frees the list with its last element as `malloc` returned it.

Integers that overflow wrap around.
-/

namespace Mica.Rpc.Helper

open MachineInt Cells

/-- An element as it is in memory: its integers are of type `int` and `socklen_t`. -/
structure Node extends Addrinfo where
  flagsInt : -2 ^ 31 ≤ flags ∧ flags < 2 ^ 31
  familyInt : -2 ^ 31 ≤ family ∧ family < 2 ^ 31
  socktypeInt : -2 ^ 31 ≤ socktype ∧ socktype < 2 ^ 31
  protocolInt : -2 ^ 31 ≤ protocol ∧ protocol < 2 ^ 31
  addrlenUnsigned : addr.length < 2 ^ 32

/-- `sizeof(iaddrinfo_t) - sizeof(int)` -/
def hlen : ℕ := 20

/-! ## Encoding -/

/-- `strlen(p->ai_canonname) + 1`, and 0 without a name. -/
def nameLength (info : Addrinfo) : ℕ := info.canonname.elim 0 fun name => name.length + 1

/-- The first loop of `encode_addrlist`. -/
def measureAddrlist : List Node → ℤ → ℤ
  | [], len => len
  | node :: nodes, len =>
      let len := signed 32 (len + unsigned 32 (hlen + node.addr.length) + 4)
      measureAddrlist nodes (signed 32 (len + nameLength node.toAddrinfo))

/-- The first `hlen` bytes of a `struct addrinfo`. -/
def addrinfoHeader (info : Addrinfo) : List UInt8 :=
  LittleEndian.intBytes 4 info.flags ++ LittleEndian.intBytes 4 info.family ++
    LittleEndian.intBytes 4 info.socktype ++ LittleEndian.intBytes 4 info.protocol ++
    LittleEndian.bytes 4 info.addr.length

/-- An address or a name, which is copied if it is there. -/
def encodePart (data buf : List UInt8) (bi : ℤ) : Outcome (List UInt8) :=
  if data ≠ [] then Buffer.write buf bi data else .ok buf

/-- The body of the second loop of `encode_addrlist`: the buffer and the next index. -/
def encodeNode (node : Node) (buf : List UInt8) (bi : ℤ) : Outcome (List UInt8 × ℤ) := do
  let buf ← Buffer.write buf bi (addrinfoHeader node.toAddrinfo)
  let bi := signed 32 (bi + hlen)
  let aclen := signed 32 (nameLength node.toAddrinfo)
  let buf ← Buffer.write buf bi (LittleEndian.intBytes 4 aclen)
  let bi := signed 32 (bi + 4)
  let buf ← encodePart node.addr buf bi
  let bi := signed 32 (bi + node.addr.length)
  let buf ← encodePart ((node.canonname.elim [] terminated).take aclen.toNat) buf bi
  pure (buf, signed 32 (bi + aclen.toNat))

def encodeNodes : List Node → List UInt8 → ℤ → ℤ → Outcome (ℤ × List UInt8)
  | [], buf, _, cnt => .ok (cnt, buf)
  | node :: nodes, buf, bi, cnt => do
      let (buf, bi) ← encodeNode node buf bi
      encodeNodes nodes buf bi (signed 32 (cnt + 1))

/-- What `encode_addrlist` returns, `*buflen` and the buffer. -/
structure EncodedAddrlist where
  cnt : ℤ
  buflen : ℤ
  buf : List UInt8

/-- `encode_addrlist` -/
def encodeAddrlist (nodes : List Node) (buf : List UInt8) (buflen : ℤ) : Outcome EncodedAddrlist :=
  let len := measureAddrlist nodes 0
  if nodes = [] then .error (-rpcEinval)
  else if buflen < len then .error (-rpcEoverlong)
  else do
    let (cnt, buf) ← encodeNodes nodes buf 0 0
    pure ⟨cnt, len, buf⟩

/-! ## Decoding -/

inductive Pointer where
  | null
  /-- A block of the list that is being decoded. -/
  | allocated
  /-- Any other address. -/
  | wild
deriving DecidableEq

/-- `free`, which must be handed nothing but the blocks of the list. -/
def Pointer.free (pointer : Pointer) : Outcome Unit :=
  if pointer = .wild then .fault else .ok ()

/-- Whether the fields `ai_canonname` and `ai_next` of a block are null when `malloc` returns it;
otherwise they hold an address that has nothing to do with the list. -/
structure Stale where
  canonnameNull : Bool
  nextNull : Bool

namespace Stale

def pointer (null : Bool) : Pointer := if null then .null else .wild

def canonname (stale : Stale) : Pointer := pointer stale.canonnameNull

def next (stale : Stale) : Pointer := pointer stale.nextNull

/-- The element can be freed as `malloc` returned it. -/
def Cleared (stale : Stale) : Prop := stale.canonname = .null ∧ stale.next = .null

instance (stale : Stale) : Decidable stale.Cleared := inferInstanceAs (Decidable (_ ∧ _))

end Stale

/-- The allocations for the elements of the list, and whether those for their names succeed. -/
structure Heap where
  node : ℕ → Option Stale
  name : ℕ → Bool

/-- `freeaddrlist` for the elements that own these names, the last one being followed by `next`. -/
def freeaddrlist (next : Pointer) : List Pointer → Outcome Unit
  | [] => if next = .null then .ok () else .fault
  | canonname :: nodes => do
      canonname.free
      freeaddrlist next nodes

/-- The label `clean`. -/
def clean {α : Type} (owned : List Pointer) (next : Pointer) (ret : ℤ) : Outcome α := do
  freeaddrlist next owned
  .error ret

/-- The value of type `int` at an index. -/
def intAt (buf : List UInt8) (index : ℕ) : ℤ := signed 32 (Buffer.number 4 buf index)

/-- An element that has been decoded, its `ai_canonname`, and the index behind it. -/
structure Decoded where
  info : Addrinfo
  canonname : Pointer
  bi : ℤ

def decodeAddress (buf : List UInt8) (bi : ℤ) (addrlen : ℕ) : Outcome (List UInt8) :=
  if 0 < addrlen then Buffer.read buf bi addrlen else .ok []

/-- The string that `__strdup` copies. -/
def decodeName (buf : List UInt8) (bi : ℤ) (aclen : ℤ) : Outcome (Option CString) :=
  if 0 < aclen then do
    let name ← Buffer.readString buf bi
    pure (some name)
  else .ok none

def namePointer (name : Option CString) : Pointer := if name.isSome then .allocated else .null

/-- The address and the name of an element whose header has been read. -/
def decodeParts (buf header : List UInt8) (addrlen : ℕ) (aclen : ℤ) (named : Bool) (bi : ℤ) :
    Outcome Decoded := do
  let addr ← decodeAddress buf bi addrlen
  let bi := signed 32 (bi + addrlen)
  let name ← decodeName buf bi aclen
  let canonname := if named then name else none
  pure
    { info :=
        { flags := intAt header 0
          family := intAt header 4
          socktype := intAt header 8
          protocol := intAt header 12
          addr := addr
          canonname := canonname }
      canonname := namePointer canonname
      bi := if 0 < aclen then signed 32 (bi + aclen) else bi }

/-- The body of the loop of `decode_addrlist` for an element that has been allocated: `overlong` is
what the three tests lead to, and `next` what follows the copies. -/
def decodeRecord {α : Type} (buf : List UInt8) (buflen : ℤ) (addrlen : ℕ) (named : Bool) (bi : ℤ)
    (overlong : Outcome α) (next : Decoded → Outcome α) : Outcome α :=
  if buflen ≤ signed 32 (bi + hlen) then overlong
  else do
    -- the `hlen` bytes that are copied to the element end in front of its pointers
    let header ← Buffer.read buf bi hlen
    let bi := signed 32 (bi + hlen)
    if unsigned 64 buflen ≤ unsigned 64 (bi + 4) then overlong
    else do
      let aclen := intAt (← Buffer.read buf bi 4) 0
      let bi := signed 32 (bi + 4)
      if 0 < addrlen ∧ unsigned 32 buflen ≤ unsigned 32 (bi + addrlen) then overlong
      else decodeParts buf header addrlen aclen named bi >>= next

/-- The body of the loop, for the block that the element is allocated in. -/
def decodeNode (buf : List UInt8) (buflen : ℤ) (block : Option Stale) (named : Bool)
    (owned : List Pointer) (bi : ℤ) : Outcome Decoded := do
  let addr ← Buffer.read buf bi hlen
  -- the test `addr.ai_addrlen < 0` is one on an unsigned value
  let addrlen := Buffer.number 4 addr 16
  match block with
  | none => clean owned .null (-rpcEnomem)
  | some stale =>
      decodeRecord buf buflen addrlen named bi
        (clean (owned ++ [stale.canonname]) stale.next (-rpcEoverlong)) .ok

/-- The loop of `decode_addrlist` for the elements from the `i`-th on. -/
def decodeNodes (buf : List UInt8) (buflen : ℤ) (heap : Heap) :
    ℕ → ℕ → List Pointer → ℤ → Outcome (List Addrinfo)
  | 0, _, _, _ => .ok []
  | remaining + 1, i, owned, bi => do
      let node ← decodeNode buf buflen (heap.node i) (heap.name i) owned bi
      let infos ← decodeNodes buf buflen heap remaining (i + 1) (owned ++ [node.canonname]) node.bi
      pure (node.info :: infos)

/-- `decode_addrlist` -/
def decodeAddrlist (buf : List UInt8) (cnt buflen : ℤ) (heap : Heap) : Outcome (List Addrinfo) :=
  decodeNodes buf buflen heap cnt.toNat 0 [] 0

/-! ## The format

A record has a header of `hlen` bytes, the length of the name, the address and the name. -/

def addressEnd (buf : List UInt8) (start : ℕ) : ℕ := start + 24 + Buffer.number 4 buf (start + 16)

def aclenAt (buf : List UInt8) (start : ℕ) : ℕ := (intAt buf (start + 20)).toNat

/-- The start of each record, given that those before it are decoded. -/
def recordStart (buf : List UInt8) : ℕ → ℕ
  | 0 => 0
  | i + 1 => addressEnd buf (recordStart buf i) + aclenAt buf (recordStart buf i)

/-- The address ends before the buffer does. -/
def Complete (buf : List UInt8) (start : ℕ) : Prop := addressEnd buf start < buf.length

instance (buf : List UInt8) (start : ℕ) : Decidable (Complete buf start) :=
  inferInstanceAs (Decidable (_ < _))

/-- The record at an index, with the block for it. -/
structure RecordSafe (buf : List UInt8) (block : Option Stale) (start : ℕ) : Prop where
  header : start + hlen ≤ buf.length
  name : block ≠ none → Complete buf start → 0 < aclenAt buf start →
    0 ∈ buf.drop (addressEnd buf start)
  address : block ≠ none → ¬Complete buf start →
    buf.length ≤ start + 24 ∨ buf.length ≤ addressEnd buf start % 2 ^ 32
  freed : ∀ stale ∈ block, ¬Complete buf start → stale.Cleared

/-- The element that a complete record describes. -/
def infoAt (buf : List UInt8) (start : ℕ) (named : Bool) : Addrinfo where
  flags := intAt buf start
  family := intAt buf (start + 4)
  socktype := intAt buf (start + 8)
  protocol := intAt buf (start + 12)
  addr := (buf.drop (start + 24)).take (Buffer.number 4 buf (start + 16))
  canonname :=
    if named then
      if 0 < aclenAt buf start then some (Buffer.stringAt buf (addressEnd buf start)) else none
    else none

theorem aclenAt_lt (buf : List UInt8) (start : ℕ) : aclenAt buf start < 2 ^ 31 := by
  have bound := Buffer.number_lt 4 buf (start + 20)
  rw [aclenAt, intAt]
  rcases Nat.lt_or_ge (Buffer.number 4 buf (start + 20)) (2 ^ 31) with less | large
  · rw [signed_of_lt (by omega) (by exact_mod_cast less)]
    omega
  · have negative : signed 32 (Buffer.number 4 buf (start + 20)) < 0 :=
      signed_of_le (by exact_mod_cast large) (by exact_mod_cast bound)
    omega

theorem namePointer_ne_wild (name : Option CString) : namePointer name ≠ .wild := by
  cases name <;> simp [namePointer]

section Free

variable {owned : List Pointer} {next : Pointer}

theorem sound_append (sound : ∀ pointer ∈ owned, pointer ≠ .wild) {last : Pointer}
    (notWild : last ≠ .wild) : ∀ pointer ∈ owned ++ [last], pointer ≠ .wild := by
  intro pointer member
  rcases List.mem_append.1 member with before | isLast
  · exact sound pointer before
  · exact List.mem_singleton.1 isLast ▸ notWild

theorem freeaddrlist_eq (sound : ∀ pointer ∈ owned, pointer ≠ .wild) :
    freeaddrlist next owned = if next = .null then .ok () else .fault := by
  induction owned with
  | nil => rfl
  | cons pointer owned ih =>
      rw [freeaddrlist, Pointer.free, if_neg (sound pointer List.mem_cons_self), Outcome.ok_bind]
      exact ih fun other member => sound other (List.mem_cons_of_mem _ member)

theorem freeaddrlist_append_wild (sound : ∀ pointer ∈ owned, pointer ≠ .wild) :
    freeaddrlist next (owned ++ [.wild]) = .fault := by
  induction owned with
  | nil => rfl
  | cons pointer owned ih =>
      rw [List.cons_append, freeaddrlist, Pointer.free, if_neg (sound pointer List.mem_cons_self),
        Outcome.ok_bind]
      exact ih fun other member => sound other (List.mem_cons_of_mem _ member)

theorem clean_stale {α : Type} (sound : ∀ pointer ∈ owned, pointer ≠ .wild) (stale : Stale)
    (ret : ℤ) : (clean (owned ++ [stale.canonname]) stale.next ret : Outcome α) =
      if stale.Cleared then .error ret else .fault := by
  rcases stale with ⟨canonnameNull, nextNull⟩
  rw [clean]
  cases canonnameNull with
  | false =>
      have wild : (⟨false, nextNull⟩ : Stale).canonname = .wild := rfl
      rw [wild, freeaddrlist_append_wild sound, Outcome.fault_bind,
        if_neg (fun cleared => by cases cleared.1)]
  | true =>
      have null : (⟨true, nextNull⟩ : Stale).canonname ≠ .wild := by
        simp [Stale.canonname, Stale.pointer]
      rw [freeaddrlist_eq (sound_append sound null)]
      cases nextNull <;> rfl

end Free

section Record

variable {buf : List UInt8} {block : Option Stale} {stale : Stale} {named : Bool}
  {owned : List Pointer} {start : ℕ}

theorem read_header_eq_fault (bound : start < 2 ^ 32) (outside : buf.length < start + hlen) :
    Buffer.read buf (signed 32 start) hlen = .fault := by
  apply Buffer.read_eq_fault
  rcases Nat.lt_or_ge start (2 ^ 31) with less | large
  · right
    rw [signed_of_lt (by omega) (by exact_mod_cast less)]
    exact_mod_cast outside
  · left
    exact signed_of_le (by exact_mod_cast large) (by exact_mod_cast bound)

theorem decodeNode_none (header : start + hlen ≤ buf.length)
    (sound : ∀ pointer ∈ owned, pointer ≠ .wild) :
    decodeNode buf buf.length none named owned start = .error (-rpcEnomem) := by
  rw [decodeNode, Buffer.read_of_le header, Outcome.ok_bind]
  simp [clean, freeaddrlist_eq sound]

/-- The part of the body behind the tests, for the record at an index. -/
def partsAt (buf : List UInt8) (start : ℕ) (named : Bool) : Outcome Decoded :=
  decodeParts buf ((buf.drop start).take hlen) (Buffer.number 4 buf (start + 16))
    (intAt buf (start + 20)) named (start + 24 : ℕ)

theorem decodeRecord_eq {α : Type} {buflen : ℤ} (short : buf.length < 2 ^ 31)
    (int : buflen < 2 ^ 31) (header : start + hlen ≤ buf.length) (overlong : Outcome α)
    (next : Decoded → Outcome α) :
    decodeRecord buf buflen (Buffer.number 4 buf (start + 16)) named start overlong next =
      if buflen ≤ (start + 24 : ℕ) then overlong
      else if buf.length < start + 24 then .fault
      else if 0 < Buffer.number 4 buf (start + 16) ∧ buflen ≤ (addressEnd buf start % 2 ^ 32 : ℕ)
        then overlong
      else partsAt buf start named >>= next := by
  have within : start + 20 ≤ buf.length := header
  have bi : signed 32 ((start : ℤ) + hlen) = (start + 20 : ℕ) := by
    rw [hlen]
    exact signed_of_lt (by omega) (by omega)
  simp only [decodeRecord, Buffer.read_of_le header, Outcome.ok_bind, bi]
  by_cases cutHeader : buflen ≤ (start + 20 : ℕ)
  · rw [if_pos cutHeader, if_pos (by omega)]
  have sum : unsigned 64 ((start + 20 : ℕ) + 4) = (start + 24 : ℕ) :=
    unsigned_of_lt (by omega) (by omega)
  have size : unsigned 64 buflen = buflen := unsigned_of_lt (by omega) (by omega)
  rw [if_neg cutHeader, sum, size]
  by_cases cut : buflen ≤ (start + 24 : ℕ)
  · rw [if_pos cut, if_pos cut]
  rw [if_neg cut, if_neg cut]
  by_cases outside : buf.length < start + 24
  · rw [if_pos outside, Buffer.read_eq_fault (by omega), Outcome.fault_bind]
  have bi' : signed 32 ((start + 20 : ℕ) + 4) = (start + 24 : ℕ) :=
    signed_of_lt (by omega) (by omega)
  have size' : unsigned 32 buflen = buflen := unsigned_of_lt (by omega) (by omega)
  have addressEnd' : (start + 24 : ℕ) + (Buffer.number 4 buf (start + 16) : ℤ) =
      (addressEnd buf start : ℕ) := rfl
  have wrapped : unsigned 32 (addressEnd buf start : ℕ) = (addressEnd buf start % 2 ^ 32 : ℕ) := by
    simp [unsigned]
  have aclen : intAt ((buf.drop (start + 20)).take 4) 0 = intAt buf (start + 20) := by
    rw [intAt, Buffer.number_take_drop (by decide), intAt, Nat.add_zero]
  rw [if_neg outside, Buffer.read_of_le (by omega), Outcome.ok_bind, bi', addressEnd', size',
    wrapped, aclen, partsAt]

theorem number_header (buf : List UInt8) (start : ℕ) :
    Buffer.number 4 ((buf.drop start).take hlen) 16 = Buffer.number 4 buf (start + 16) :=
  Buffer.number_take_drop (by decide)

theorem decodeNode_some (short : buf.length < 2 ^ 31) (header : start + hlen ≤ buf.length) :
    decodeNode buf buf.length (some stale) named owned start =
      if buf.length ≤ start + 24 ∨
          0 < Buffer.number 4 buf (start + 16) ∧ buf.length ≤ addressEnd buf start % 2 ^ 32 then
        clean (owned ++ [stale.canonname]) stale.next (-rpcEoverlong)
      else partsAt buf start named := by
  have int : (buf.length : ℤ) < 2 ^ 31 := by omega
  rw [decodeNode, Buffer.read_of_le header, Outcome.ok_bind]
  dsimp only
  rw [number_header, decodeRecord_eq short int header, Outcome.bind_ok]
  by_cases cut : buf.length ≤ start + 24
  · rw [if_pos (Int.ofNat_le.2 cut), if_pos (.inl cut)]
  rw [if_neg (mt Int.ofNat_le.1 cut), if_neg (by omega)]
  by_cases wraps : 0 < Buffer.number 4 buf (start + 16) ∧
      buf.length ≤ addressEnd buf start % 2 ^ 32
  · rw [if_pos ⟨wraps.1, Int.ofNat_le.2 wraps.2⟩, if_pos (.inr wraps)]
  · rw [if_neg (mt (And.imp_right Int.ofNat_le.1) wraps), if_neg (not_or.2 ⟨cut, wraps⟩)]

theorem decodeAddress_of_complete (complete : Complete buf start) :
    decodeAddress buf (start + 24 : ℕ) (Buffer.number 4 buf (start + 16)) =
      .ok ((buf.drop (start + 24)).take (Buffer.number 4 buf (start + 16))) := by
  have inside : start + 24 + Buffer.number 4 buf (start + 16) ≤ buf.length := Nat.le_of_lt complete
  rw [decodeAddress]
  split
  case isTrue => exact Buffer.read_of_le inside
  case isFalse empty => rw [Nat.eq_zero_of_not_pos empty, List.take_zero]

theorem decodeName_of_ends (ends : 0 < aclenAt buf start → 0 ∈ buf.drop (addressEnd buf start)) :
    decodeName buf (addressEnd buf start) (intAt buf (start + 20)) =
      .ok (if 0 < aclenAt buf start then some (Buffer.stringAt buf (addressEnd buf start))
        else none) := by
  have sign : 0 < intAt buf (start + 20) ↔ 0 < aclenAt buf start := Int.pos_iff_toNat_pos
  rw [decodeName]
  by_cases named : 0 < aclenAt buf start
  · rw [if_pos (sign.2 named), if_pos named, Buffer.readString_of_mem (ends named)]
    rfl
  · rw [if_neg (mt sign.1 named), if_neg named]

theorem signed_behind (less : addressEnd buf start < 2 ^ 31) :
    (if 0 < intAt buf (start + 20) then
        signed 32 ((addressEnd buf start : ℕ) + intAt buf (start + 20))
      else (addressEnd buf start : ℕ)) =
      signed 32 (addressEnd buf start + aclenAt buf start : ℕ) := by
  split
  case isTrue named => rw [Nat.cast_add, aclenAt, Int.toNat_of_nonneg (Int.le_of_lt named)]
  case isFalse nameless =>
    rw [aclenAt, Int.toNat_of_nonpos (Int.not_lt.1 nameless), Nat.add_zero,
      signed_of_lt (by omega) (by exact_mod_cast less)]

theorem partsAt_of_complete (short : buf.length < 2 ^ 31) (complete : Complete buf start)
    (ends : 0 < aclenAt buf start → 0 ∈ buf.drop (addressEnd buf start)) :
    partsAt buf start named =
      .ok ⟨infoAt buf start named, namePointer (infoAt buf start named).canonname,
        signed 32 (addressEnd buf start + aclenAt buf start : ℕ)⟩ := by
  have inside : addressEnd buf start < buf.length := complete
  have sum : (start + 24 : ℕ) + (Buffer.number 4 buf (start + 16) : ℤ) =
      (addressEnd buf start : ℕ) := rfl
  have bi : signed 32 (addressEnd buf start) = (addressEnd buf start : ℕ) :=
    signed_of_lt (by omega) (by omega)
  have less : addressEnd buf start < 2 ^ 31 := by omega
  have field (index : ℕ) (within : index + 4 ≤ hlen) :
      intAt ((buf.drop start).take hlen) index = intAt buf (start + index) := by
    rw [intAt, Buffer.number_take_drop within, intAt]
  simp only [partsAt, decodeParts, decodeAddress_of_complete complete, Outcome.ok_bind, sum, bi,
    decodeName_of_ends ends, signed_behind less, field 0 (by decide), field 4 (by decide),
    field 8 (by decide),
    field 12 (by decide)]
  rfl

theorem partsAt_of_endless (short : buf.length < 2 ^ 31) (complete : Complete buf start)
    (hasName : 0 < aclenAt buf start) (endless : 0 ∉ buf.drop (addressEnd buf start)) :
    partsAt buf start named = .fault := by
  have inside : addressEnd buf start < buf.length := complete
  have sum : (start + 24 : ℕ) + (Buffer.number 4 buf (start + 16) : ℤ) =
      (addressEnd buf start : ℕ) := rfl
  have bi : signed 32 (addressEnd buf start) = (addressEnd buf start : ℕ) :=
    signed_of_lt (by omega) (by omega)
  have unread : decodeName buf (addressEnd buf start) (intAt buf (start + 20)) = .fault := by
    rw [decodeName, if_pos (Int.pos_iff_toNat_pos.2 hasName), Buffer.readString_eq_fault endless,
      Outcome.fault_bind]
  simp only [partsAt, decodeParts, decodeAddress_of_complete complete, Outcome.ok_bind, sum, bi,
    unread, Outcome.fault_bind]

theorem partsAt_eq_fault (short : buf.length < 2 ^ 31)
    (wraps : ¬buf.length ≤ addressEnd buf start % 2 ^ 32) (cut : ¬Complete buf start)
    (header : start + 24 < buf.length) :
    partsAt buf start named = .fault := by
  have beyond : buf.length < start + 24 + Buffer.number 4 buf (start + 16) := by
    rw [Complete, addressEnd] at *
    omega
  have unread : decodeAddress buf (start + 24 : ℕ) (Buffer.number 4 buf (start + 16)) = .fault := by
    rw [decodeAddress, if_pos (by omega)]
    exact Buffer.read_eq_fault (by omega)
  rw [partsAt, decodeParts, unread, Outcome.fault_bind]

theorem partsAt_eq_ok (short : buf.length < 2 ^ 31) (header : start + 24 ≤ buf.length)
    {decoded : Decoded} (success : partsAt buf start named = .ok decoded) :
    addressEnd buf start ≤ buf.length ∧
      decoded.bi = signed 32 (addressEnd buf start + aclenAt buf start : ℕ) := by
  have inside : addressEnd buf start ≤ buf.length := by
    by_contra outside
    rw [addressEnd] at outside
    rw [partsAt, decodeParts, decodeAddress, if_pos (by omega), Buffer.read_eq_fault (by omega),
      Outcome.fault_bind] at success
    cases success
  have sum : (start + 24 : ℕ) + (Buffer.number 4 buf (start + 16) : ℤ) =
      (addressEnd buf start : ℕ) := rfl
  have bi : signed 32 (addressEnd buf start) = (addressEnd buf start : ℕ) :=
    signed_of_lt (by omega) (by omega)
  rw [partsAt, decodeParts] at success
  rcases Outcome.exists_of_bind_eq_ok success with ⟨addr, -, success⟩
  rcases Outcome.exists_of_bind_eq_ok success with ⟨name, -, success⟩
  have less : addressEnd buf start < 2 ^ 31 := by omega
  refine ⟨inside, ?_⟩
  rw [← Outcome.ok.inj success]
  simp only [sum, bi, signed_behind less]

theorem decodeNode_of_complete (short : buf.length < 2 ^ 31) (complete : Complete buf start) :
    decodeNode buf buf.length (some stale) named owned start =
      partsAt buf start named := by
  have inside : start + 24 + Buffer.number 4 buf (start + 16) < buf.length := complete
  have whole : addressEnd buf start % 2 ^ 32 = addressEnd buf start :=
    Nat.mod_eq_of_lt (by rw [addressEnd]; omega)
  rw [decodeNode_some short (by rw [hlen]; omega), whole, if_neg (by rw [addressEnd]; omega)]

theorem decodeNode_of_cut (short : buf.length < 2 ^ 31) (cut : ¬Complete buf start)
    (header : start + hlen ≤ buf.length) (sound : ∀ pointer ∈ owned, pointer ≠ .wild) :
    decodeNode buf buf.length (some stale) named owned start =
      if (buf.length ≤ start + 24 ∨ buf.length ≤ addressEnd buf start % 2 ^ 32) ∧
          stale.Cleared then .error (-rpcEoverlong)
      else .fault := by
  rw [decodeNode_some short header, clean_stale sound]
  by_cases room : buf.length ≤ start + 24
  · simp only [room, true_or, true_and, if_true]
  by_cases wraps : buf.length ≤ addressEnd buf start % 2 ^ 32
  · have address : 0 < Buffer.number 4 buf (start + 16) := by
      rw [Complete, addressEnd] at cut
      omega
    simp only [address, wraps, or_true, true_and, if_true]
  · rw [if_neg (by omega), if_neg (by omega),
      partsAt_eq_fault short wraps cut (Nat.lt_of_not_le room)]

/-- What one pass of the loop does: a record that is not safe is a fault, and one that is safe is
decoded if it is complete and memory for it has been allocated. -/
theorem decodeNode_cases (short : buf.length < 2 ^ 31) (bound : start < 2 ^ 32)
    (sound : ∀ pointer ∈ owned, pointer ≠ .wild) :
    ¬RecordSafe buf block start ∧
        decodeNode buf buf.length block named owned (signed 32 start) = .fault ∨
      RecordSafe buf block start ∧ ¬(Complete buf start ∧ block ≠ none) ∧
        decodeNode buf buf.length block named owned (signed 32 start) =
          .error (if block = none then -rpcEnomem else -rpcEoverlong) ∨
      RecordSafe buf block start ∧ (Complete buf start ∧ block ≠ none) ∧
        decodeNode buf buf.length block named owned (signed 32 start) =
          .ok ⟨infoAt buf start named, namePointer (infoAt buf start named).canonname,
            signed 32 (addressEnd buf start + aclenAt buf start : ℕ)⟩ := by
  rcases Nat.lt_or_ge buf.length (start + hlen) with outside | header
  · refine .inl ⟨fun safe => Nat.not_le.2 outside safe.header, ?_⟩
    rw [decodeNode, read_header_eq_fault bound outside, Outcome.fault_bind]
  have bi : signed 32 start = (start : ℤ) := signed_of_lt (by omega) (by rw [hlen] at header; omega)
  rw [bi]
  cases block with
  | none =>
      refine .inr (.inl ⟨⟨header, ?_, ?_, ?_⟩, fun both => both.2 rfl,
        decodeNode_none header sound⟩)
      · exact fun allocated => absurd rfl allocated
      · exact fun allocated => absurd rfl allocated
      · exact fun _ isBlock => nomatch isBlock
  | some stale =>
      by_cases complete : Complete buf start
      · by_cases ends : 0 < aclenAt buf start → 0 ∈ buf.drop (addressEnd buf start)
        · refine .inr (.inr ⟨⟨header, fun _ _ => ends, ?_, ?_⟩, ⟨complete, by simp⟩,
            ?_⟩)
          · exact fun _ cut => absurd complete cut
          · exact fun _ _ cut => absurd complete cut
          · rw [decodeNode_of_complete short complete, partsAt_of_complete short complete ends]
        · refine .inl ⟨fun safe => ends (safe.name (by simp) complete), ?_⟩
          rw [Classical.not_imp] at ends
          rw [decodeNode_of_complete short complete,
            partsAt_of_endless short complete ends.1 ends.2]
      · rw [decodeNode_of_cut short complete header sound]
        split
        case isTrue handled =>
          refine .inr (.inl ⟨⟨header, ?_, fun _ _ => handled.1, ?_⟩,
            fun both => complete both.1, rfl⟩)
          · exact fun _ whole => absurd whole complete
          · intro block isBlock _
            rw [← Option.some.inj isBlock]
            exact handled.2
        case isFalse unhandled =>
          refine .inl ⟨fun safe => unhandled ⟨safe.address (by simp) complete, ?_⟩, rfl⟩
          exact safe.freed stale rfl complete

end Record

/-! ## Safety -/

/-- Decoding ends with an error or a list, and every access has been inside the buffer. -/
def DecodesSafely (buf : List UInt8) (cnt : ℤ) (heap : Heap) : Prop :=
  (decodeAddrlist buf cnt buf.length heap).Returns

/-- Every record that the decoder comes to is safe to decode. -/
def RecordsSafe (buf : List UInt8) (cnt : ℤ) (heap : Heap) : Prop :=
  ∀ i : ℕ, i < cnt → (∀ j < i, Complete buf (recordStart buf j) ∧ heap.node j ≠ none) →
    RecordSafe buf (heap.node i) (recordStart buf i)

theorem recordStart_lt {buf : List UInt8} (short : buf.length < 2 ^ 31) {i : ℕ}
    (complete : Complete buf (recordStart buf i)) : recordStart buf (i + 1) < 2 ^ 32 := by
  have address : addressEnd buf (recordStart buf i) < buf.length := complete
  have name := aclenAt_lt buf (recordStart buf i)
  rw [recordStart]
  omega

theorem signed_recordStart_zero (buf : List UInt8) : signed 32 (recordStart buf 0 : ℕ) = 0 := by
  rw [recordStart]
  decide

theorem decodeNodes_returns_iff {buf : List UInt8} (short : buf.length < 2 ^ 31) (heap : Heap)
    (remaining : ℕ) {first : ℕ} {owned : List Pointer} (bound : recordStart buf first < 2 ^ 32)
    (sound : ∀ pointer ∈ owned, pointer ≠ .wild) :
    (decodeNodes buf buf.length heap remaining first owned
        (signed 32 (recordStart buf first))).Returns ↔
      ∀ i, first ≤ i → i < first + remaining →
        (∀ j, first ≤ j → j < i → Complete buf (recordStart buf j) ∧ heap.node j ≠ none) →
          RecordSafe buf (heap.node i) (recordStart buf i) := by
  induction remaining generalizing first owned with
  | zero =>
      apply iff_of_true (Outcome.returns_ok _)
      intro i least less
      exact absurd less (Nat.not_lt.2 least)
  | succ remaining ih =>
      have step := @decodeNode_cases buf (heap.node first) (heap.name first) owned _ short bound
        sound
      rw [decodeNodes]
      rcases step with ⟨notSafe, equal⟩ | ⟨safe, stops, equal⟩ | ⟨safe, goesOn, equal⟩
      · rw [equal, Outcome.fault_bind]
        refine iff_of_false Outcome.not_returns_fault fun all => notSafe (all first le_rfl ?_ ?_)
        · omega
        · intro j least less
          omega
      · rw [equal, Outcome.error_bind]
        have negative : (if heap.node first = none then -rpcEnomem else -rpcEoverlong) < 0 := by
          split <;> decide
        refine iff_of_true (Outcome.returns_error negative) fun i least _ before => ?_
        rcases Nat.eq_or_lt_of_le least with rfl | later
        · exact safe
        · exact absurd (before first le_rfl later) stops
      · have behind : addressEnd buf (recordStart buf first) + aclenAt buf (recordStart buf first) =
            recordStart buf (first + 1) := rfl
        rw [equal, Outcome.ok_bind, Outcome.returns_map_iff, behind]
        rw [ih (recordStart_lt short goesOn.1) (sound_append sound (namePointer_ne_wild _))]
        refine ⟨fun all i least less before => ?_, fun all i least less before =>
          all i (Nat.le_of_succ_le least) (by omega) fun j lower upper => ?_⟩
        · rcases Nat.eq_or_lt_of_le least with rfl | later
          · exact safe
          · apply all i later (by omega)
            intro j lower upper
            exact before j (Nat.le_of_succ_le lower) upper
        · rcases Nat.eq_or_lt_of_le lower with rfl | later
          · exact goesOn
          · exact before j later upper

/-- Decoding is safe exactly on lists all of whose records are. -/
theorem decodesSafely_iff {buf : List UInt8} (short : buf.length < 2 ^ 31) (cnt : ℤ) (heap : Heap) :
    DecodesSafely buf cnt heap ↔ RecordsSafe buf cnt heap := by
  have none : ∀ pointer ∈ ([] : List Pointer), pointer ≠ .wild := by simp
  have run := @decodeNodes_returns_iff buf short heap cnt.toNat 0 [] (Nat.two_pow_pos 32) none
  rw [signed_recordStart_zero] at run
  rw [DecodesSafely, decodeAddrlist, run, RecordsSafe]
  refine forall_congr' fun i => ?_
  have less : i < 0 + cnt.toNat ↔ (i : ℤ) < cnt := by omega
  simp only [Nat.zero_le, true_imp_iff, less]

/-- Every allocation succeeds, in memory that has been cleared. -/
def clearedHeap : Heap := ⟨fun _ => some ⟨true, true⟩, fun _ => true⟩

/-- A record without address and name. -/
theorem decodesSafely_empty_record : DecodesSafely (List.replicate 25 0) 1 clearedHeap := by
  refine (decodesSafely_iff (by decide) 1 clearedHeap).2 fun i less _ => ?_
  have first : i = 0 := by omega
  subst first
  refine ⟨by decide, ?_, ?_, ?_⟩
  · exact fun _ _ named => absurd named (by decide)
  · exact fun _ cut => absurd (show Complete (List.replicate 25 0) 0 by decide) cut
  · exact fun _ _ cut => absurd (show Complete (List.replicate 25 0) 0 by decide) cut

-- The header of the second record is read at index 24 of 25.
theorem not_decodesSafely_two_records : ¬DecodesSafely (List.replicate 25 0) 2 clearedHeap := by
  intro safe
  rw [DecodesSafely, decodeAddrlist, ← signed_recordStart_zero (List.replicate 25 0),
    decodeNodes_returns_iff (by decide) _ _ (by decide) (by simp)] at safe
  have second := safe 1 (by decide) (by decide) fun j _ less => ?_
  · exact absurd second.header (by decide)
  · have first : j = 0 := by omega
    subst first
    exact ⟨by decide, by simp [clearedHeap]⟩

/-! ## What the encoder writes -/

/-- The bytes of an element, and of a list. -/
def Node.encoded (node : Node) : List UInt8 := encodeAddrinfo node.toAddrinfo

def encodedList (nodes : List Node) : List UInt8 := nodes.flatMap Node.encoded

section Encoder

variable {node : Node} {nodes : List Node} {front old : List UInt8}

theorem length_name (info : Addrinfo) :
    (info.canonname.elim [] terminated).length = nameLength info := by
  rw [nameLength]
  cases info.canonname with
  | none => rfl
  | some name => simp [terminated, CString.length]

theorem Node.length_encoded (node : Node) :
    node.encoded.length = 24 + node.addr.length + nameLength node.toAddrinfo := by
  simp only [Node.encoded, encodeAddrinfo, List.length_append, LittleEndian.length_intBytes,
    LittleEndian.length_bytes, length_name]

theorem Node.encoded_eq (node : Node) :
    node.encoded = addrinfoHeader node.toAddrinfo ++
      LittleEndian.bytes 4 (nameLength node.toAddrinfo) ++ node.addr ++
      node.canonname.elim [] terminated := by
  rw [Node.encoded, encodeAddrinfo, length_name, addrinfoHeader]

theorem length_addrinfoHeader (info : Addrinfo) : (addrinfoHeader info).length = 20 := by
  simp [addrinfoHeader]

theorem intBytes_natCast {count number : ℕ} (bound : number < 256 ^ count) :
    LittleEndian.intBytes count number = LittleEndian.bytes count number := by
  have whole : ((number : ℤ) % 256 ^ count).toNat = number := by
    rw [Int.emod_eq_of_lt (Int.natCast_nonneg _) (by exact_mod_cast bound), Int.toNat_natCast]
  rw [LittleEndian.intBytes, whole]

theorem encodePart_append {data : List UInt8} {bi : ℤ} (isEnd : bi = front.length)
    (fits : data.length ≤ old.length) :
    encodePart data (front ++ old) bi = .ok (front ++ data ++ old.drop data.length) := by
  rw [encodePart]
  split
  · exact Buffer.write_append isEnd fits
  case isFalse empty =>
    rw [not_not.1 empty]
    simp

theorem signed_length_append {count : ℤ} {data : List UInt8} (width : data.length = count)
    (small : (front ++ data).length < 2 ^ 31) :
    signed 32 (front.length + count) = (front ++ data).length := by
  rw [← width, ← Nat.cast_add, ← List.length_append]
  exact signed_of_lt (by omega) (by omega)

theorem encodeNode_append (fits : node.encoded.length ≤ old.length)
    (small : front.length + node.encoded.length < 2 ^ 31) :
    encodeNode node (front ++ old) front.length =
      .ok (front ++ node.encoded ++ old.drop node.encoded.length,
        (front ++ node.encoded).length) := by
  have headerLength := length_addrinfoHeader node.toAddrinfo
  have nameLength' := length_name node.toAddrinfo
  have total := node.length_encoded
  have parts := node.encoded_eq
  have aclen : signed 32 (nameLength node.toAddrinfo) = nameLength node.toAddrinfo :=
    signed_of_lt (by omega) (by omega)
  have counted : LittleEndian.intBytes 4 (nameLength node.toAddrinfo) =
      LittleEndian.bytes 4 (nameLength node.toAddrinfo) := intBytes_natCast (by omega)
  have countLength := LittleEndian.length_bytes 4 (nameLength node.toAddrinfo)
  simp only [encodeNode, aclen, counted, Int.toNat_natCast, List.take_of_length_le nameLength'.le]
  -- every index is the length of what has been written before
  generalize addrinfoHeader node.toAddrinfo = header at *
  generalize LittleEndian.bytes 4 (nameLength node.toAddrinfo) = count at *
  generalize node.canonname.elim [] terminated = name at *
  have sizes : front.length + (header.length + count.length + node.addr.length + name.length) <
      2 ^ 31 := by omega
  have room : header.length + count.length + node.addr.length + name.length ≤ old.length := by omega
  have first : signed 32 (front.length + hlen) = (front ++ header).length :=
    signed_length_append (by rw [headerLength]; rfl) (by simp only [List.length_append]; omega)
  have second : signed 32 ((front ++ header).length + 4) = (front ++ header ++ count).length :=
    signed_length_append (by rw [countLength]; rfl) (by simp only [List.length_append]; omega)
  have third : signed 32 ((front ++ header ++ count).length + node.addr.length) =
      (front ++ header ++ count ++ node.addr).length :=
    signed_length_append rfl (by simp only [List.length_append]; omega)
  have fourth : signed 32
      ((front ++ header ++ count ++ node.addr).length + nameLength node.toAddrinfo) =
      (front ++ header ++ count ++ node.addr ++ name).length :=
    signed_length_append (by rw [nameLength']) (by simp only [List.length_append]; omega)
  rw [first, second, third, fourth, Buffer.write_append rfl (by omega), Outcome.ok_bind,
    Buffer.write_append rfl (by rw [List.length_drop]; omega), Outcome.ok_bind,
    encodePart_append rfl (by simp only [List.length_drop]; omega), Outcome.ok_bind,
    encodePart_append rfl (by simp only [List.length_drop]; omega), Outcome.ok_bind,
    Outcome.pure_eq, parts]
  simp only [List.append_assoc, List.drop_drop, List.length_append, Nat.add_assoc]

theorem length_encodedList_cons (node : Node) (nodes : List Node) :
    (encodedList (node :: nodes)).length = node.encoded.length + (encodedList nodes).length := by
  simp [encodedList]

theorem encodedList_cons (node : Node) (nodes : List Node) :
    encodedList (node :: nodes) = node.encoded ++ encodedList nodes := List.flatMap_cons

theorem encodeNodes_append (nodes : List Node) {front old : List UInt8} {cnt : ℕ}
    (fits : (encodedList nodes).length ≤ old.length)
    (small : front.length + (encodedList nodes).length < 2 ^ 31) (less : cnt ≤ front.length) :
    encodeNodes nodes (front ++ old) front.length cnt =
      .ok ((cnt + nodes.length : ℕ),
        front ++ encodedList nodes ++ old.drop (encodedList nodes).length) := by
  induction nodes generalizing front old cnt with
  | nil => simp [encodeNodes, encodedList]
  | cons node nodes ih =>
      have header : 24 ≤ node.encoded.length := by
        rw [Node.length_encoded]
        omega
      rw [length_encodedList_cons] at fits small
      have next : signed 32 ((cnt : ℤ) + 1) = (cnt + 1 : ℕ) := signed_of_lt (by omega) (by omega)
      rw [encodeNodes, encodeNode_append (by omega) (by omega), Outcome.ok_bind, next]
      dsimp only
      rw [ih (by rw [List.length_drop]; omega) (by rw [List.length_append]; omega)
        (by rw [List.length_append]; omega), encodedList_cons]
      simp only [List.append_assoc, List.drop_drop, List.length_append, List.length_cons,
        Nat.add_assoc, Nat.add_comm 1]

theorem measureAddrlist_eq (nodes : List Node) {len : ℕ}
    (small : len + (encodedList nodes).length < 2 ^ 31) :
    measureAddrlist nodes len = (len + (encodedList nodes).length : ℕ) := by
  induction nodes generalizing len with
  | nil => rfl
  | cons node nodes ih =>
      rw [length_encodedList_cons, Node.length_encoded] at *
      have address : unsigned 32 (hlen + node.addr.length) = (20 + node.addr.length : ℕ) :=
        unsigned_of_lt (by omega) (by rw [hlen]; omega)
      have first : signed 32 (len + (20 + node.addr.length : ℕ) + 4) =
          (len + 24 + node.addr.length : ℕ) := by
        rw [signed_of_lt (by omega) (by omega)]
        omega
      have second : signed 32 ((len + 24 + node.addr.length : ℕ) + nameLength node.toAddrinfo) =
          (len + (24 + node.addr.length + nameLength node.toAddrinfo) : ℕ) := by
        rw [signed_of_lt (by omega) (by omega)]
        omega
      rw [measureAddrlist, address, first, second, ih (by omega), Nat.add_assoc]

theorem encodeAddrlist_eq (nonempty : nodes ≠ []) (small : (encodedList nodes).length < 2 ^ 31)
    (buf : List UInt8) :
    encodeAddrlist nodes buf buf.length =
      if buf.length < (encodedList nodes).length then .error (-rpcEoverlong)
      else .ok ⟨nodes.length, (encodedList nodes).length,
        encodedList nodes ++ buf.drop (encodedList nodes).length⟩ := by
  have measured := @measureAddrlist_eq nodes 0 (by omega)
  rw [Nat.zero_add, Nat.cast_zero] at measured
  rw [encodeAddrlist, measured, if_neg nonempty]
  simp only [Nat.cast_lt]
  split
  · rfl
  case isFalse fits =>
    have written := @encodeNodes_append nodes [] buf 0 (by omega) (by simpa using small) le_rfl
    simp only [List.nil_append, List.length_nil, Nat.cast_zero, Nat.zero_add] at written
    rw [written]
    rfl

theorem encodeAddrlist_eq_hosts (nonempty : nodes ≠ [])
    (small : (encodedList nodes).length < 2 ^ 31) (buf : List UInt8) :
    encodeAddrlist nodes buf buf.length =
      let encoded := Rpc.encodeAddrlist (nodes.map Node.toAddrinfo) buf.length
      if encoded.1 < 0 then .error encoded.1
      else .ok ⟨encoded.1, encoded.2.1, encoded.2.2 ++ buf.drop encoded.2.1⟩ := by
  have same : (nodes.map Node.toAddrinfo).flatMap encodeAddrinfo = encodedList nodes := by
    rw [List.flatMap_map]
    rfl
  rw [encodeAddrlist_eq nonempty small, Rpc.encodeAddrlist, same]
  dsimp only
  split
  · rfl
  · rw [if_neg (by simp), List.length_map]

end Encoder

/-! ## Round trip -/

section RoundTrip

variable {node : Node} {front back : List UInt8}

theorem intAt_append_right {width : ℕ} (index : ℕ) (isWidth : front.length = width)
    (back : List UInt8) : intAt (front ++ back) (width + index) = intAt back index := by
  rw [intAt, Buffer.number_append_right 4 index isWidth, intAt]

theorem intAt_append_left {number : ℤ} (range : -2 ^ 31 ≤ number ∧ number < 2 ^ 31)
    (back : List UInt8) : intAt (LittleEndian.intBytes 4 number ++ back) 0 = number := by
  have pow : (256 : ℤ) ^ 4 = 2 ^ 32 := by decide
  rw [intAt, Buffer.number_intBytes_append, pow, signed_emod]
  exact signed_of_lt range.1 range.2

theorem Node.encoded_append (node : Node) (back : List UInt8) :
    node.encoded ++ back = addrinfoHeader node.toAddrinfo ++
      (LittleEndian.bytes 4 (nameLength node.toAddrinfo) ++
        (node.addr ++ (node.canonname.elim [] terminated ++ back))) := by
  rw [node.encoded_eq]
  simp only [List.append_assoc]

theorem Node.fields_encoded (node : Node) (back : List UInt8) :
    intAt (node.encoded ++ back) 0 = node.flags ∧
      intAt (node.encoded ++ back) 4 = node.family ∧
      intAt (node.encoded ++ back) 8 = node.socktype ∧
      intAt (node.encoded ++ back) 12 = node.protocol ∧
      Buffer.number 4 (node.encoded ++ back) 16 = node.addr.length := by
  have width (number : ℤ) := LittleEndian.length_intBytes 4 number
  simp only [node.encoded_append, addrinfoHeader, List.append_assoc]
  refine ⟨intAt_append_left node.flagsInt _, ?_, ?_, ?_, ?_⟩
  · exact (intAt_append_right 0 (width _) _).trans (intAt_append_left node.familyInt _)
  · exact (intAt_append_right 4 (width _) _).trans
      ((intAt_append_right 0 (width _) _).trans (intAt_append_left node.socktypeInt _))
  · exact (intAt_append_right 8 (width _) _).trans ((intAt_append_right 4 (width _) _).trans
      ((intAt_append_right 0 (width _) _).trans (intAt_append_left node.protocolInt _)))
  · have skip (index : ℕ) (number : ℤ) := Buffer.number_append_right 4 index (width number)
    exact (skip 12 _ _).trans ((skip 8 _ _).trans ((skip 4 _ _).trans ((skip 0 _ _).trans
      (Buffer.number_bytes_append node.addrlenUnsigned _))))

theorem Node.aclen_encoded (node : Node) (back : List UInt8)
    (small : nameLength node.toAddrinfo < 2 ^ 31) :
    intAt (node.encoded ++ back) 20 = nameLength node.toAddrinfo := by
  have header := length_addrinfoHeader node.toAddrinfo
  have stored : Buffer.number 4 (node.encoded ++ back) 20 = nameLength node.toAddrinfo := by
    rw [node.encoded_append]
    exact (Buffer.number_append_right 4 0 header _).trans (Buffer.number_bytes_append (by omega) _)
  rw [intAt, stored]
  exact signed_of_lt (by omega) (by exact_mod_cast small)

theorem Node.drop_encoded (node : Node) (back : List UInt8) :
    (node.encoded ++ back).drop 24 = node.addr ++ (node.canonname.elim [] terminated ++ back) := by
  have width : (addrinfoHeader node.toAddrinfo ++
      LittleEndian.bytes 4 (nameLength node.toAddrinfo)).length = 24 := by
    rw [List.length_append, length_addrinfoHeader, LittleEndian.length_bytes]
  rw [node.encoded_append, ← List.append_assoc, List.drop_left' width]

theorem canonname_of_drop {info : Addrinfo} {buf back : List UInt8} {start : ℕ}
    (rest : buf.drop start = info.canonname.elim [] terminated ++ back) :
    (if 0 < nameLength info then some (Buffer.stringAt buf start) else none) = info.canonname := by
  rw [nameLength]
  cases named : info.canonname with
  | none => rfl
  | some name =>
      have bytes : buf.drop start = name.bytes ++ 0 :: back := by
        simpa [named, terminated] using rest
      rw [Option.elim_some, if_pos (Nat.succ_pos _), Buffer.stringAt_of_drop bytes]

/-- The record of an element that stands in a buffer. -/
structure RecordOf (node : Node) (buf : List UInt8) (start : ℕ) : Prop where
  info : infoAt buf start true = node.toAddrinfo
  addressEnd : addressEnd buf start = start + 24 + node.addr.length
  aclen : aclenAt buf start = nameLength node.toAddrinfo
  name : 0 < aclenAt buf start → 0 ∈ buf.drop (start + 24 + node.addr.length)

theorem recordOf_encoded (node : Node) (front back : List UInt8)
    (small : nameLength node.toAddrinfo < 2 ^ 31) :
    RecordOf node (front ++ (node.encoded ++ back)) front.length := by
  rcases node.fields_encoded back with ⟨flags, family, socktype, protocol, addrlen⟩
  have aclen := node.aclen_encoded back small
  have address := node.drop_encoded back
  generalize node.encoded ++ back = record at *
  have field (index : ℕ) := intAt_append_right index (Eq.refl front.length) record
  have addrlen' := (Buffer.number_append_right 4 16 (Eq.refl front.length) record).trans addrlen
  have address' : (front ++ record).drop (front.length + 24) =
      node.addr ++ (node.canonname.elim [] terminated ++ back) := by
    rw [List.drop_length_add_append, address]
  have name : (front ++ record).drop (front.length + 24 + node.addr.length) =
      node.canonname.elim [] terminated ++ back := by
    rw [← List.drop_drop, address', List.drop_left]
  have aclen' : aclenAt (front ++ record) front.length = nameLength node.toAddrinfo := by
    rw [aclenAt, field, aclen, Int.toNat_natCast]
  have ends : addressEnd (front ++ record) front.length = front.length + 24 + node.addr.length := by
    rw [addressEnd, addrlen']
  have start : intAt (front ++ record) front.length = node.flags := (field 0).trans flags
  refine ⟨?_, ends, aclen', ?_⟩
  · simp only [infoAt, start, field, family, socktype, protocol, addrlen', address', List.take_left,
      aclen', ends, if_true, canonname_of_drop name]
  · intro named
    rw [name]
    rw [aclen', nameLength] at named
    cases isName : node.canonname with
    | none => simp [isName] at named
    | some string => simp [terminated]

theorem nameLength_pos_iff (info : Addrinfo) : 0 < nameLength info ↔ info.canonname ≠ none := by
  rw [nameLength]
  cases info.canonname <;> simp

theorem complete_encoded_iff (node : Node) (front back : List UInt8)
    (small : nameLength node.toAddrinfo < 2 ^ 31) :
    Complete (front ++ (node.encoded ++ back)) front.length ↔
      node.canonname ≠ none ∨ back ≠ [] := by
  have ends := (recordOf_encoded node front back small).addressEnd
  have length := node.length_encoded
  rw [Complete, ends, ← nameLength_pos_iff, ← List.length_pos_iff]
  simp only [List.length_append]
  omega

/-- Every allocation succeeds. -/
def Heap.Allocates (heap : Heap) : Prop := ∀ i, heap.node i ≠ none ∧ heap.name i = true

/-- The list ends with an element that has a name. -/
def LastNamed (nodes : List Node) : Prop := ∃ last ∈ nodes.getLast?, last.canonname ≠ none

theorem map_cons_eq_ok_iff {α : Type} {outcome : Outcome (List α)} {head : α} {list : List α} :
    (outcome >>= fun tail => pure (head :: tail)) = .ok (head :: list) ↔ outcome = .ok list := by
  cases outcome <;> simp

variable {heap : Heap} {first : ℕ} {owned : List Pointer}

theorem decodeNode_encoded (allocates : heap.Allocates)
    (short : (front ++ (node.encoded ++ back)).length < 2 ^ 31)
    (follows : node.canonname ≠ none ∨ back ≠ []) :
    decodeNode (front ++ (node.encoded ++ back)) (front ++ (node.encoded ++ back)).length
        (heap.node first) (heap.name first) owned front.length =
      .ok ⟨node.toAddrinfo, namePointer node.canonname, (front ++ node.encoded).length⟩ := by
  have length := node.length_encoded
  have small : nameLength node.toAddrinfo < 2 ^ 31 := by
    simp only [List.length_append] at short
    omega
  have complete := (complete_encoded_iff node front back small).2 follows
  have record := recordOf_encoded node front back small
  have ends := record.name
  rw [← record.addressEnd] at ends
  have bi : signed 32 (front.length + 24 + node.addr.length + nameLength node.toAddrinfo : ℕ) =
      (front ++ node.encoded).length := by
    simp only [List.length_append] at short
    rw [signed_of_lt (by omega) (by omega), List.length_append]
    omega
  rcases Option.ne_none_iff_exists'.1 (allocates first).1 with ⟨stale, isBlock⟩
  rw [isBlock, (allocates first).2, decodeNode_of_complete short complete,
    partsAt_of_complete short complete ends, record.info, record.addressEnd, record.aclen, bi]

theorem decodeNode_encoded_cut {α : Type} (allocates : heap.Allocates)
    (short : (front ++ (node.encoded ++ back)).length < 2 ^ 31)
    (sound : ∀ pointer ∈ owned, pointer ≠ .wild) (cut : ¬(node.canonname ≠ none ∨ back ≠ []))
    (next : Decoded → Outcome α) (value : α) :
    (decodeNode (front ++ (node.encoded ++ back)) (front ++ (node.encoded ++ back)).length
      (heap.node first) (heap.name first) owned front.length >>= next) ≠ .ok value := by
  have length := node.length_encoded
  have lengths : (front ++ (node.encoded ++ back)).length =
      front.length + (24 + node.addr.length + nameLength node.toAddrinfo + back.length) := by
    simp only [List.length_append, length]
  rw [← complete_encoded_iff node front back (by omega)] at cut
  rcases Option.ne_none_iff_exists'.1 (allocates first).1 with ⟨stale, isBlock⟩
  rw [isBlock, decodeNode_of_cut short cut (by rw [hlen]; omega) sound]
  split <;> simp

theorem encodedList_eq_nil_iff {nodes : List Node} : encodedList nodes = [] ↔ nodes = [] := by
  refine ⟨fun empty => ?_, fun empty => by rw [empty]; rfl⟩
  cases nodes with
  | nil => rfl
  | cons node nodes =>
      have length := congrArg List.length empty
      rw [length_encodedList_cons, node.length_encoded, List.length_nil] at length
      omega

theorem decodeNodes_encoded_iff (allocates : heap.Allocates) (nodes : List Node)
    {front : List UInt8} (short : (front ++ (encodedList nodes ++ back)).length < 2 ^ 31)
    (sound : ∀ pointer ∈ owned, pointer ≠ .wild) :
    decodeNodes (front ++ (encodedList nodes ++ back))
        (front ++ (encodedList nodes ++ back)).length heap nodes.length first owned front.length =
        .ok (nodes.map Node.toAddrinfo) ↔
      nodes = [] ∨ LastNamed nodes ∨ back ≠ [] := by
  induction nodes generalizing front first owned with
  | nil => exact iff_of_true rfl (.inl rfl)
  | cons node nodes ih =>
      have isBuf : front ++ (encodedList (node :: nodes) ++ back) =
          front ++ (node.encoded ++ (encodedList nodes ++ back)) := by
        rw [encodedList_cons, List.append_assoc]
      rw [isBuf] at short ⊢
      rw [List.length_cons, decodeNodes]
      by_cases follows : node.canonname ≠ none ∨ encodedList nodes ++ back ≠ []
      · have regroup : front ++ (node.encoded ++ (encodedList nodes ++ back)) =
            (front ++ node.encoded) ++ (encodedList nodes ++ back) := (List.append_assoc _ _ _).symm
        rw [decodeNode_encoded allocates short follows, Outcome.ok_bind, List.map_cons,
          map_cons_eq_ok_iff]
        rw [regroup] at short ⊢
        rw [ih short (sound_append sound (namePointer_ne_wild _))]
        rcases nodes with _ | ⟨next, nodes⟩
        · refine iff_of_true (.inl rfl) (.inr (follows.imp (fun named => ⟨node, rfl, named⟩) id))
        · simp only [LastNamed, List.getLast?_cons_cons, reduceCtorEq, false_or]
      · refine iff_of_false (decodeNode_encoded_cut allocates short sound follows _ _) ?_
        rw [not_or, not_not, not_not, List.append_eq_nil_iff, encodedList_eq_nil_iff] at follows
        rcases follows with ⟨nameless, rfl, rfl⟩
        rintro (empty | ⟨last, isLast, named⟩ | more)
        · cases empty
        · rw [← Option.some.inj isLast] at named
          exact named nameless
        · exact more rfl

/-- What has been encoded is decoded to the same list unless the records fill the buffer and the
last one has no name. -/
theorem decodeAddrlist_encoded_iff {nodes : List Node} {buf : List UInt8}
    {encoded : EncodedAddrlist} (small : (encodedList nodes).length < 2 ^ 31)
    (short : buf.length < 2 ^ 31) (allocates : heap.Allocates)
    (success : encodeAddrlist nodes buf buf.length = .ok encoded) :
    decodeAddrlist encoded.buf encoded.cnt buf.length heap = .ok (nodes.map Node.toAddrinfo) ↔
      LastNamed nodes ∨ (encodedList nodes).length < buf.length := by
  have nonempty : nodes ≠ [] := by
    rintro rfl
    simp [encodeAddrlist] at success
  rw [encodeAddrlist_eq nonempty small] at success
  split at success
  · cases success
  case isFalse fits =>
    rw [Outcome.ok.injEq] at success
    subst success
    have length : (encodedList nodes ++ buf.drop (encodedList nodes).length).length =
        buf.length := by
      rw [List.length_append, List.length_drop]
      omega
    have none : ∀ pointer ∈ ([] : List Pointer), pointer ≠ .wild := by simp
    have run := @decodeNodes_encoded_iff (buf.drop (encodedList nodes).length) heap 0 [] allocates
      nodes [] (by rw [List.nil_append, length]; exact short) none
    have more : buf.drop (encodedList nodes).length ≠ [] ↔
        (encodedList nodes).length < buf.length := by
      rw [← List.length_pos_iff, List.length_drop]
      omega
    rw [List.nil_append, length, or_iff_right nonempty, more] at run
    exact run

/-- Port 80 of 127.0.0.1, without a name. -/
def loopback : Node where
  flags := 0
  family := 2
  socktype := 1
  protocol := 6
  addr := [2, 0, 0, 80, 127, 0, 0, 1, 0, 0, 0, 0, 0, 0, 0, 0]
  canonname := none
  flagsInt := by decide
  familyInt := by decide
  socktypeInt := by decide
  protocolInt := by decide
  addrlenUnsigned := by decide

theorem length_encodedList_loopback : (encodedList [loopback]).length = 40 := by
  rw [length_encodedList_cons, loopback.length_encoded]
  rfl

theorem encodeAddrlist_loopback {size : ℕ} (fits : 40 ≤ size) :
    encodeAddrlist [loopback] (List.replicate size 0) size =
      .ok ⟨1, 40, encodedList [loopback] ++ List.replicate (size - 40) 0⟩ := by
  have encoded := encodeAddrlist_eq (List.cons_ne_nil loopback [])
    (length_encodedList_loopback ▸ by decide) (List.replicate size 0)
  rw [length_encodedList_loopback, List.length_replicate, if_neg (Nat.not_lt.2 fits),
    List.drop_replicate] at encoded
  exact encoded

theorem decodeAddrlist_loopback :
    decodeAddrlist (encodedList [loopback] ++ List.replicate 1 0) 1 41 clearedHeap =
      .ok [loopback.toAddrinfo] := by
  have allocates : clearedHeap.Allocates := fun _ => ⟨by simp [clearedHeap], rfl⟩
  have encoded := @encodeAddrlist_loopback 41 (by decide)
  exact (decodeAddrlist_encoded_iff (length_encodedList_loopback ▸ by decide) (by decide) allocates
    encoded).2 (.inr (length_encodedList_loopback ▸ by decide))

theorem decodeAddrlist_loopback_ne : ∃ encoded,
    encodeAddrlist [loopback] (List.replicate 40 0) 40 = .ok encoded ∧
      decodeAddrlist encoded.buf encoded.cnt 40 clearedHeap ≠ .ok [loopback.toAddrinfo] := by
  have allocates : clearedHeap.Allocates := fun _ => ⟨by simp [clearedHeap], rfl⟩
  refine ⟨_, encodeAddrlist_loopback le_rfl, fun decoded => ?_⟩
  have length := length_encodedList_loopback
  have run := @decodeNodes_encoded_iff [] clearedHeap 0 [] allocates [loopback] []
    (by rw [List.nil_append, List.append_nil, length]; decide) (by simp)
  rw [List.nil_append, List.append_nil, length] at run
  rw [Nat.sub_self, List.replicate_zero, List.append_nil, decodeAddrlist] at decoded
  rcases run.1 decoded with empty | ⟨last, isLast, named⟩ | more
  · cases empty
  · exact named (by rw [← Option.some.inj isLast]; rfl)
  · exact more rfl

end RoundTrip

/-! ## The value that the handler of `getaddrinfo` sees -/

section Value

variable {memory : Mem} {buf : Field} {heap : Heap} {allocations : ℕ}

theorem number_load (isReq : buf.region = .req) {index : ℕ} (inside : index + 4 ≤ buf.size) :
    Buffer.number 4 (load memory buf buf.size) index =
      (reqField (buf.off + index) 4).nat memory := by
  have bytes : ((load memory buf buf.size).drop index).take 4 =
      load memory (reqField (buf.off + index) 4) 4 := by
    apply List.ext_getElem
    · simp only [List.length_take, List.length_drop, length_load]
      omega
    · intro i _ less
      simp only [length_load] at less
      simp [load, Extent.at, reqField, isReq, Nat.add_assoc]
  rw [Buffer.number, bytes]
  rfl

theorem intAt_load (isReq : buf.region = .req) {index : ℕ} (inside : index + 4 ≤ buf.size) :
    intAt (load memory buf buf.size) index = (reqField (buf.off + index) 4).int memory := by
  rw [intAt, number_load isReq inside]
  rfl

/-- What `decode_addrlist` returns. -/
def returnValue : Outcome (List Addrinfo) → ℤ
  | .error code => code
  | _ => 0

theorem returnValue_map {outcome : Outcome (List Addrinfo)} (head : Addrinfo) :
    returnValue (outcome >>= fun tail => pure (head :: tail)) = returnValue outcome := by
  cases outcome <;> rfl

section Step

variable {start remaining : ℕ}

theorem decodeAddrlist_of_cut (isReq : buf.region = .req) {block : Option Stale}
    (safe : RecordSafe (load memory buf buf.size) block start)
    (allocated : allocations = 0 ↔ block = none)
    (stops : ¬(Complete (load memory buf buf.size) start ∧ block ≠ none)) :
    Rpc.decodeAddrlist memory buf (remaining + 1) allocations start =
      some (if block = none then -rpcEnomem else -rpcEoverlong) := by
  have header := safe.header
  rw [length_load, hlen] at header
  have addrlen : (reqField (buf.off + start + 16) 4).nat memory =
      Buffer.number 4 (load memory buf buf.size) (start + 16) := by
    rw [number_load isReq (by omega), Nat.add_assoc]
  rw [Rpc.decodeAddrlist]
  by_cases failed : block = none
  · rw [if_pos (allocated.2 failed), if_pos failed]
  have cut : ¬Complete (load memory buf buf.size) start := fun complete => stops ⟨complete, failed⟩
  have handled := safe.address failed cut
  rw [Complete, addressEnd] at cut
  rw [addressEnd] at handled
  rw [length_load] at handled cut
  rw [if_neg (mt allocated.1 failed), if_neg failed, addrlen]
  split
  · rfl
  split
  · rfl
  case isFalse room =>
    rw [if_pos (by omega)]

theorem decodeAddrlist_of_complete (isReq : buf.region = .req) (short : buf.size < 2 ^ 31)
    (complete : Complete (load memory buf buf.size) start) (allocated : allocations ≠ 0) :
    Rpc.decodeAddrlist memory buf (remaining + 1) allocations start =
      Rpc.decodeAddrlist memory buf remaining (allocations - 1)
        (addressEnd (load memory buf buf.size) start +
          aclenAt (load memory buf buf.size) start) := by
  rw [Complete, addressEnd, length_load] at complete
  have addrlen : (reqField (buf.off + start + 16) 4).nat memory =
      Buffer.number 4 (load memory buf buf.size) (start + 16) := by
    rw [number_load isReq (by omega), Nat.add_assoc]
  have aclen : (reqField (buf.off + start + 20) 4).int memory =
      intAt (load memory buf buf.size) (start + 20) := by
    rw [intAt_load isReq (by omega), Nat.add_assoc]
  rw [Rpc.decodeAddrlist]
  rw [if_neg allocated, addrlen, aclen, if_neg (by omega), if_neg (by omega), if_neg (by omega),
    if_neg (by omega)]
  rfl

end Step

theorem decodeNodes_value (isReq : buf.region = .req) (short : buf.size < 2 ^ 31)
    (budget : ∀ i, heap.node i ≠ none ↔ i < allocations) (remaining : ℕ) {first : ℕ}
    {owned : List Pointer} (bound : recordStart (load memory buf buf.size) first < 2 ^ 32)
    (sound : ∀ pointer ∈ owned, pointer ≠ .wild)
    (returns : (decodeNodes (load memory buf buf.size) buf.size heap remaining first owned
      (signed 32 (recordStart (load memory buf buf.size) first))).Returns) :
    Rpc.decodeAddrlist memory buf remaining (allocations - first)
        (recordStart (load memory buf buf.size) first) =
      some (returnValue (decodeNodes (load memory buf buf.size) buf.size heap remaining first owned
        (signed 32 (recordStart (load memory buf buf.size) first)))) := by
  have length := length_load memory buf buf.size
  induction remaining generalizing first owned with
  | zero => rfl
  | succ remaining ih =>
      have short' : (load memory buf buf.size).length < 2 ^ 31 := by rwa [length]
      have step := @decodeNode_cases (load memory buf buf.size) (heap.node first)
        (heap.name first) owned _ short' bound sound
      rw [length] at step
      have allocated : allocations - first = 0 ↔ heap.node first = none := by
        rw [← not_iff_not, ← ne_eq (heap.node first), budget]
        omega
      rw [decodeNodes] at returns ⊢
      rcases step with ⟨notSafe, equal⟩ | ⟨safe, stops, equal⟩ | ⟨safe, goesOn, equal⟩
      · rw [equal, Outcome.fault_bind] at returns
        exact absurd returns Outcome.not_returns_fault
      · rw [equal, Outcome.error_bind, returnValue]
        exact decodeAddrlist_of_cut isReq safe allocated stops
      · have behind :
            addressEnd (load memory buf buf.size) (recordStart (load memory buf buf.size) first) +
            aclenAt (load memory buf buf.size) (recordStart (load memory buf buf.size) first) =
            recordStart (load memory buf buf.size) (first + 1) := rfl
        rw [equal, Outcome.ok_bind, Outcome.returns_map_iff, behind] at returns
        rw [equal, Outcome.ok_bind, returnValue_map,
          decodeAddrlist_of_complete isReq short goesOn.1 (mt allocated.1 goesOn.2), Nat.sub_sub,
          behind]
        dsimp only at returns ⊢
        rw [ih (recordStart_lt short' goesOn.1) (sound_append sound (namePointer_ne_wild _))
          returns]

theorem decodeAddrlist_value (isReq : buf.region = .req) (short : buf.size < 2 ^ 31)
    (budget : ∀ i, heap.node i ≠ none ↔ i < allocations) {cnt : ℤ}
    (safe : DecodesSafely (load memory buf buf.size) cnt heap) :
    Rpc.decodeAddrlist memory buf cnt.toNat allocations 0 =
      some (returnValue (decodeAddrlist (load memory buf buf.size) cnt buf.size heap)) := by
  have none : ∀ pointer ∈ ([] : List Pointer), pointer ≠ .wild := by simp
  have start := signed_recordStart_zero (load memory buf buf.size)
  rw [DecodesSafely, decodeAddrlist, length_load, ← start] at safe
  have value := @decodeNodes_value memory buf heap allocations isReq short budget cnt.toNat 0 []
    (Nat.two_pow_pos 32) none safe
  rw [start] at value
  exact value

end Value

end Mica.Rpc.Helper
