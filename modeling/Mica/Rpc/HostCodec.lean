import Mica.Rpc.Addrlist

/-!
# The codec of host entries

`encode_hostent` and `decode_hostent` of `rpc_helper.c` on checked buffers. The
decoder builds a `struct hostent` and, behind it in the same block, the two
arrays of pointers and the strings they point to. The struct is a record here;
the memory behind it (`dst_buf`) is a buffer at an address, so that its pointers
are numbers that stand in the buffer.
-/

namespace Mica.Rpc.Helper

open MachineInt

/-- A host entry as it is in memory: `h_addrtype` is an `int`, and neither an address nor a string
is so long that its length overflows one. -/
structure Host extends Hostent where
  addrtypeInt : -2 ^ 31 ≤ addrtype ∧ addrtype < 2 ^ 31
  lengthPositive : 1 ≤ length
  lengthBound : length < 2 ^ 30
  stringBound : ∀ string ∈ name.toList ++ aliases, string.length < 2 ^ 30

/-! ## Encoding -/

@[ext]
structure Ihostent where
  hNameIdx : ℤ
  hAliasesIdx : ℤ
  aliaslen : ℤ
  addrlen : ℤ
  hAddrtype : ℤ
  hLength : ℤ
  hAddrListIdx : ℤ

def Ihostent.bytes (ih : Ihostent) : List UInt8 :=
  LittleEndian.intBytes 4 ih.hNameIdx ++ LittleEndian.intBytes 4 ih.hAliasesIdx ++
    LittleEndian.intBytes 2 ih.aliaslen ++ LittleEndian.intBytes 2 ih.addrlen ++
    LittleEndian.intBytes 4 ih.hAddrtype ++ LittleEndian.intBytes 4 ih.hLength ++
    LittleEndian.intBytes 4 ih.hAddrListIdx

/-- The buffer, the length of what has been encoded, and the number of items. -/
structure Encoding where
  buf : List UInt8
  tlen : ℤ
  count : ℤ

/-- The loops of `encode_hostent` over strings and addresses; the counters are of type `short`. -/
def encodeItems (buflen : ℤ) : List (List UInt8) → Encoding → Outcome Encoding
  | [], encoding => .ok encoding
  | item :: items, encoding =>
      let tlen := signed 32 (encoding.tlen + signed 32 item.length)
      if buflen ≤ tlen then .error (-rpcEoverlong)
      else do
        let buf ← Buffer.write encoding.buf encoding.tlen item
        encodeItems buflen items ⟨buf, tlen, signed 16 (encoding.count + 1)⟩

/-- `encode_hostent`: what it returns, and the buffer. -/
def encodeHostent (host : Host) (buf : List UInt8) (buflen : ℤ) : Outcome (ℤ × List UInt8) := do
  let name ← encodeItems buflen (host.name.toList.map terminated) ⟨buf, ihostentSize, 0⟩
  let aliases ← encodeItems buflen (host.aliases.map terminated) ⟨name.buf, name.tlen, 0⟩
  let addrs ← encodeItems buflen host.addrList ⟨aliases.buf, aliases.tlen, 0⟩
  let ih : Ihostent :=
    { hNameIdx := ihostentSize
      hAliasesIdx := name.tlen
      aliaslen := aliases.count
      addrlen := addrs.count
      hAddrtype := host.addrtype
      hLength := host.length
      hAddrListIdx := aliases.tlen }
  let buf ← Buffer.write addrs.buf 0 ih.bytes
  pure (addrs.tlen, buf)

/-! ## Decoding -/

/-- The `struct hostent` in the block that is allocated, and the memory behind it. Pointers are
addresses, 0 being `NULL`. -/
structure Block where
  hName : ℤ
  hAliases : ℤ
  hAddrtype : ℤ
  hLength : ℤ
  hAddrList : ℤ
  dst : List UInt8

/-- `sizeof(struct hostent)` -/
def hostentSize : ℕ := 32

def shortAt (buf : List UInt8) (index : ℕ) : ℤ := signed 16 (Buffer.number 2 buf index)

def readIhostent (bytes : List UInt8) : Ihostent where
  hNameIdx := intAt bytes 0
  hAliasesIdx := intAt bytes 4
  aliaslen := shortAt bytes 8
  addrlen := shortAt bytes 10
  hAddrtype := intAt bytes 12
  hLength := intAt bytes 16
  hAddrListIdx := intAt bytes 20

/-- The bytes of a pointer. -/
def pointerBytes (pointer : ℤ) : List UInt8 := LittleEndian.intBytes 8 pointer

/-- The loop over the aliases; the `i`-th pointer is stored at the index `slot`. -/
def decodeAliases (base : ℤ) : ℕ → List UInt8 → ℤ → ℤ → Outcome (List UInt8 × ℤ)
  | 0, dst, _, dstIdx => .ok (dst, dstIdx)
  | remaining + 1, dst, slot, dstIdx => do
      let dst ← Buffer.write dst slot (pointerBytes (base + dstIdx))
      if unsigned 64 (base + dstIdx) = 0 then .error (-rpcEcorrupted)
      else do
        let string ← Buffer.readString dst dstIdx
        decodeAliases base remaining dst (slot + 8)
          (signed 32 (dstIdx + signed 32 (string.length + 1)))

/-- The loop over the addresses. -/
def decodeAddrs (base slen : ℤ) : ℕ → List UInt8 → ℤ → ℤ → Outcome (List UInt8)
  | 0, dst, _, _ => .ok dst
  | remaining + 1, dst, slot, dstIdx => do
      let dst ← Buffer.write dst slot (pointerBytes (base + dstIdx))
      decodeAddrs base slen remaining dst (slot + 8) (signed 32 (dstIdx + slen))

/-- The part of `decode_hostent` behind `memcpy`: the strings start at the index `dstIdx`. -/
def buildHostent (ih : Ihostent) (base : ℤ) (dst : List UInt8) (dstIdx : ℤ) : Outcome Block := do
  let nameless := ih.hNameIdx = ih.hAliasesIdx
  let hName := if nameless then 0 else base + dstIdx
  let dstIdx :=
    if nameless then dstIdx else signed 32 (dstIdx + signed 32 (ih.hAliasesIdx - ih.hNameIdx))
  let (dst, dstIdx) ← decodeAliases base ih.aliaslen.toNat dst 0 dstIdx
  let dst ← Buffer.write dst (8 * max ih.aliaslen 0) (pointerBytes 0)
  let addr := 8 * (ih.aliaslen + 1)
  let dst ← decodeAddrs base ih.hLength ih.addrlen.toNat dst addr dstIdx
  let dst ← Buffer.write dst (addr + 8 * max ih.addrlen 0) (pointerBytes 0)
  pure
    { hName := hName
      hAliases := base
      hAddrtype := ih.hAddrtype
      hLength := ih.hLength
      hAddrList := base + addr
      dst := dst }

/-- `decode_hostent`, where `malloc` returns a block whose memory behind the struct starts at `base`
and holds `fresh`. -/
def decodeHostent (src : List UInt8) (buflen : ℤ) (base : Option ℤ) (fresh : ℕ → UInt8) :
    Outcome Block :=
  if unsigned 64 buflen < ihostentSize then .error (-rpcEinval)
  else do
    let ih := readIhostent (← Buffer.read src 0 ihostentSize)
    if ih.hAliasesIdx < ih.hNameIdx ∨ ih.hAddrListIdx < ih.hAliasesIdx then .error (-rpcEcorrupted)
    else do
      let slots := unsigned 64 (8 * (ih.aliaslen + ih.addrlen + 2))
      let tlen := signed 32 (buflen + slots - ihostentSize + hostentSize)
      let dstIdx := signed 32 slots
      match base with
      | none => .error (-rpcEnomem)
      | some base => do
          let dst := (List.range (tlen - hostentSize).toNat).map fresh
          let data ← Buffer.read src ihostentSize (unsigned 64 (buflen - ihostentSize)).toNat
          let dst ← Buffer.write dst dstIdx data
          buildHostent ih base dst dstIdx

/-! ## What the encoder writes -/

section Encoder

/-- The items are appended to what has been written before, or one of them finds no room; the
handlers' model of the encoder, which has only the bytes behind the header, does the same. -/
theorem encodeItems_cases (items : List (List UInt8)) {front old body : List UInt8}
    {buflen count : ℕ} (size : (front ++ old).length = buflen) (short : buflen < 2 ^ 15)
    (isFront : front.length = ihostentSize + body.length) (less : count ≤ front.length)
    (sizes : ∀ item ∈ items, 1 ≤ item.length ∧ item.length ≤ 2 ^ 30) :
    encodeItems buflen items ⟨front ++ old, front.length, count⟩ = .error (-rpcEoverlong) ∧
        (appendItems buflen items body).2 = false ∨
      (front ++ items.flatten ++ old.drop items.flatten.length).length = buflen ∧
        encodeItems buflen items ⟨front ++ old, front.length, count⟩ =
          .ok ⟨front ++ items.flatten ++ old.drop items.flatten.length,
            (front ++ items.flatten).length, (count + items.length : ℕ)⟩ ∧
        appendItems buflen items body = (body ++ items.flatten, true) := by
  induction items generalizing front old body count with
  | nil => exact .inr ⟨by simpa using size, by simp [encodeItems], by simp [appendItems]⟩
  | cons item items ih =>
      rcases sizes item List.mem_cons_self with ⟨positive, bound⟩
      have rest : ∀ other ∈ items, 1 ≤ other.length ∧ other.length ≤ 2 ^ 30 := by
        intro other member
        exact sizes other (List.mem_cons_of_mem _ member)
      rw [List.length_append] at size
      have itemLength : signed 32 item.length = item.length := signed_of_lt (by omega) (by omega)
      have tlen : signed 32 (front.length + item.length) = (front.length + item.length : ℕ) :=
        signed_of_lt (by omega) (by omega)
      simp only [encodeItems, itemLength, tlen, appendItems, Nat.cast_le, ← isFront]
      clear itemLength tlen
      by_cases full : buflen ≤ front.length + item.length
      · simp only [full, if_true, true_and, true_or]
      have size' : (front ++ item ++ old.drop item.length).length = buflen := by
        simp only [List.length_append, List.length_drop]
        omega
      have isFront' : (front ++ item).length = ihostentSize + (body ++ item).length := by
        simp only [List.length_append]
        omega
      have less' : count + 1 ≤ (front ++ item).length := by
        rw [List.length_append]
        omega
      have room : item.length ≤ old.length := by omega
      have regroup : front ++ item ++ items.flatten ++
          (old.drop item.length).drop items.flatten.length =
          front ++ (item :: items).flatten ++ old.drop (item :: items).flatten.length := by
        simp only [List.flatten_cons, List.append_assoc, List.drop_drop, List.length_append]
      have counted : signed 16 ((count : ℤ) + 1) = (count + 1 : ℕ) :=
        signed_of_lt (by omega) (by omega)
      simp only [full, if_false, Buffer.write_append rfl room, Outcome.ok_bind, counted]
      rw [← List.length_append]
      rcases ih size' isFront' less' rest with failed | ⟨fits, done, appended⟩
      · exact .inl failed
      · rw [regroup] at fits done
        refine .inr ⟨fits, ?_, ?_⟩
        · rw [done]
          simp only [List.flatten_cons, List.append_assoc, List.length_append, List.length_cons,
            Nat.add_assoc, Nat.add_comm 1]
        · rw [appended, List.flatten_cons, List.append_assoc]

theorem length_terminated (string : CString) : (terminated string).length = string.length + 1 := by
  simp [terminated, CString.length]

theorem length_le_flatten {items : List (List UInt8)} (positive : ∀ item ∈ items, 1 ≤ item.length) :
    items.length ≤ items.flatten.length := by
  induction items with
  | nil => exact le_rfl
  | cons item items ih =>
      have first := positive item List.mem_cons_self
      have rest := ih fun other member => positive other (List.mem_cons_of_mem _ member)
      rw [List.length_cons, List.flatten_cons, List.length_append]
      omega

theorem terminated_size {strings : List CString}
    (bound : ∀ string ∈ strings, string.length < 2 ^ 30) :
    ∀ item ∈ strings.map terminated, 1 ≤ item.length ∧ item.length ≤ 2 ^ 30 := by
  intro item member
  rcases List.mem_map.1 member with ⟨string, isString, rfl⟩
  have less := bound string isString
  rw [CString.length] at less
  simp only [terminated, List.length_append, List.length_singleton]
  omega

namespace Host

variable (host : Host)

def nameBytes : List UInt8 := (host.name.toList.map terminated).flatten

def aliasBytes : List UInt8 := (host.aliases.map terminated).flatten

/-- The bytes behind the header. -/
def body : List UInt8 := host.nameBytes ++ host.aliasBytes ++ host.addrList.flatten

/-- The header that describes them. -/
def ihostent : Ihostent where
  hNameIdx := ihostentSize
  hAliasesIdx := (ihostentSize + host.nameBytes.length : ℕ)
  aliaslen := host.aliases.length
  addrlen := host.addrList.length
  hAddrtype := host.addrtype
  hLength := host.length
  hAddrListIdx := (ihostentSize + (host.nameBytes ++ host.aliasBytes).length : ℕ)

theorem aliases_le : host.aliases.length ≤ host.aliasBytes.length := by
  have bound := @length_le_flatten (host.aliases.map terminated) (by
    intro item member
    rcases List.mem_map.1 member with ⟨string, -, rfl⟩
    rw [length_terminated]
    omega)
  rwa [List.length_map] at bound

theorem addrs_le : host.addrList.length ≤ host.addrList.flatten.length :=
  length_le_flatten fun addr member => by
    rw [host.addrLength addr member]
    exact host.lengthPositive

theorem length_body : host.body.length =
    host.nameBytes.length + host.aliasBytes.length + host.addrList.flatten.length := by
  simp only [body, List.length_append]

theorem length_bytes (ih : Ihostent) : ih.bytes.length = ihostentSize := by
  simp [Ihostent.bytes, ihostentSize]

theorem bytes_ihostent (short : ihostentSize + host.body.length < 2 ^ 15) :
    host.ihostent.bytes = LittleEndian.bytes 4 ihostentSize ++
      LittleEndian.bytes 4 (ihostentSize + host.nameBytes.length) ++
      LittleEndian.bytes 2 host.aliases.length ++ LittleEndian.bytes 2 host.addrList.length ++
      LittleEndian.intBytes 4 host.addrtype ++ LittleEndian.bytes 4 host.length ++
      LittleEndian.bytes 4 (ihostentSize + (host.nameBytes ++ host.aliasBytes).length) := by
  have aliases := host.aliases_le
  have addrs := host.addrs_le
  have length := host.length_body
  have lengthBound := host.lengthBound
  simp only [Ihostent.bytes, ihostent, List.length_append]
  rw [intBytes_natCast (by decide), intBytes_natCast (by omega), intBytes_natCast (by omega),
    intBytes_natCast (by omega), intBytes_natCast (by omega), intBytes_natCast (by omega)]

/-- The encoder either finds no room, or writes the header and the bytes that it describes. -/
theorem encodeHostent_cases {buf : List UInt8} (header : ihostentSize ≤ buf.length)
    (short : buf.length < 2 ^ 15) :
    encodeHostent host buf buf.length = .error (-rpcEoverlong) ∧
        (Rpc.encodeHostent host.toHostent buf.length).ret = -rpcEoverlong ∨
      ihostentSize + host.body.length ≤ buf.length ∧
        encodeHostent host buf buf.length = .ok ((ihostentSize + host.body.length : ℕ),
          host.ihostent.bytes ++ host.body ++ buf.drop (ihostentSize + host.body.length)) ∧
        Rpc.encodeHostent host.toHostent buf.length =
          ⟨(ihostentSize + host.body.length : ℕ), host.body, some host.ihostent.bytes⟩ := by
  have nameBound : ∀ string ∈ host.name.toList, string.length < 2 ^ 30 := by
    intro string member
    exact host.stringBound string (List.mem_append_left _ member)
  have aliasBound : ∀ string ∈ host.aliases, string.length < 2 ^ 30 := by
    intro string member
    exact host.stringBound string (List.mem_append_right _ member)
  have addrBound : ∀ addr ∈ host.addrList, 1 ≤ addr.length ∧ addr.length ≤ 2 ^ 30 := by
    intro addr member
    rw [host.addrLength addr member]
    exact ⟨host.lengthPositive, host.lengthBound.le⟩
  have frontLength : (buf.take ihostentSize).length = ihostentSize := by
    rw [List.length_take]
    omega
  have whole : buf.take ihostentSize ++ buf.drop ihostentSize = buf := List.take_append_drop _ _
  have nameLength : (buf.take ihostentSize ++ host.nameBytes).length =
      ihostentSize + host.nameBytes.length := by
    rw [List.length_append, frontLength]
  have aliasLength : (buf.take ihostentSize ++ host.nameBytes ++ host.aliasBytes).length =
      ihostentSize + (host.nameBytes ++ host.aliasBytes).length := by
    rw [List.append_assoc, List.length_append, frontLength]
  have names := @encodeItems_cases (host.name.toList.map terminated) _ _ [] _ 0
    (congrArg List.length whole) short frontLength (Nat.zero_le _) (terminated_size nameBound)
  rw [whole, frontLength, Nat.cast_zero, ← nameBytes, List.nil_append] at names
  rw [encodeHostent, Rpc.encodeHostent]
  rcases names with ⟨failed, stopped⟩ | ⟨size, done, appended⟩
  · left
    rw [failed, stopped]
    exact ⟨rfl, rfl⟩
  rw [done, appended, Outcome.ok_bind]
  have aliases := @encodeItems_cases (host.aliases.map terminated) _ _ host.nameBytes _ 0 size short
    nameLength (Nat.zero_le _) (terminated_size aliasBound)
  rw [Nat.cast_zero, ← aliasBytes] at aliases
  rcases aliases with ⟨failed, stopped⟩ | ⟨size, done, appended⟩
  · left
    simp only [failed, stopped]
    exact ⟨rfl, rfl⟩
  rw [done, Outcome.ok_bind]
  have addrs := @encodeItems_cases host.addrList _ _ (host.nameBytes ++ host.aliasBytes) _ 0 size
    short aliasLength (Nat.zero_le _) addrBound
  rw [Nat.cast_zero] at addrs
  rcases addrs with ⟨failed, stopped⟩ | ⟨size, done, appended'⟩
  · left
    simp only [appended, failed, stopped]
    exact ⟨rfl, rfl⟩
  rw [done, Outcome.ok_bind]
  right
  have total : (buf.take ihostentSize ++ host.nameBytes ++ host.aliasBytes ++
      host.addrList.flatten).length = ihostentSize + host.body.length := by
    simp only [body, List.length_append, frontLength, Nat.add_assoc]
  have isBody (back : List UInt8) : host.nameBytes ++ (host.aliasBytes ++
      (host.addrList.flatten ++ back)) = host.body ++ back := by
    simp only [body, List.append_assoc]
  have dropped : ihostentSize + host.nameBytes.length + host.aliasBytes.length +
      host.addrList.flatten.length = ihostentSize + host.body.length := by
    simp only [body, List.length_append, Nat.add_assoc]
  rw [List.length_append, total] at size
  refine ⟨by omega, ?_, ?_⟩
  · dsimp only
    rw [nameLength, aliasLength, total]
    simp only [List.append_assoc, List.drop_drop, isBody, dropped, Nat.zero_add, List.length_map]
    rw [Buffer.write_zero (frontLength.trans (length_bytes _).symm), Outcome.ok_bind]
    rfl
  · rw [host.bytes_ihostent (by omega)]
    simp only [appended, appended']
    rfl

end Host

end Encoder

/-! ## What the decoder builds -/

section Decoder

theorem shortAt_append_right {width : ℕ} {front : List UInt8} (index : ℕ)
    (isWidth : front.length = width) (back : List UInt8) :
    shortAt (front ++ back) (width + index) = shortAt back index := by
  rw [shortAt, Buffer.number_append_right 2 index isWidth, shortAt]

theorem shortAt_append_left {number : ℤ} (range : -2 ^ 15 ≤ number ∧ number < 2 ^ 15)
    (back : List UInt8) : shortAt (LittleEndian.intBytes 2 number ++ back) 0 = number := by
  have pow : (256 : ℤ) ^ 2 = 2 ^ 16 := by decide
  rw [shortAt, Buffer.number_intBytes_append, pow, signed_emod]
  exact signed_of_lt range.1 range.2

structure Ihostent.InRange (ih : Ihostent) : Prop where
  hNameIdx : -2 ^ 31 ≤ ih.hNameIdx ∧ ih.hNameIdx < 2 ^ 31
  hAliasesIdx : -2 ^ 31 ≤ ih.hAliasesIdx ∧ ih.hAliasesIdx < 2 ^ 31
  aliaslen : -2 ^ 15 ≤ ih.aliaslen ∧ ih.aliaslen < 2 ^ 15
  addrlen : -2 ^ 15 ≤ ih.addrlen ∧ ih.addrlen < 2 ^ 15
  hAddrtype : -2 ^ 31 ≤ ih.hAddrtype ∧ ih.hAddrtype < 2 ^ 31
  hLength : -2 ^ 31 ≤ ih.hLength ∧ ih.hLength < 2 ^ 31
  hAddrListIdx : -2 ^ 31 ≤ ih.hAddrListIdx ∧ ih.hAddrListIdx < 2 ^ 31

theorem readIhostent_bytes {ih : Ihostent} (range : ih.InRange) : readIhostent ih.bytes = ih := by
  have width (count : ℕ) (number : ℤ) := LittleEndian.length_intBytes count number
  have last := intAt_append_left range.hAddrListIdx []
  rw [List.append_nil] at last
  have skip (index : ℕ) (number : ℤ) := intAt_append_right index (width 4 number)
  have skipShort (index : ℕ) (number : ℤ) := intAt_append_right index (width 2 number)
  have skip' (index : ℕ) (number : ℤ) := shortAt_append_right index (width 4 number)
  have skipShort' (index : ℕ) (number : ℤ) := shortAt_append_right index (width 2 number)
  simp only [readIhostent, Ihostent.bytes, List.append_assoc]
  apply Ihostent.ext <;> dsimp only
  · exact intAt_append_left range.hNameIdx _
  · exact (skip 0 _ _).trans (intAt_append_left range.hAliasesIdx _)
  · exact (skip' 4 _ _).trans ((skip' 0 _ _).trans (shortAt_append_left range.aliaslen _))
  · exact (skip' 6 _ _).trans ((skip' 2 _ _).trans ((skipShort' 0 _ _).trans
      (shortAt_append_left range.addrlen _)))
  · exact (skip 8 _ _).trans ((skip 4 _ _).trans ((skipShort 2 _ _).trans ((skipShort 0 _ _).trans
      (intAt_append_left range.hAddrtype _))))
  · exact (skip 12 _ _).trans ((skip 8 _ _).trans ((skipShort 6 _ _).trans ((skipShort 4 _ _).trans
      ((skip 0 _ _).trans (intAt_append_left range.hLength _)))))
  · exact (skip 16 _ _).trans ((skip 12 _ _).trans ((skipShort 10 _ _).trans
      ((skipShort 8 _ _).trans ((skip 4 _ _).trans ((skip 0 _ _).trans last)))))

variable {base : ℤ} {written rest front back : List UInt8}

theorem length_pointerBytes (pointer : ℤ) : (pointerBytes pointer).length = 8 :=
  LittleEndian.length_intBytes 8 pointer

theorem write_slot {slot : ℤ} {pointer : ℤ} (isSlot : slot = written.length)
    (room : 8 ≤ rest.length) :
    Buffer.write (written ++ (rest ++ back)) slot (pointerBytes pointer) =
      .ok (written ++ pointerBytes pointer ++ (rest.drop 8 ++ back)) := by
  have length := length_pointerBytes pointer
  rw [Buffer.write_append isSlot (by rw [List.length_append]; omega), length,
    List.drop_append_of_le_length room]

theorem decodeAliases_append (aliases : List CString) {written rest front back : List UInt8}
    {slot dstIdx : ℤ} (isSlot : slot = written.length) (room : 8 * aliases.length ≤ rest.length)
    (isIdx : dstIdx = (written ++ rest ++ front).length) (positive : 0 < base)
    (small : written.length + rest.length + front.length +
      (aliases.map terminated).flatten.length < 2 ^ 31)
    (below : base + (written.length + rest.length + front.length +
      (aliases.map terminated).flatten.length) ≤ 2 ^ 64) :
    decodeAliases base aliases.length
        (written ++ (rest ++ (front ++ ((aliases.map terminated).flatten ++ back)))) slot dstIdx =
      .ok (written ++
          (Buffer.positions (base + dstIdx) (aliases.map terminated)).flatMap pointerBytes ++
          (rest.drop (8 * aliases.length) ++ (front ++ ((aliases.map terminated).flatten ++ back))),
        dstIdx + (aliases.map terminated).flatten.length) := by
  induction aliases generalizing written rest front slot dstIdx with
  | nil => simp [decodeAliases, Buffer.positions]
  | cons string aliases ih =>
      rw [List.length_cons] at room
      simp only [List.map_cons, List.flatten_cons, List.length_append, length_terminated]
        at small below isIdx
      have length : signed 32 ((string.length : ℤ) + 1) = string.length + 1 :=
        signed_of_lt (by omega) (by omega)
      have behind : signed 32 (dstIdx + (string.length + 1)) =
          dstIdx + (terminated string).length := by
        rw [length_terminated]
        push_cast
        exact signed_of_lt (by omega) (by omega)
      have notNull : unsigned 64 (base + dstIdx) ≠ 0 := by
        rw [unsigned_of_lt (by omega) (by omega)]
        omega
      have pointer := length_pointerBytes (base + dstIdx)
      have found : Buffer.readString (written ++ pointerBytes (base + dstIdx) ++ (rest.drop 8 ++
          (front ++ (terminated string ++ ((aliases.map terminated).flatten ++ back))))) dstIdx =
          .ok string := by
        have regroup : written ++ pointerBytes (base + dstIdx) ++ (rest.drop 8 ++
            (front ++ (terminated string ++ ((aliases.map terminated).flatten ++ back)))) =
            (written ++ pointerBytes (base + dstIdx) ++ rest.drop 8 ++ front) ++
              (string.bytes ++ 0 :: ((aliases.map terminated).flatten ++ back)) := by
          simp [terminated]
        rw [regroup]
        apply Buffer.readString_append
        simp only [List.length_append, List.length_drop, pointer]
        omega
      have regroup (others : List UInt8) : front ++ (terminated string ++ others) =
          (front ++ terminated string) ++ others := (List.append_assoc _ _ _).symm
      have slot' : slot + 8 = (written ++ pointerBytes (base + dstIdx)).length := by
        rw [List.length_append, pointer, isSlot]
        rfl
      have dropped : (rest.drop 8).length = rest.length - 8 := List.length_drop
      rw [List.length_cons, decodeAliases, List.map_cons, List.flatten_cons, List.append_assoc,
        write_slot isSlot (by omega), Outcome.ok_bind, if_neg notNull, found, Outcome.ok_bind,
        length, behind, regroup, ih slot' (by omega)
          (by simp only [List.length_append, pointer, length_terminated]; omega)
          (by simp only [List.length_append, pointer, length_terminated]; omega)
          (by simp only [List.length_append, pointer, length_terminated]; omega)]
      simp only [Buffer.positions, List.flatMap_cons, List.append_assoc, List.drop_drop,
        List.length_append, Int.add_assoc, Nat.cast_add, Nat.mul_add,
        Nat.add_comm (8 * aliases.length)]

theorem decodeAddrs_append (addrs : List (List UInt8)) {slen : ℕ}
    (lengths : ∀ addr ∈ addrs, addr.length = slen) {written rest : List UInt8} {slot dstIdx : ℤ}
    (isSlot : slot = written.length) (room : 8 * addrs.length ≤ rest.length) (nonneg : 0 ≤ dstIdx)
    (small : dstIdx + addrs.flatten.length < 2 ^ 31) :
    decodeAddrs base slen addrs.length (written ++ (rest ++ back)) slot dstIdx =
      .ok (written ++ (Buffer.positions (base + dstIdx) addrs).flatMap pointerBytes ++
        (rest.drop (8 * addrs.length) ++ back)) := by
  induction addrs generalizing written rest slot dstIdx with
  | nil => simp [decodeAddrs, Buffer.positions]
  | cons addr addrs ih =>
      rw [List.length_cons] at room
      rw [List.flatten_cons, List.length_append] at small
      have length : addr.length = slen := lengths addr List.mem_cons_self
      have behind : signed 32 (dstIdx + slen) = dstIdx + addr.length := by
        rw [length]
        exact signed_of_lt (by omega) (by omega)
      have slot' : slot + 8 = (written ++ pointerBytes (base + dstIdx)).length := by
        rw [List.length_append, length_pointerBytes, isSlot]
        rfl
      have others : ∀ other ∈ addrs, other.length = slen := by
        intro other member
        exact lengths other (List.mem_cons_of_mem _ member)
      have dropped : (rest.drop 8).length = rest.length - 8 := List.length_drop
      rw [List.length_cons, decodeAddrs, write_slot isSlot (by omega), Outcome.ok_bind, behind,
        ih others slot' (by omega) (by omega) (by omega)]
      simp only [Buffer.positions, List.flatMap_cons, List.append_assoc, List.drop_drop,
        Int.add_assoc, Nat.mul_add, Nat.add_comm (8 * addrs.length)]

namespace Host

variable (host : Host)

/-- The bytes of the two arrays of pointers. -/
def slots : ℕ := 8 * (host.aliases.length + host.addrList.length + 2)

def aliasPointers (base : ℤ) : List ℤ :=
  Buffer.positions (base + (host.slots + host.nameBytes.length : ℕ)) (host.aliases.map terminated)

def addrPointers (base : ℤ) : List ℤ :=
  Buffer.positions (base + (host.slots + host.nameBytes.length + host.aliasBytes.length : ℕ))
    host.addrList

/-- The memory behind the struct: the two arrays and what they point to. -/
def image (base : ℤ) : List UInt8 :=
  (host.aliasPointers base ++ [0]).flatMap pointerBytes ++
    (host.addrPointers base ++ [0]).flatMap pointerBytes ++ host.body

/-- The block that the decoder builds. -/
def block (base : ℤ) : Block where
  hName := if host.name = none then 0 else base + host.slots
  hAliases := base
  hAddrtype := host.addrtype
  hLength := host.length
  hAddrList := base + 8 * (host.aliases.length + 1)
  dst := host.image base

theorem nameBytes_eq_nil_iff : host.nameBytes.length = 0 ↔ host.name = none := by
  rw [nameBytes]
  cases host.name <;> simp [length_terminated]

theorem ihostent_inRange (short : ihostentSize + host.body.length < 2 ^ 15) :
    host.ihostent.InRange := by
  have aliases := host.aliases_le
  have addrs := host.addrs_le
  have length := host.length_body
  have lengthBound := host.lengthBound
  rw [ihostentSize] at short
  constructor
  · simp [ihostent, ihostentSize]
  · simp only [ihostent, ihostentSize]
    omega
  · simp only [ihostent]
    omega
  · simp only [ihostent]
    omega
  · exact host.addrtypeInt
  · simp only [ihostent]
    omega
  · simp only [ihostent, ihostentSize, List.length_append]
    omega

theorem length_flatMap_pointerBytes (pointers : List ℤ) :
    (pointers.flatMap pointerBytes).length = 8 * pointers.length := by
  induction pointers with
  | nil => rfl
  | cons pointer pointers ih =>
      rw [List.flatMap_cons, List.length_append, ih, length_pointerBytes, List.length_cons]
      omega

theorem nameless_iff : host.ihostent.hNameIdx = host.ihostent.hAliasesIdx ↔ host.name = none := by
  rw [← nameBytes_eq_nil_iff]
  simp only [ihostent]
  omega

theorem behind_name (short : ihostentSize + host.body.length < 2 ^ 15) :
    (if host.name = none then (host.slots : ℤ)
      else signed 32
        (host.slots + signed 32 (host.ihostent.hAliasesIdx - host.ihostent.hNameIdx))) =
      (host.slots + host.nameBytes.length : ℕ) := by
  have aliases := host.aliases_le
  have addrs := host.addrs_le
  have length := host.length_body
  have bound : host.slots < 2 ^ 20 := by
    rw [slots]
    omega
  have difference : host.ihostent.hAliasesIdx - host.ihostent.hNameIdx = host.nameBytes.length := by
    simp only [ihostent]
    omega
  rw [difference]
  split
  case isTrue nameless => rw [(nameBytes_eq_nil_iff host).2 nameless, Nat.add_zero]
  case isFalse named =>
    have sum : signed 32 (host.slots + host.nameBytes.length) =
        (host.slots + host.nameBytes.length : ℕ) := signed_of_lt (by omega) (by omega)
    have size : signed 32 host.nameBytes.length = host.nameBytes.length :=
      signed_of_lt (by clear sum; omega) (by clear sum; omega)
    rw [size, sum]

theorem body_eq : host.body = host.nameBytes ++ (host.aliasBytes ++ host.addrList.flatten) :=
  List.append_assoc _ _ _

theorem buildHostent_eq (short : ihostentSize + host.body.length < 2 ^ 15) {area : List UInt8}
    (isArea : area.length = host.slots) {base : ℤ} (positive : 0 < base)
    (below : base + (host.slots + host.body.length) ≤ 2 ^ 64) :
    buildHostent host.ihostent base (area ++ host.body) host.slots = .ok (host.block base) := by
  have aliasesLe := host.aliases_le
  have addrsLe := host.addrs_le
  have length := host.length_body
  have isSlots : host.slots = 8 * (host.aliases.length + host.addrList.length + 2) := rfl
  have aliases : decodeAliases base host.aliases.length (area ++ host.body) 0
      (host.slots + host.nameBytes.length : ℕ) =
      .ok ((host.aliasPointers base).flatMap pointerBytes ++
          (area.drop (8 * host.aliases.length) ++ host.body),
        (host.slots + host.nameBytes.length + host.aliasBytes.length : ℕ)) := by
    have done := @decodeAliases_append base host.aliases [] area host.nameBytes
      host.addrList.flatten 0 (host.slots + host.nameBytes.length : ℕ) rfl (by omega)
      (by simp [isArea]) positive
    rw [← aliasBytes, ← body_eq] at done
    have result := done (by rw [List.length_nil]; omega) (by rw [List.length_nil]; omega)
    rw [List.nil_append, List.nil_append] at result
    exact_mod_cast result
  have aliasSlots : ((host.aliasPointers base).flatMap pointerBytes).length =
      8 * host.aliases.length := by
    rw [length_flatMap_pointerBytes, aliasPointers, Buffer.length_positions, List.length_map]
  have addrSlots : ((host.addrPointers base).flatMap pointerBytes).length =
      8 * host.addrList.length := by
    rw [length_flatMap_pointerBytes, addrPointers, Buffer.length_positions]
  have aliasEnd : Buffer.write ((host.aliasPointers base).flatMap pointerBytes ++
      (area.drop (8 * host.aliases.length) ++ host.body)) (8 * max host.ihostent.aliaslen 0)
      (pointerBytes 0) =
      .ok ((host.aliasPointers base).flatMap pointerBytes ++ pointerBytes 0 ++
        (area.drop (8 * host.aliases.length + 8) ++ host.body)) := by
    rw [write_slot (by rw [aliasSlots]; simp [ihostent]) (by rw [List.length_drop]; omega),
      List.drop_drop]
  have addrs : decodeAddrs base host.ihostent.hLength host.addrList.length
      ((host.aliasPointers base).flatMap pointerBytes ++ pointerBytes 0 ++
        (area.drop (8 * host.aliases.length + 8) ++ host.body)) (8 * (host.ihostent.aliaslen + 1))
      (host.slots + host.nameBytes.length + host.aliasBytes.length : ℕ) =
      .ok ((host.aliasPointers base).flatMap pointerBytes ++ pointerBytes 0 ++
        (host.addrPointers base).flatMap pointerBytes ++
        (area.drop (8 * host.aliases.length + 8 + 8 * host.addrList.length) ++ host.body)) := by
    refine (decodeAddrs_append host.addrList host.addrLength ?_ ?_ ?_ ?_).trans ?_
    · simp only [List.length_append, aliasSlots, length_pointerBytes, ihostent]
      omega
    · rw [List.length_drop]
      omega
    · omega
    · omega
    · rw [List.drop_drop]
      rfl
  have addrEnd : Buffer.write ((host.aliasPointers base).flatMap pointerBytes ++ pointerBytes 0 ++
        (host.addrPointers base).flatMap pointerBytes ++
        (area.drop (8 * host.aliases.length + 8 + 8 * host.addrList.length) ++ host.body))
      (8 * (host.ihostent.aliaslen + 1) + 8 * max host.ihostent.addrlen 0) (pointerBytes 0) =
      .ok (host.image base) := by
    have isSlot : 8 * (host.ihostent.aliaslen + 1) + 8 * max host.ihostent.addrlen 0 =
        ((host.aliasPointers base).flatMap pointerBytes ++ pointerBytes 0 ++
          (host.addrPointers base).flatMap pointerBytes).length := by
      simp only [List.length_append, aliasSlots, addrSlots, length_pointerBytes, ihostent]
      omega
    rw [write_slot isSlot (by rw [List.length_drop]; omega), List.drop_drop,
      List.drop_eq_nil_of_le (by omega)]
    simp [image, List.append_assoc]
  have aliasCount : host.ihostent.aliaslen.toNat = host.aliases.length := Int.toNat_natCast _
  have addrCount : host.ihostent.addrlen.toNat = host.addrList.length := Int.toNat_natCast _
  simp only [buildHostent, host.behind_name short, host.nameless_iff, aliasCount, addrCount,
    aliases, Outcome.ok_bind, aliasEnd, addrs, addrEnd]
  rfl

theorem slots_lt (short : ihostentSize + host.body.length < 2 ^ 15) : host.slots < 2 ^ 20 := by
  have aliasesLe := host.aliases_le
  have addrsLe := host.addrs_le
  have length := host.length_body
  rw [slots]
  omega

theorem unsigned_slots (short : ihostentSize + host.body.length < 2 ^ 15) :
    unsigned 64 (8 * (host.ihostent.aliaslen + host.ihostent.addrlen + 2)) = host.slots := by
  have bound := host.slots_lt short
  have isSlots : 8 * (host.ihostent.aliaslen + host.ihostent.addrlen + 2) = host.slots := by
    simp [ihostent, slots]
  rw [isSlots]
  exact unsigned_of_lt (by omega) (by omega)

theorem signed_tlen (short : ihostentSize + host.body.length < 2 ^ 15) :
    signed 32 ((ihostentSize + host.body.length : ℕ) + host.slots - ihostentSize + hostentSize) -
      hostentSize = (host.slots + host.body.length : ℕ) := by
  have bound := host.slots_lt short
  rw [signed_of_lt (by omega) (by rw [hostentSize]; omega)]
  omega

theorem ihostent_ordered : ¬(host.ihostent.hAliasesIdx < host.ihostent.hNameIdx ∨
    host.ihostent.hAddrListIdx < host.ihostent.hAliasesIdx) := by
  simp only [ihostent, List.length_append]
  omega

theorem write_body {memory : List UInt8}
    (isLength : memory.length = host.slots + host.body.length) :
    Buffer.write memory host.slots host.body = .ok (memory.take host.slots ++ host.body) := by
  have area : (memory.take host.slots).length = host.slots := by
    rw [List.length_take]
    omega
  have written := @Buffer.write_append (memory.take host.slots) host.body host.slots
    (memory.drop host.slots) (by rw [area]) (by rw [List.length_drop]; omega)
  rwa [List.take_append_drop, List.drop_drop, List.drop_eq_nil_of_le (by omega), List.append_nil]
    at written

theorem read_header : Buffer.read (host.ihostent.bytes ++ host.body) 0 ihostentSize =
    .ok host.ihostent.bytes :=
  @Buffer.read_append [] host.ihostent.bytes host.body 0 ihostentSize rfl (length_bytes _).symm

theorem read_body : Buffer.read (host.ihostent.bytes ++ host.body) ihostentSize host.body.length =
    .ok host.body := by
  have read := @Buffer.read_append host.ihostent.bytes host.body [] ihostentSize host.body.length
    (by rw [length_bytes]) rfl
  rwa [List.append_nil] at read

theorem decodeHostent_eq (short : ihostentSize + host.body.length < 2 ^ 15) {base : ℤ}
    (positive : 0 < base) (below : base + (host.slots + host.body.length) ≤ 2 ^ 64)
    (fresh : ℕ → UInt8) :
    decodeHostent (host.ihostent.bytes ++ host.body) (ihostentSize + host.body.length : ℕ)
      (some base) fresh = .ok (host.block base) := by
  have slotsBound := host.slots_lt short
  have memory : ((List.range (host.slots + host.body.length)).map fresh).length =
      host.slots + host.body.length := by
    rw [List.length_map, List.length_range]
  have area : (((List.range (host.slots + host.body.length)).map fresh).take host.slots).length =
      host.slots := by
    rw [List.length_take, memory]
    omega
  have rest : ((ihostentSize + host.body.length : ℕ) : ℤ) - ihostentSize =
      host.body.length := by omega
  have enough : ¬unsigned 64 (ihostentSize + host.body.length : ℕ) < ihostentSize := by
    rw [unsigned_of_lt (by omega) (by omega)]
    omega
  have size : unsigned 64 host.body.length = host.body.length :=
    unsigned_of_lt (Int.natCast_nonneg _) (by clear enough; omega)
  have start : signed 32 host.slots = host.slots :=
    signed_of_lt (by clear enough size; omega) (by clear enough size; omega)
  rw [decodeHostent, if_neg enough, host.read_header, Outcome.ok_bind,
    readIhostent_bytes (host.ihostent_inRange short)]
  rw [if_neg host.ihostent_ordered]
  dsimp only
  rw [host.unsigned_slots short, host.signed_tlen short, rest, size, start, Int.toNat_natCast,
    Int.toNat_natCast, host.read_body, Outcome.ok_bind, host.write_body memory, Outcome.ok_bind]
  exact host.buildHostent_eq short area positive below

end Host

end Decoder

/-! ## Round trip -/

namespace Block

variable (block : Block) (base : ℤ)

/-- The pointer is inside the block. -/
def Inside (pointer : ℤ) : Prop := base ≤ pointer ∧ pointer < base + block.dst.length

def StringAt (pointer : ℤ) (string : CString) : Prop :=
  block.Inside base pointer ∧ Buffer.readString block.dst (pointer - base) = .ok string

def BytesAt (pointer : ℤ) (data : List UInt8) : Prop :=
  block.Inside base pointer ∧ Buffer.read block.dst (pointer - base) data.length = .ok data

/-- An array of pointers that ends with `NULL`. -/
def ArrayAt (pointer : ℤ) (pointers : List ℤ) : Prop :=
  block.Inside base pointer ∧ Buffer.read block.dst (pointer - base) (8 * (pointers.length + 1)) =
    .ok ((pointers ++ [0]).flatMap pointerBytes)

/-- The block holds the host entry: its memory is neither at `NULL` nor beyond the address space,
and every pointer is inside it and points to what the entry has there. -/
structure Represents (host : Hostent) : Prop where
  notNull : 0 < base
  addressable : base + block.dst.length ≤ 2 ^ 64
  name : host.name.elim (block.hName = 0) (block.StringAt base block.hName)
  addrtype : block.hAddrtype = host.addrtype
  length : block.hLength = host.length
  aliases : ∃ pointers, block.ArrayAt base block.hAliases pointers ∧
    List.Forall₂ (block.StringAt base) pointers host.aliases
  addrs : ∃ pointers, block.ArrayAt base block.hAddrList pointers ∧
    List.Forall₂ (block.BytesAt base) pointers host.addrList

variable {block base}

theorem stringAt_of_dst {string : CString} {front back : List UInt8}
    (isDst : block.dst = front ++ (terminated string ++ back)) :
    block.StringAt base (base + front.length) string := by
  have bytes : block.dst = front ++ (string.bytes ++ 0 :: back) := by
    rw [isDst]
    simp [terminated]
  refine ⟨⟨by omega, ?_⟩, ?_⟩
  · rw [bytes]
    simp only [List.length_append, List.length_cons]
    omega
  · rw [bytes]
    exact Buffer.readString_append (by omega)

theorem bytesAt_of_dst {data front back : List UInt8} (isDst : block.dst = front ++ (data ++ back))
    (nonempty : 1 ≤ data.length) : block.BytesAt base (base + front.length) data := by
  refine ⟨⟨by omega, ?_⟩, ?_⟩
  · rw [isDst]
    simp only [List.length_append]
    omega
  · rw [isDst]
    exact Buffer.read_append (by omega) rfl

theorem arrayAt_of_dst {pointers : List ℤ} {front back : List UInt8}
    (isDst : block.dst = front ++ ((pointers ++ [0]).flatMap pointerBytes ++ back)) :
    block.ArrayAt base (base + front.length) pointers := by
  have length := Host.length_flatMap_pointerBytes (pointers ++ [0])
  rw [List.length_append, List.length_singleton] at length
  refine ⟨⟨by omega, ?_⟩, ?_⟩
  · rw [isDst]
    simp only [List.length_append, length]
    omega
  · rw [isDst]
    exact Buffer.read_append (by omega) length.symm

end Block

namespace Host

variable (host : Host) (base : ℤ)

/-- The two arrays. -/
def aliasArray : List UInt8 := (host.aliasPointers base ++ [0]).flatMap pointerBytes

def addrArray : List UInt8 := (host.addrPointers base ++ [0]).flatMap pointerBytes

theorem image_eq : host.image base = host.aliasArray base ++ (host.addrArray base ++ host.body) :=
  List.append_assoc _ _ _

theorem length_aliasArray : (host.aliasArray base).length = 8 * (host.aliases.length + 1) := by
  rw [aliasArray, length_flatMap_pointerBytes, List.length_append, aliasPointers,
    Buffer.length_positions, List.length_map, List.length_singleton]

theorem length_addrArray : (host.addrArray base).length = 8 * (host.addrList.length + 1) := by
  rw [addrArray, length_flatMap_pointerBytes, List.length_append, addrPointers,
    Buffer.length_positions, List.length_singleton]

theorem length_arrays : (host.aliasArray base ++ host.addrArray base).length = host.slots := by
  rw [List.length_append, length_aliasArray, length_addrArray, slots]
  omega

theorem name_represented :
    host.name.elim ((host.block base).hName = 0)
      ((host.block base).StringAt base (host.block base).hName) := by
  cases isName : host.name with
  | none => simp [block, isName]
  | some string =>
      have dst : (host.block base).dst = (host.aliasArray base ++ host.addrArray base) ++
          (terminated string ++ (host.aliasBytes ++ host.addrList.flatten)) := by
        simp [block, image_eq, body_eq, nameBytes, isName]
      have pointer : (host.block base).hName =
          base + (host.aliasArray base ++ host.addrArray base).length := by
        rw [length_arrays]
        simp [block, isName]
      rw [Option.elim_some, pointer]
      exact Block.stringAt_of_dst dst

theorem aliases_represented :
    List.Forall₂ ((host.block base).StringAt base) (host.aliasPointers base) host.aliases := by
  have dst : (host.block base).dst =
      (host.aliasArray base ++ host.addrArray base ++ host.nameBytes) ++
      ((host.aliases.map terminated).flatten ++ host.addrList.flatten) := by
    simp [block, image_eq, body_eq, aliasBytes]
  have found := @Buffer.forall₂_positions _ _ (fun pointer item =>
    ∀ string, terminated string = item → (host.block base).StringAt base pointer string)
    base _ _ dst (by
      rintro before item - behind isDst string rfl
      exact Block.stringAt_of_dst isDst)
  rw [List.length_append, length_arrays, List.forall₂_map_right_iff] at found
  exact found.imp fun pointer string holds => holds string rfl

theorem addrs_represented :
    List.Forall₂ ((host.block base).BytesAt base) (host.addrPointers base) host.addrList := by
  have dst : (host.block base).dst =
      (host.aliasArray base ++ host.addrArray base ++ host.nameBytes ++ host.aliasBytes) ++
      (host.addrList.flatten ++ []) := by
    simp [block, image_eq, body_eq]
  have found := @Buffer.forall₂_positions _ _ ((host.block base).BytesAt base) base _ _ dst (by
    intro before item member behind isDst
    apply Block.bytesAt_of_dst isDst
    rw [host.addrLength item member]
    exact host.lengthPositive)
  rw [List.length_append, List.length_append, length_arrays] at found
  exact found

variable {base}

theorem represents_block (positive : 0 < base)
    (below : base + (host.slots + host.body.length) ≤ 2 ^ 64) :
    (host.block base).Represents base host.toHostent where
  notNull := positive
  addressable := by
    have length : (host.block base).dst.length = host.slots + host.body.length := by
      rw [← host.length_arrays base, ← List.length_append, List.append_assoc, ← image_eq]
      rfl
    rw [length]
    exact_mod_cast below
  name := host.name_represented base
  addrtype := rfl
  length := rfl
  aliases := by
    have array := @Block.arrayAt_of_dst (host.block base) base (host.aliasPointers base) []
      (host.addrArray base ++ host.body) (host.image_eq base)
    rw [List.length_nil, Nat.cast_zero, add_zero] at array
    exact ⟨_, array, host.aliases_represented base⟩
  addrs := by
    have array := @Block.arrayAt_of_dst (host.block base) base (host.addrPointers base)
      (host.aliasArray base) host.body (host.image_eq base)
    rw [length_aliasArray] at array
    exact ⟨_, array, host.addrs_represented base⟩

end Host

/-- A host entry that has been encoded is decoded to the same one; the encoder stays inside its
buffer. -/
theorem hostent_round_trip (host : Host) {buf : List UInt8} (header : ihostentSize ≤ buf.length)
    (short : buf.length < 2 ^ 15) :
    encodeHostent host buf buf.length ≠ .fault ∧
      ∀ t encoded, encodeHostent host buf buf.length = .ok (t, encoded) →
        ∀ (base : ℤ) fresh, 0 < base → base + (host.slots + host.body.length) ≤ 2 ^ 64 →
          ∃ block, decodeHostent (encoded.take t.toNat) t (some base) fresh = .ok block ∧
            block.Represents base host.toHostent := by
  rcases host.encodeHostent_cases header short with ⟨failed, -⟩ | ⟨fits, done, -⟩
  · rw [failed]
    exact ⟨by simp, fun _ _ success => nomatch success⟩
  · rw [done]
    refine ⟨by simp, ?_⟩
    rintro t encoded success base fresh positive below
    rw [Outcome.ok.injEq, Prod.mk.injEq] at success
    rcases success with ⟨rfl, rfl⟩
    have taken : (host.ihostent.bytes ++ host.body ++
        buf.drop (ihostentSize + host.body.length)).take (ihostentSize + host.body.length) =
        host.ihostent.bytes ++ host.body := by
      apply List.take_left'
      rw [List.length_append, Host.length_bytes]
    refine ⟨host.block base, ?_, host.represents_block positive below⟩
    rw [Int.toNat_natCast, taken]
    exact host.decodeHostent_eq (by omega) positive below fresh

theorem gateway_addrtypeInt : -2 ^ 31 ≤ (2 : ℤ) ∧ (2 : ℤ) < 2 ^ 31 := by decide

/-- "gw", with one address and no alias. -/
def gateway : Host where
  name := some ⟨[103, 119], by decide⟩
  aliases := []
  addrtype := 2
  length := 4
  addrList := [[10, 0, 0, 1]]
  addrLength := by decide
  addrtypeInt := gateway_addrtypeInt
  lengthPositive := by decide
  lengthBound := by decide
  stringBound := by decide

theorem gateway_round_trip : ∃ t encoded block,
    encodeHostent gateway (List.replicate 64 0) 64 = .ok (t, encoded) ∧
      decodeHostent (encoded.take t.toNat) t (some 4096) (fun _ => 0) = .ok block ∧
      block.Represents 4096 gateway.toHostent := by
  have header : ihostentSize ≤ (List.replicate 64 (0 : UInt8)).length := by decide
  rcases gateway.encodeHostent_cases header (by decide) with ⟨-, stopped⟩ | ⟨-, done, -⟩
  · exact absurd stopped (by decide)
  · rcases (hostent_round_trip gateway header (by decide)).2 _ _ done 4096 (fun _ => 0) (by decide)
      (by decide) with ⟨block, decoded, represents⟩
    exact ⟨_, _, block, done, decoded, represents⟩

end Mica.Rpc.Helper
