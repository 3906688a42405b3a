import Mica.Rpc.Addrlist

/-!
# What `encode_addrlist` stores

The encoder measures the list in one loop and copies it in another, and the two
compute the sizes of the records on their own. Here the copies are a log of the
calls of `memcpy`, apart from the buffer they go to, so that what is written can
be compared with what has been measured.
-/

namespace Mica.Rpc.Helper

open MachineInt Buffer

/-- The copy of an address or of a name that is there. -/
def partStores (data : List UInt8) (bi : ℤ) : List Store :=
  if data ≠ [] then [⟨bi, data⟩] else []

/-- The body of the second loop of `encode_addrlist`: its stores and the next index. -/
def nodeStores (node : Node) (bi : ℤ) : List Store × ℤ :=
  let header : Store := ⟨bi, addrinfoHeader node.toAddrinfo⟩
  let bi := signed 32 (bi + hlen)
  let aclen := signed 32 (nameLength node.toAddrinfo)
  let length : Store := ⟨bi, LittleEndian.intBytes 4 aclen⟩
  let bi := signed 32 (bi + 4)
  let address := partStores node.addr bi
  let bi := signed 32 (bi + node.addr.length)
  let name := partStores ((node.canonname.elim [] terminated).take aclen.toNat) bi
  ([header, length] ++ address ++ name, signed 32 (bi + aclen.toNat))

def listStores : List Node → ℤ → ℤ → ℤ × List Store
  | [], _, cnt => (cnt, [])
  | node :: nodes, bi, cnt =>
      let rest := listStores nodes (nodeStores node bi).2 (signed 32 (cnt + 1))
      (rest.1, (nodeStores node bi).1 ++ rest.2)

/-- The value that a call returns, `*buflen` after it, and its stores to the buffer. -/
structure AddrlistCall where
  ret : ℤ
  buflen : ℤ
  stores : List Store

/-- `encode_addrlist` -/
def encodeAddrlistCall (nodes : List Node) (buflen : ℤ) : AddrlistCall :=
  let len := measureAddrlist nodes 0
  if nodes = [] then ⟨-rpcEinval, buflen, []⟩
  else if buflen < len then ⟨-rpcEoverlong, buflen, []⟩
  else ⟨(listStores nodes 0 0).1, len, (listStores nodes 0 0).2⟩

/-! ## The log and the buffer -/

theorem writeAll_partStores (data : List UInt8) (bi : ℤ) :
    writeAll (partStores data bi) = fun buf => encodePart data buf bi := by
  funext buf
  rw [partStores, encodePart]
  split
  case isTrue =>
    rw [writeAll]
    cases write buf bi data <;> rfl
  case isFalse => rfl

theorem encodeNode_eq_writeAll (node : Node) (buf : List UInt8) (bi : ℤ) :
    encodeNode node buf bi =
      writeAll (nodeStores node bi).1 buf >>= fun buf => .ok (buf, (nodeStores node bi).2) := by
  simp only [nodeStores, writeAll_append, writeAll, writeAll_partStores, encodeNode,
    Outcome.bind_assoc, Outcome.ok_bind, Outcome.pure_eq]

theorem encodeNodes_eq_writeAll (nodes : List Node) (buf : List UInt8) (bi cnt : ℤ) :
    encodeNodes nodes buf bi cnt =
      writeAll (listStores nodes bi cnt).2 buf >>= fun buf =>
        .ok ((listStores nodes bi cnt).1, buf) := by
  induction nodes generalizing buf bi cnt with
  | nil => rfl
  | cons node nodes ih =>
      simp only [encodeNodes, listStores, writeAll_append, encodeNode_eq_writeAll, ih,
        Outcome.bind_assoc, Outcome.ok_bind]

/-- The encoder on a buffer performs the stores of the log. -/
theorem encodeAddrlist_eq_writeAll (nodes : List Node) (buf : List UInt8) (buflen : ℤ) :
    encodeAddrlist nodes buf buflen =
      let call := encodeAddrlistCall nodes buflen
      if nodes = [] ∨ buflen < measureAddrlist nodes 0 then .error call.ret
      else writeAll call.stores buf >>= fun buf => .ok ⟨call.ret, call.buflen, buf⟩ := by
  rw [encodeAddrlist, encodeAddrlistCall]
  by_cases empty : nodes = []
  · simp only [empty, true_or, if_true]
  by_cases overlong : buflen < measureAddrlist nodes 0
  · simp only [empty, overlong, or_true, if_true, if_false]
  simp only [empty, overlong, or_self, if_false, encodeNodes_eq_writeAll, Outcome.bind_assoc,
    Outcome.ok_bind, Outcome.pure_eq]

/-! ## The two loops agree -/

/-- The size of a record: a header, the length of the name, the address and the name. -/
def recordSize (node : Node) : ℕ := hlen + 4 + node.addr.length + nameLength node.toAddrinfo

def recordsSize (nodes : List Node) : ℕ := (nodes.map recordSize).sum

theorem recordSize_pos (node : Node) : 0 < recordSize node := by
  rw [recordSize, hlen]
  omega

theorem recordsSize_cons (node : Node) (nodes : List Node) :
    recordsSize (node :: nodes) = recordSize node + recordsSize nodes := List.sum_cons

theorem length_encoded_eq_recordSize (node : Node) : node.encoded.length = recordSize node :=
  node.length_encoded

theorem length_encodedList_eq_recordsSize (nodes : List Node) :
    (encodedList nodes).length = recordsSize nodes := by
  induction nodes with
  | nil => rfl
  | cons node nodes ih =>
      rw [length_encodedList_cons, length_encoded_eq_recordSize, ih, recordsSize_cons]

theorem consecutive_partStores (data : List UInt8) (bi : ℤ) :
    Consecutive bi (partStores data bi) (bi + data.length) := by
  rw [partStores]
  split
  case isTrue => exact ⟨rfl, rfl⟩
  case isFalse empty =>
    rw [not_not.1 empty]
    exact (Int.add_zero bi).symm

/-- One pass of the second loop fills a record. -/
theorem nodeStores_spec {node : Node} {bi : ℕ} (small : bi + recordSize node < 2 ^ 31) :
    Consecutive bi (nodeStores node bi).1 (bi + recordSize node : ℕ) ∧
      (nodeStores node bi).2 = (bi + recordSize node : ℕ) := by
  rw [recordSize, hlen] at *
  have headerLength := length_addrinfoHeader node.toAddrinfo
  have nameLength' := length_name node.toAddrinfo
  have aclen : signed 32 (nameLength node.toAddrinfo) = nameLength node.toAddrinfo :=
    signed_of_lt (by omega) (by omega)
  have first : signed 32 ((bi : ℤ) + hlen) = (bi + 20 : ℕ) :=
    signed_of_lt (by omega) (by rw [hlen]; omega)
  have second : signed 32 ((bi + 20 : ℕ) + 4) = (bi + 24 : ℕ) :=
    signed_of_lt (by omega) (by omega)
  have third : signed 32 ((bi + 24 : ℕ) + node.addr.length) = (bi + 24 + node.addr.length : ℕ) :=
    signed_of_lt (by omega) (by omega)
  have fourth : signed 32 ((bi + 24 + node.addr.length : ℕ) + nameLength node.toAddrinfo) =
      (bi + (20 + 4 + node.addr.length + nameLength node.toAddrinfo) : ℕ) := by
    rw [signed_of_lt (by omega) (by omega)]
    omega
  simp only [nodeStores, aclen, Int.toNat_natCast, List.take_of_length_le nameLength'.le, first,
    second, third, fourth, and_true]
  have address := consecutive_partStores node.addr (bi + 24 : ℕ)
  have name := consecutive_partStores (node.canonname.elim [] terminated)
    (bi + 24 + node.addr.length : ℕ)
  have behind : ((bi + 24 + node.addr.length : ℕ) : ℤ) +
      (node.canonname.elim [] terminated).length =
      (bi + (20 + 4 + node.addr.length + nameLength node.toAddrinfo) : ℕ) := by
    rw [nameLength']
    omega
  rw [behind] at name
  refine Consecutive.append (Consecutive.append ⟨rfl, ?_, ?_⟩ address) name
  · rw [headerLength]
    rfl
  · rw [headerLength, LittleEndian.length_intBytes]
    rfl

/-- The second loop fills as many bytes as the first has counted. -/
theorem listStores_spec (nodes : List Node) {bi cnt : ℕ} (less : cnt ≤ bi)
    (small : bi + recordsSize nodes < 2 ^ 31) :
    Consecutive bi (listStores nodes bi cnt).2 (bi + recordsSize nodes : ℕ) ∧
      (listStores nodes bi cnt).1 = (cnt + nodes.length : ℕ) := by
  induction nodes generalizing bi cnt with
  | nil => exact ⟨rfl, rfl⟩
  | cons node nodes ih =>
      have positive := recordSize_pos node
      rw [recordsSize_cons] at small ⊢
      rcases @nodeStores_spec node bi (by omega) with ⟨record, next⟩
      have count : signed 32 ((cnt : ℤ) + 1) = (cnt + 1 : ℕ) := signed_of_lt (by omega) (by omega)
      rcases @ih (bi + recordSize node) (cnt + 1) (by omega) (by omega) with ⟨records, total⟩
      rw [Nat.add_assoc] at records
      rw [listStores, next, count]
      refine ⟨record.append records, ?_⟩
      rw [total, List.length_cons]
      omega

section Call

variable {nodes : List Node}

theorem measureAddrlist_eq_recordsSize (small : recordsSize nodes < 2 ^ 31) :
    measureAddrlist nodes 0 = recordsSize nodes := by
  have measured := @measureAddrlist_eq nodes 0
  rw [Nat.zero_add, length_encodedList_eq_recordsSize, Nat.cast_zero] at measured
  exact measured small

theorem encodeAddrlistCall_of_lt (nonempty : nodes ≠ []) (small : recordsSize nodes < 2 ^ 31)
    {buflen : ℤ} (overlong : buflen < recordsSize nodes) :
    encodeAddrlistCall nodes buflen = ⟨-rpcEoverlong, buflen, []⟩ := by
  rw [encodeAddrlistCall, if_neg nonempty, measureAddrlist_eq_recordsSize small, if_pos overlong]

theorem encodeAddrlistCall_of_le (nonempty : nodes ≠ []) (small : recordsSize nodes < 2 ^ 31)
    {buflen : ℤ} (fits : recordsSize nodes ≤ buflen) :
    ∃ stores, encodeAddrlistCall nodes buflen = ⟨nodes.length, recordsSize nodes, stores⟩ ∧
      Consecutive 0 stores (recordsSize nodes) := by
  rcases @listStores_spec nodes 0 0 le_rfl (by omega) with ⟨consecutive, count⟩
  rw [Nat.zero_add] at consecutive count
  refine ⟨(listStores nodes 0 0).2, ?_, consecutive⟩
  rw [encodeAddrlistCall, if_neg nonempty, measureAddrlist_eq_recordsSize small,
    if_neg (Int.not_lt.2 fits)]
  exact congrArg (AddrlistCall.mk · _ _) count

/-- The encoder refuses a list exactly if its records do not fit, with nothing changed, and writes
otherwise the bytes that it has measured and no others. -/
theorem encodeAddrlistCall_writes_measured (nonempty : nodes ≠ [])
    (small : recordsSize nodes < 2 ^ 31) (buflen : ℤ) :
    let call := encodeAddrlistCall nodes buflen
    (call.ret = -rpcEoverlong ∧ call.stores = [] ∧ call.buflen = buflen ↔
        buflen < recordsSize nodes) ∧
      (recordsSize nodes ≤ buflen → call.ret = nodes.length ∧
        call.buflen = recordsSize nodes ∧ call.buflen ≤ buflen ∧
        ∀ index, (∃ store ∈ call.stores, store.Writes index) ↔
          0 ≤ index ∧ index < call.buflen) := by
  rcases Int.lt_or_le buflen (recordsSize nodes) with overlong | fits
  · rw [encodeAddrlistCall_of_lt nonempty small overlong]
    refine ⟨iff_of_true ⟨rfl, rfl, rfl⟩ overlong, fun fits => ?_⟩
    exact absurd overlong (Int.not_lt.2 fits)
  · rcases encodeAddrlistCall_of_le nonempty small fits with ⟨stores, isCall, consecutive⟩
    rw [isCall]
    refine ⟨iff_of_false ?_ (Int.not_lt.2 fits), fun _ => ⟨rfl, rfl, fits, fun index => ?_⟩⟩
    · rintro ⟨count, -, -⟩
      have nonneg : (0 : ℤ) ≤ nodes.length := Int.natCast_nonneg _
      have negative : -rpcEoverlong < 0 := by decide
      exact absurd count (ne_of_gt (lt_of_lt_of_le negative nonneg))
    · exact consecutive.writes_iff

/-- A record of 40 bytes is refused by a buffer of 39 and written to one of 64. -/
theorem encodeAddrlistCall_loopback :
    ((encodeAddrlistCall [loopback] 39).ret = -rpcEoverlong ∧
        (encodeAddrlistCall [loopback] 39).stores = [] ∧
        (encodeAddrlistCall [loopback] 39).buflen = 39) ∧
      (encodeAddrlistCall [loopback] 64).ret = 1 ∧
      (encodeAddrlistCall [loopback] 64).buflen = 40 ∧
      ∀ index, (∃ store ∈ (encodeAddrlistCall [loopback] 64).stores, store.Writes index) ↔
        0 ≤ index ∧ index < 40 := by
  have nonempty : [loopback] ≠ [] := List.cons_ne_nil _ _
  have size : recordsSize [loopback] = 40 := by decide
  have small : recordsSize [loopback] < 2 ^ 31 := by
    rw [size]
    decide
  have refused := encodeAddrlistCall_writes_measured nonempty small 39
  have written := encodeAddrlistCall_writes_measured nonempty small 64
  rw [size] at refused written
  rcases written.2 (by decide) with ⟨count, length, -, writes⟩
  rw [length] at writes
  exact ⟨refused.1.2 (by decide), count, length, writes⟩

end Call

end Mica.Rpc.Helper
