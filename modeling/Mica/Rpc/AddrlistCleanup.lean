import Mica.Lib.Allocations
import Mica.Lib.LinkedList
import Mica.Rpc.Addrlist

/-!
# How `decode_addrlist` cleans up

The decoder links an element into the list as soon as it has memory for it, fills
its fields afterwards, and leaves the list to `freeaddrlist` when it fails. Here
the elements and their names are numbered blocks, and the pointers in them hold
nothing until they are assigned, so that one can see which of them the cleanup
relies on.
-/

namespace Mica.Rpc.Helper

open MachineInt LinkedList

/-- The memory in which a list is built. A place for a pointer to an element is `*out` (`none`) or
the field `ai_next` of a block, and `pp` points to one of them. -/
structure Build where
  blocks : Allocations
  link : Option ℕ → Option (Option ℕ)
  canonname : ℕ → Option (Option ℕ)
  pp : Option ℕ

/-! ## The decoder -/

/-- `*out = NULL` and `pp = out`. -/
def Build.start : Build where
  blocks := .none
  link := Function.update (fun _ => none) none (some none)
  canonname := fun _ => none
  pp := none

/-- `*pp = pointer` -/
def Build.assign (build : Build) (pointer : Option ℕ) : Build :=
  { build with link := Function.update build.link build.pp (some pointer) }

/-- `*pp = p = malloc(...)`, for a block in which nothing has been stored. -/
def Build.allocate (build : Build) : Build :=
  let block := build.blocks.count
  Build.assign
    { build with
      blocks := build.blocks.alloc
      link := Function.update build.link (some block) none
      canonname := Function.update build.canonname block none }
    (some block)

/-- The end of the loop's body: `ai_canonname` is `NULL` or what `__strdup` returns, `ai_next` is
`NULL`, and `pp` points to it. -/
def Build.complete (build : Build) (block : ℕ) (named : Bool) : Build :=
  let name := if named then some build.blocks.count else none
  { blocks := if named then build.blocks.alloc else build.blocks
    link := Function.update build.link (some block) (some none)
    canonname := Function.update build.canonname block (some name)
    pp := some block }

/-- The body of the loop of `decode_addrlist`: the memory after it, and the error for which it goes
to `clean` or the element. -/
def decodeElement (buf : List UInt8) (buflen : ℤ) (allocated named : Bool) (build : Build)
    (bi : ℤ) : Outcome (Build × Except ℤ Decoded) := do
  let addr ← Buffer.read buf bi hlen
  -- the test `addr.ai_addrlen < 0` is one on an unsigned value
  let addrlen := Buffer.number 4 addr 16
  if allocated then
    decodeRecord buf buflen addrlen named bi (.ok (build.allocate, .error (-rpcEoverlong)))
      fun decoded =>
        .ok (build.allocate.complete build.blocks.count decoded.info.canonname.isSome, .ok decoded)
  else .ok (build.assign none, .error (-rpcEnomem))

/-- The loop of `decode_addrlist` from the `i`-th element on. -/
def decodeElements (buf : List UInt8) (buflen : ℤ) (heap : Heap) :
    ℕ → ℕ → Build → ℤ → Outcome (Build × Except ℤ (List Addrinfo))
  | 0, _, build, _ => .ok (build, .ok [])
  | remaining + 1, i, build, bi => do
      let (build, result) ←
        decodeElement buf buflen (heap.node i).isSome (heap.name i) build bi
      match result with
      | .error ret => pure (build, .error ret)
      | .ok decoded => do
          let (build, rest) ← decodeElements buf buflen heap remaining (i + 1) build decoded.bi
          pure (build, rest.map (decoded.info :: ·))

/-- `decode_addrlist` up to its return or the label `clean`. -/
def decodeList (buf : List UInt8) (cnt buflen : ℤ) (heap : Heap) :
    Outcome (Build × Except ℤ (List Addrinfo)) :=
  decodeElements buf buflen heap cnt.toNat 0 .start 0

/-! ## The cleanup -/

/-- `freeaddrlist`, which must find every pointer assigned and every block live. -/
def Build.freeaddrlist (build : Build) : ℕ → Option ℕ → Allocations → Option Allocations
  | _, none, blocks => some blocks
  -- each pass frees an element, so a further one would find a block that has been freed
  | 0, some _, _ => none
  | passes + 1, some block, blocks => do
      let next ← build.link (some block)
      let canonname ← build.canonname block
      let blocks ← blocks.giveBack canonname
      let blocks ← blocks.giveBack (some block)
      build.freeaddrlist passes next blocks

/-- The label `clean`. -/
def Build.clean (build : Build) : Option Allocations := do
  let out ← build.link none
  build.freeaddrlist build.blocks.count out build.blocks

/-- The cleanup uses no pointer that has not been assigned, and frees every block once. -/
def Build.CleansUp (build : Build) : Prop :=
  ∃ after, build.clean = some after ∧ after.released.Perm (List.range build.blocks.count)

/-! ## One pass of the loop -/

section Pass

variable {α : Type} {buf : List UInt8} {buflen bi : ℤ} {allocated named : Bool} {build : Build}
  {ending : Build × Except ℤ Decoded}

/-- A record is overlong, or it is decoded and a name is there if its pointer says so. -/
theorem decodeRecord_cases {addrlen : ℕ} {overlong : Outcome α} {next : Decoded → Outcome α}
    {result : α} (runs : decodeRecord buf buflen addrlen named bi overlong next = .ok result) :
    overlong = .ok result ∨
      ∃ decoded, decoded.canonname = namePointer decoded.info.canonname ∧
        next decoded = .ok result := by
  simp only [decodeRecord] at runs
  split at runs
  case isTrue => exact .inl runs
  rcases Outcome.exists_of_bind_eq_ok runs with ⟨header, -, runs⟩
  split at runs
  case isTrue => exact .inl runs
  rcases Outcome.exists_of_bind_eq_ok runs with ⟨length, -, runs⟩
  split at runs
  case isTrue => exact .inl runs
  rcases Outcome.exists_of_bind_eq_ok runs with ⟨decoded, success, runs⟩
  rw [decodeParts] at success
  rcases Outcome.exists_of_bind_eq_ok success with ⟨addr, -, success⟩
  rcases Outcome.exists_of_bind_eq_ok success with ⟨name, -, success⟩
  exact .inr ⟨decoded, by rw [← Outcome.ok.inj success], runs⟩

theorem decodeRecord_bind {β : Type} (addrlen : ℕ) (overlong : Outcome α)
    (next : Decoded → Outcome α) (after : α → Outcome β) :
    decodeRecord buf buflen addrlen named bi overlong next >>= after =
      decodeRecord buf buflen addrlen named bi (overlong >>= after)
        fun decoded => next decoded >>= after := by
  simp only [decodeRecord, Outcome.ite_bind, Outcome.bind_assoc]

/-- The body of the loop fails without memory for the element or with the element linked, or it
completes the element. -/
theorem decodeElement_cases
    (runs : decodeElement buf buflen allocated named build bi = .ok ending) :
    ending = (build.assign none, .error (-rpcEnomem)) ∨
      ending = (build.allocate, .error (-rpcEoverlong)) ∨
      ∃ decoded, decoded.canonname = namePointer decoded.info.canonname ∧
        ending = (build.allocate.complete build.blocks.count decoded.info.canonname.isSome,
          .ok decoded) := by
  simp only [decodeElement] at runs
  rcases Outcome.exists_of_bind_eq_ok runs with ⟨addr, -, runs⟩
  split at runs
  case isFalse => exact .inl (Outcome.ok.inj runs).symm
  rcases decodeRecord_cases runs with runs | ⟨decoded, isName, runs⟩
  · exact .inr (.inl (Outcome.ok.inj runs).symm)
  · exact .inr (.inr ⟨decoded, isName, (Outcome.ok.inj runs).symm⟩)

theorem decodeElement_at {start : ℕ} (short : buf.length < 2 ^ 31) (int : buflen < 2 ^ 31)
    (bound : start < 2 ^ 32)
    (runs : decodeElement buf buflen allocated named build (signed 32 start) = .ok ending) :
    allocated = false ∧ ending = (build.assign none, .error (-rpcEnomem)) ∨
      allocated = true ∧ buflen ≤ addressEnd buf start ∧
        ending = (build.allocate, .error (-rpcEoverlong)) ∨
      allocated = true ∧ addressEnd buf start < buflen ∧
        ∃ decoded, decoded.bi = signed 32 (addressEnd buf start + aclenAt buf start : ℕ) ∧
          ending = (build.allocate.complete build.blocks.count decoded.info.canonname.isSome,
            .ok decoded) := by
  rw [decodeElement] at runs
  rcases Nat.lt_or_ge buf.length (start + hlen) with outside | header
  · rw [read_header_eq_fault bound outside, Outcome.fault_bind] at runs
    cases runs
  have bi : signed 32 start = (start : ℤ) := signed_of_lt (by omega) (by rw [hlen] at header; omega)
  rw [bi, Buffer.read_of_le header, Outcome.ok_bind] at runs
  cases allocated with
  | false => exact .inl ⟨rfl, (Outcome.ok.inj runs).symm⟩
  | true =>
      dsimp only at runs
      rw [if_pos rfl, number_header, decodeRecord_eq short int header] at runs
      have behind : start + 24 ≤ addressEnd buf start := Nat.le_add_right _ _
      right
      split at runs
      case isTrue cut => exact .inl ⟨rfl, by omega, (Outcome.ok.inj runs).symm⟩
      split at runs
      case isTrue => cases runs
      split at runs
      case isTrue cut =>
        have wraps := Nat.mod_le (addressEnd buf start) (2 ^ 32)
        exact .inl ⟨rfl, by omega, (Outcome.ok.inj runs).symm⟩
      case isFalse passes =>
        rcases Outcome.exists_of_bind_eq_ok runs with ⟨decoded, success, runs⟩
        rcases partsAt_eq_ok short (by omega) success with ⟨inside, isBehind⟩
        have whole : addressEnd buf start % 2 ^ 32 = addressEnd buf start :=
          Nat.mod_eq_of_lt (by omega)
        rw [whole] at passes
        refine .inr ⟨rfl, ?_, decoded, isBehind, (Outcome.ok.inj runs).symm⟩
        rw [addressEnd] at passes ⊢
        omega

end Pass

/-! ## The same decoder -/

/-- What is returned at the end. -/
def returned {α : Type} (ending : Build × Except ℤ α) : Outcome α :=
  match ending.2 with
  | .error ret => .error ret
  | .ok value => .ok value

section Same

variable {buf : List UInt8} {buflen bi : ℤ} {owned : List Pointer}

theorem decodeNode_eq_decodeElement {block : Option Stale} {named : Bool}
    (sound : ∀ pointer ∈ owned, pointer ≠ .wild)
    (cleared : ∀ stale ∈ block, stale.Cleared) (build : Build) :
    decodeNode buf buflen block named owned bi =
      decodeElement buf buflen block.isSome named build bi >>= returned := by
  cases block with
  | none =>
      have cleaned : (clean owned .null (-rpcEnomem) : Outcome Decoded) = .error (-rpcEnomem) := by
        simp [clean, freeaddrlist_eq sound]
      simp only [decodeNode, decodeElement, cleaned, Outcome.bind_assoc]
      rfl
  | some stale =>
      simp only [decodeNode, decodeElement, clean_stale sound, if_pos (cleared stale rfl),
        Option.isSome_some, if_true, Outcome.bind_assoc, decodeRecord_bind,
        Outcome.ok_bind, returned]

theorem decodeNodes_eq_decodeElements {heap : Heap}
    (cleared : ∀ i, ∀ stale ∈ heap.node i, stale.Cleared)
    (remaining : ℕ) {i : ℕ} (sound : ∀ pointer ∈ owned, pointer ≠ .wild) (build : Build) :
    decodeNodes buf buflen heap remaining i owned bi =
      decodeElements buf buflen heap remaining i build bi >>= returned := by
  induction remaining generalizing i owned build bi with
  | zero => rfl
  | succ remaining ih =>
      rw [decodeNodes, decodeElements, decodeNode_eq_decodeElement sound (cleared i) build]
      cases runs : decodeElement buf buflen (heap.node i).isSome (heap.name i) build bi with
      | fault => rfl
      | error code => rfl
      | ok ending =>
          rcases decodeElement_cases runs with rfl | rfl | ⟨decoded, isName, rfl⟩
          · rfl
          · rfl
          · have notWild : decoded.canonname ≠ .wild := isName ▸ namePointer_ne_wild _
            simp only [Outcome.ok_bind, returned, ih (sound_append sound notWild)
              (build.allocate.complete build.blocks.count decoded.info.canonname.isSome),
              Outcome.bind_assoc]
            congr 1
            funext rest
            rcases rest with ⟨later, ret | infos⟩ <;> rfl

/-- On memory that has been cleared the decoder returns what the model without blocks does. -/
theorem decodeAddrlist_eq_decodeList {heap : Heap}
    (cleared : ∀ i, ∀ stale ∈ heap.node i, stale.Cleared) (cnt : ℤ) :
    decodeAddrlist buf cnt buflen heap = decodeList buf cnt buflen heap >>= returned :=
  decodeNodes_eq_decodeElements cleared cnt.toNat (by simp) .start

end Same

/-! ## What the list holds -/

/-- The blocks of an element and its name, in the order in which they are allocated. -/
def blocksOf (element : ℕ × Option ℕ) : List ℕ := element.1 :: element.2.toList

/-- The blocks in the order in which they are freed. -/
def releasesOf (element : ℕ × Option ℕ) : List ℕ := element.2.toList ++ [element.1]

theorem releasesOf_perm (element : ℕ × Option ℕ) :
    (releasesOf element).Perm (blocksOf element) :=
  List.perm_append_singleton _ _

/-- Elements with their names are linked up to `pp`, and own the blocks up to a number. -/
structure Build.Owns (build : Build) (owned : List (ℕ × Option ℕ)) (count : ℕ) : Prop where
  segment : Segment build.link none (owned.map Prod.fst) build.pp
  names : ∀ element ∈ owned, build.canonname element.1 = some element.2
  blocks : owned.flatMap blocksOf = List.range count
  unreleased : build.blocks.released = []

/-- The elements are complete, and there is nothing else. -/
structure Build.Complete (build : Build) (owned : List (ℕ × Option ℕ)) : Prop extends
    build.Owns owned build.blocks.count where
  ends : build.link build.pp = some none

/-- A further element has been linked, in which nothing has been stored. -/
structure Build.Unfilled (build : Build) (owned : List (ℕ × Option ℕ)) (block : ℕ) : Prop extends
    build.Owns owned block where
  linked : build.link build.pp = some (some block)
  empty : build.link (some block) = none
  count : build.blocks.count = block + 1

theorem map_fst_sublist (owned : List (ℕ × Option ℕ)) :
    (owned.map Prod.fst).Sublist (owned.flatMap blocksOf) := by
  induction owned with
  | nil => exact List.nil_sublist _
  | cons element owned ih =>
      rw [List.map_cons, List.flatMap_cons, blocksOf, List.cons_append]
      exact (ih.trans (List.sublist_append_right _ _)).cons_cons _

theorem nodup_places {owned : List (ℕ × Option ℕ)} {count : ℕ}
    (blocks : owned.flatMap blocksOf = List.range count) :
    (none :: (owned.map Prod.fst).map some).Nodup := by
  have range : (owned.flatMap blocksOf).Nodup := blocks ▸ List.nodup_range
  have nodes := (map_fst_sublist owned).nodup range
  exact List.nodup_cons.2 ⟨by simp, nodes.map (Option.some_injective _)⟩

namespace Build

variable {build : Build} {owned : List (ℕ × Option ℕ)} {count block : ℕ}

theorem Owns.lt (owns : build.Owns owned count) {element : ℕ × Option ℕ}
    (member : element ∈ owned) : element.1 < count := by
  rw [← List.mem_range, ← owns.blocks]
  exact List.mem_flatMap.2 ⟨element, member, List.mem_cons_self⟩

theorem Owns.place_ne (owns : build.Owns owned count) {place : Option ℕ}
    (member : place ∈ none :: (owned.map Prod.fst).map some) : place ≠ some count := by
  rintro rfl
  simp only [List.mem_cons, reduceCtorEq, List.map_map, List.mem_map, Function.comp_apply,
    Option.some.injEq, false_or] at member
  rcases member with ⟨element, isElement, isCount⟩
  exact absurd isCount (Nat.ne_of_lt (owns.lt isElement))

theorem complete_start : Build.start.Complete [] where
  segment := rfl
  names := by simp
  blocks := rfl
  unreleased := rfl
  ends := by simp [Build.start]

theorem Complete.assign (complete : build.Complete owned) : (build.assign none).Complete owned where
  segment := by
    apply complete.segment.congr (nodup_places complete.blocks)
    intro other _ differs
    exact Function.update_of_ne differs _ _
  names := complete.names
  blocks := complete.blocks
  unreleased := complete.unreleased
  ends := Function.update_self _ _ _

theorem Complete.allocate (complete : build.Complete owned) :
    build.allocate.Unfilled owned build.blocks.count := by
  have place : build.pp ≠ some build.blocks.count := complete.place_ne complete.segment.last_mem
  refine ⟨⟨?_, ?_, complete.blocks, complete.unreleased⟩, ?_, ?_, rfl⟩
  · apply complete.segment.congr (nodup_places complete.blocks)
    intro other member differs
    exact (Function.update_of_ne differs _ _).trans
      (Function.update_of_ne (complete.place_ne member) _ _)
  · intro element member
    exact (Function.update_of_ne (Nat.ne_of_lt (complete.lt member)) _ _).trans
      (complete.names element member)
  · exact Function.update_self _ _ _
  · exact (Function.update_of_ne place.symm _ _).trans (Function.update_self _ _ _)

theorem Unfilled.blocks_complete (unfilled : build.Unfilled owned block) (named : Bool) :
    (owned ++ [(block, if named then some (block + 1) else none)]).flatMap blocksOf =
      List.range (build.complete block named).blocks.count := by
  rw [List.flatMap_append, unfilled.blocks]
  cases named with
  | false =>
      have count : (build.complete block false).blocks.count = block + 1 := unfilled.count
      rw [count, List.range_succ]
      rfl
  | true =>
      have count : (build.complete block true).blocks.count = block + 1 + 1 :=
        congrArg (· + 1) unfilled.count
      rw [count, List.range_succ, List.range_succ, List.append_assoc]
      rfl

theorem Unfilled.complete (unfilled : build.Unfilled owned block) (named : Bool) :
    (build.complete block named).Complete
      (owned ++ [(block, if named then some (block + 1) else none)]) := by
  have blocks := unfilled.blocks_complete named
  refine ⟨⟨?_, ?_, blocks, ?_⟩, Function.update_self _ _ _⟩
  · have nodup := nodup_places blocks
    rw [List.map_append] at nodup ⊢
    apply (unfilled.segment.append unfilled.linked).congr nodup
    intro other _ differs
    exact Function.update_of_ne differs _ _
  · intro element member
    rcases List.mem_append.1 member with before | isLast
    · exact (Function.update_of_ne (Nat.ne_of_lt (unfilled.lt before)) _ _).trans
        (unfilled.names element before)
    · rw [List.mem_singleton.1 isLast, ← unfilled.count]
      exact Function.update_self _ _ _
  · cases named <;> exact unfilled.unreleased

/-! ## The walk -/

theorem mem_releasesOf_iff {element : ℕ × Option ℕ} :
    block ∈ releasesOf element ↔ block ∈ blocksOf element :=
  (releasesOf_perm element).mem_iff

theorem freeaddrlist_succ {next name : Option ℕ} {blocks : Allocations}
    (linked : build.link (some block) = some next) (named : build.canonname block = some name)
    (live : ∀ other ∈ blocksOf (block, name), blocks.Live other) (distinct : block ∉ name)
    (passes : ℕ) :
    build.freeaddrlist (passes + 1) (some block) blocks =
      build.freeaddrlist passes next
        ⟨blocks.count, blocks.released ++ releasesOf (block, name)⟩ := by
  have nameLive : ∀ other ∈ name, blocks.Live other := by
    intro other isName
    exact live other (List.mem_cons_of_mem _ (Option.mem_toList.2 isName))
  have blockLive : ∀ other ∈ some block,
      (⟨blocks.count, blocks.released ++ name.toList⟩ : Allocations).Live other := by
    rintro other ⟨⟩
    rcases live block List.mem_cons_self with ⟨allocated, unreleased⟩
    refine ⟨allocated, fun released => ?_⟩
    rcases List.mem_append.1 released with before | isName
    · exact unreleased before
    · exact distinct (Option.mem_toList.1 isName)
  simp only [freeaddrlist, linked, named, Option.bind_eq_bind, Option.bind_some,
    Allocations.giveBack_of_live nameLive, Allocations.giveBack_of_live blockLive]
  rw [List.append_assoc]
  rfl

theorem freeaddrlist_segment {place last pointer next : Option ℕ} {blocks : Allocations}
    (segment : Segment build.link place (owned.map Prod.fst) last)
    (names : ∀ element ∈ owned, build.canonname element.1 = some element.2)
    (starts : build.link place = some pointer) (stops : build.link last = some next)
    (nodup : (owned.flatMap blocksOf).Nodup)
    (live : ∀ block ∈ owned.flatMap blocksOf, blocks.Live block) (passes : ℕ) :
    build.freeaddrlist (owned.length + passes) pointer blocks =
      build.freeaddrlist passes next
        ⟨blocks.count, blocks.released ++ owned.flatMap releasesOf⟩ := by
  -- the induction is on the elements; those behind the first are live after it has been freed
  -- because no block occurs twice
  induction owned generalizing place pointer blocks with
  | nil =>
      obtain rfl : place = last := segment
      rw [starts] at stops
      rw [Option.some.inj stops, List.flatMap_nil, List.append_nil, List.length_nil, Nat.zero_add]
  | cons element owned ih =>
      rcases element with ⟨block, name⟩
      rcases segment.2.exists_link stops with ⟨following, linked⟩
      obtain rfl : some block = pointer := Option.some.inj (segment.1.symm.trans starts)
      rw [List.flatMap_cons] at nodup live
      rcases List.nodup_append.1 nodup with ⟨ownNodup, restNodup, disjoint⟩
      have distinct : block ∉ name := by
        intro isName
        exact (List.nodup_cons.1 ownNodup).1 (Option.mem_toList.2 isName)
      have first := @freeaddrlist_succ build block following name blocks linked
        (names _ List.mem_cons_self)
        (fun other member => live other (List.mem_append_left _ member)) distinct
          (owned.length + passes)
      rw [List.length_cons, Nat.add_right_comm, first, ih segment.2
        (fun element member => names element (List.mem_cons_of_mem _ member)) linked restNodup,
        List.flatMap_cons, List.append_assoc]
      intro other member
      rcases live other (List.mem_append_right _ member) with ⟨allocated, unreleased⟩
      refine ⟨allocated, fun released => ?_⟩
      rcases List.mem_append.1 released with before | own
      · exact unreleased before
      · exact disjoint other (mem_releasesOf_iff.1 own) other member rfl

section Owns

variable {pointer : Option ℕ}

theorem length_le_of_blocks (blocks : owned.flatMap blocksOf = List.range count) :
    owned.length ≤ count := by
  have sublist := (map_fst_sublist owned).length_le
  rwa [List.length_map, blocks, List.length_range] at sublist

theorem Owns.clean_eq (owns : build.Owns owned count) (less : count ≤ build.blocks.count)
    (stored : build.link build.pp = some pointer) :
    build.clean = build.freeaddrlist (build.blocks.count - owned.length) pointer
      ⟨build.blocks.count, owned.flatMap releasesOf⟩ := by
  rcases owns.segment.exists_link stored with ⟨out, isOut⟩
  have nodup : (owned.flatMap blocksOf).Nodup := owns.blocks ▸ List.nodup_range
  have live : ∀ block ∈ owned.flatMap blocksOf, build.blocks.Live block := by
    intro block member
    rw [owns.blocks, List.mem_range] at member
    refine ⟨Nat.lt_of_lt_of_le member less, ?_⟩
    rw [owns.unreleased]
    exact List.not_mem_nil
  have walk := freeaddrlist_segment owns.segment owns.names isOut stored nodup live
    (build.blocks.count - owned.length)
  have bound := length_le_of_blocks owns.blocks
  rw [Nat.add_sub_cancel' (bound.trans less), owns.unreleased, List.nil_append] at walk
  rw [clean, isOut, Option.bind_eq_bind, Option.bind_some, walk]

theorem Complete.cleansUp (complete : build.Complete owned) : build.CleansUp := by
  refine ⟨⟨build.blocks.count, owned.flatMap releasesOf⟩, ?_, ?_⟩
  · rw [complete.clean_eq le_rfl complete.ends]
    cases build.blocks.count - owned.length <;> rfl
  · rw [← complete.blocks]
    exact List.Perm.flatMap_left owned fun element _ => releasesOf_perm element

theorem Unfilled.not_cleansUp (unfilled : build.Unfilled owned block) : ¬build.CleansUp := by
  rintro ⟨after, cleaned, -⟩
  have less : block ≤ build.blocks.count := by
    rw [unfilled.count]
    exact Nat.le_succ _
  rw [unfilled.clean_eq less unfilled.linked] at cleaned
  cases passes : build.blocks.count - owned.length with
  | zero =>
      rw [passes, freeaddrlist] at cleaned
      cases cleaned
  | succ passes' =>
      rw [passes, freeaddrlist, unfilled.empty] at cleaned
      cases cleaned

end Owns

end Build

/-! ## Runs -/

section Run

variable {buf : List UInt8} {buflen bi : ℤ} {heap : Heap} {build final : Build}
  {owned : List (ℕ × Option ℕ)} {ret : ℤ}

/-- The decoder gets past a record: it has memory for the element, and the address ends before the
buffer does. -/
def Passes (buf : List UInt8) (buflen : ℤ) (heap : Heap) (i : ℕ) : Prop :=
  heap.node i ≠ none ∧ addressEnd buf (recordStart buf i) < buflen

theorem decodeElements_fails (short : buf.length < 2 ^ 31) (int : buflen < 2 ^ 31)
    (remaining : ℕ) {first : ℕ} (bound : recordStart buf first < 2 ^ 32)
    (complete : build.Complete owned)
    (fails : decodeElements buf buflen heap remaining first build
      (signed 32 (recordStart buf first)) = .ok (final, .error ret)) :
    ∃ i, first ≤ i ∧ i < first + remaining ∧
      (∀ j, first ≤ j → j < i → Passes buf buflen heap j) ∧
      (heap.node i = none ∧ (∃ later, final.Complete later) ∨
        heap.node i ≠ none ∧ ¬Passes buf buflen heap i ∧
          ∃ later block, final.Unfilled later block) := by
  induction remaining generalizing first build owned with
  | zero => cases fails
  | succ remaining ih =>
      have none : ∀ j, first ≤ j → j < first → Passes buf buflen heap j :=
        fun j least less => absurd less (Nat.not_lt.2 least)
      rw [decodeElements] at fails
      rcases Outcome.exists_of_bind_eq_ok fails with ⟨ending, runs, fails⟩
      rcases decodeElement_at short int bound runs with
        ⟨absent, rfl⟩ | ⟨present, cut, rfl⟩ | ⟨present, whole, decoded, behind, rfl⟩
      -- `*pp = NULL` ends the list
      · cases fails
        exact ⟨first, le_rfl, by omega, none,
          .inl ⟨Option.isSome_eq_false_iff.1 absent |> Option.isNone_iff_eq_none.1, owned,
            complete.assign⟩⟩
      · cases fails
        refine ⟨first, le_rfl, by omega, none, .inr ⟨Option.isSome_iff_ne_none.1 present, ?_,
          owned, _, complete.allocate⟩⟩
        exact fun passes => absurd passes.2 (Int.not_lt.2 cut)
      · rcases Outcome.exists_of_bind_eq_ok fails with ⟨⟨later, rest⟩, runs, fails⟩
        have less : addressEnd buf (recordStart buf first) < 2 ^ 31 := by omega
        have next : recordStart buf (first + 1) < 2 ^ 32 := by
          have name := aclenAt_lt buf (recordStart buf first)
          rw [recordStart]
          omega
        rcases rest with ret' | infos
        · cases fails
          rw [behind] at runs
          rcases ih next (complete.allocate.complete _) runs with ⟨i, least, upper, before, ends⟩
          refine ⟨i, by omega, by omega, fun j lower upper => ?_, ends⟩
          rcases Nat.eq_or_lt_of_le lower with rfl | later
          · exact ⟨Option.isSome_iff_ne_none.1 present, whole⟩
          · exact before j later upper
        · cases fails

/-- When the decoder fails, it cleans up what it has built exactly if the first record that it does
not get past is one without memory for the element: an overlong record has been linked and is not
filled. -/
theorem cleansUp_iff_no_memory {cnt : ℤ} (short : buf.length < 2 ^ 31) (int : buflen < 2 ^ 31)
    (fails : decodeList buf cnt buflen heap = .ok (build, .error ret)) :
    build.CleansUp ↔
      ∃ i : ℕ, i < cnt ∧ heap.node i = none ∧ ∀ j < i, Passes buf buflen heap j := by
  rw [decodeList, ← signed_recordStart_zero buf] at fails
  have zero : recordStart buf 0 < 2 ^ 32 := Nat.two_pow_pos 32
  rcases decodeElements_fails short int cnt.toNat zero Build.complete_start fails with
    ⟨i, -, less, before, ends⟩
  rcases ends with ⟨absent, later, complete⟩ | ⟨present, stops, later, block, unfilled⟩
  · refine iff_of_true complete.cleansUp ⟨i, by omega, absent, fun j lower => ?_⟩
    exact before j (Nat.zero_le _) lower
  · refine iff_of_false unfilled.not_cleansUp ?_
    rintro ⟨other, -, absent, passes⟩
    rcases Nat.lt_trichotomy i other with less | rfl | less
    · exact stops (passes i less)
    · exact present absent
    · exact (before other (Nat.zero_le _) less).1 absent

end Run

/-- The error of a run and the number of blocks that it has allocated. -/
def failure {α : Type} : Outcome (Build × Except ℤ α) → Option (ℤ × ℕ)
  | .ok (build, .error ret) => some (ret, build.blocks.count)
  | _ => none

theorem exists_of_failure {α : Type} {outcome : Outcome (Build × Except ℤ α)} {ret : ℤ} {count : ℕ}
    (fails : failure outcome = some (ret, count)) :
    ∃ build, outcome = .ok (build, .error ret) ∧ build.blocks.count = count := by
  rcases outcome with _ | code | ⟨build, code | value⟩
  · cases fails
  · cases fails
  · cases fails
    exact ⟨build, rfl, rfl⟩
  · cases fails

/-- There is memory for one element and its name. -/
def oneElement : Heap := ⟨fun i => if i = 0 then some ⟨true, true⟩ else none, fun _ => true⟩

/-- A record with an empty name, and the header of another one. -/
def namedRecord : List UInt8 := List.replicate 20 0 ++ [1, 0, 0, 0, 0] ++ List.replicate 20 0

theorem cleansUp_namedRecord : ∃ build,
    decodeList namedRecord 2 45 oneElement = .ok (build, .error (-rpcEnomem)) ∧
      build.blocks.count = 2 ∧ build.CleansUp := by
  have run : failure (decodeList namedRecord 2 45 oneElement) = some (-rpcEnomem, 2) := by
    decide +kernel
  rcases exists_of_failure run with ⟨build, fails, count⟩
  refine ⟨build, fails, count, (cleansUp_iff_no_memory (by decide) (by decide) fails).2
    ⟨1, by decide, rfl, fun j less => ?_⟩⟩
  obtain rfl : j = 0 := by omega
  exact ⟨by simp [oneElement], by decide⟩

/-- The buffer ends in front of the address and the name. -/
theorem not_cleansUp_cut_record :
    decodeList (List.replicate 24 0) 1 24 clearedHeap =
        .ok (Build.start.allocate, .error (-rpcEoverlong)) ∧
      ¬Build.start.allocate.CleansUp :=
  ⟨rfl, Build.complete_start.allocate.not_cleansUp⟩

end Mica.Rpc.Helper
