import Mica.Rpc.Server

/-!
# Bounds of arrays

Which lengths a handler gives to the operating system and to `memcpy`, and to
which array. A run stays in bounds if none of them goes beyond the declared size
of its array. After its call most handlers touch arrays only in ways that do not
depend on the request (`Program.Tame`), so that what is left is the length of
the call itself.
-/

namespace Mica.Rpc

open Errno Cells

def Event.access? : Event → Option Access
  | .access given => some given
  | _ => none

def accesses (events : List Event) : List Access := events.filterMap Event.access?

/-- All accesses of a run are in bounds. -/
def Program.InBounds {α : Type} (results : ℕ → OsResult) : Program α → State → Prop
  | .pure _, _ => True
  | .log _ _ next, state => next.InBounds results (state.tick (results state.clock))
  | .sys _ _ arrays next, state =>
      (∀ access ∈ arrays state.mem, access.InBounds) ∧
        (next (results state.clock)).InBounds results (state.tick (results state.clock))
  | .store field data next, state =>
      data.length ≤ field.size →
        next.InBounds results { state with mem := overwrite state.mem field data }
  | .copy dst src count next, state =>
      count ≤ dst.size ∧ count ≤ src.size ∧
        next.InBounds results
          { state with mem := overwrite state.mem dst (load state.mem src count) }
  | .peek read next, state => (next (read state.mem)).InBounds results state
  | .getErrno next, state => (next state.errno).InBounds results state
  | .setErrno value next, state => next.InBounds results { state with errno := value }
  | .send _ _ size next, state =>
      if proxyMaxBufLen < size then (next (-einval)).InBounds results state
      else (next (results state.clock).int).InBounds results (state.tick (results state.clock))
  | .enter _ next, state => next.InBounds results state
  | .fault, _ => True

theorem inBounds_run_iff {α : Type} {stack : ℕ → UInt8} {results : ℕ → OsResult}
    {program : Program α} : ∀ {state : State},
      (∀ access ∈ accesses (program.run stack results state), access.InBounds) ↔
        program.InBounds results state := by
  induction program with
  | pure value => simp [Program.run, accesses, Program.InBounds]
  | fault => simp [Program.run, accesses, Event.access?, Program.InBounds]
  | log format args next ih =>
      intro state
      exact ih
  | enter handler next ih =>
      intro state
      exact ih
  | peek read next ih =>
      intro state
      exact ih _
  | getErrno next ih =>
      intro state
      exact ih _
  | setErrno value next ih =>
      intro state
      exact ih
  | sys call args arrays next ih =>
      intro state
      have handed : accesses ((arrays state.mem).map Event.access) = arrays state.mem := by
        simp [accesses, List.filterMap_map, Function.comp_def, Event.access?]
      show (∀ access ∈ accesses (_ ++ _), _) ↔ _
      rw [accesses, List.filterMap_append, List.forall_mem_append]
      refine and_congr ?_ (ih _)
      show (∀ access ∈ accesses ((arrays state.mem).map Event.access), _) ↔ _
      rw [handed]
  | store field data next ih =>
      intro state
      by_cases fits : data.length ≤ field.size
      · simp only [Program.run, Program.InBounds, fits, if_true, true_imp_iff]
        exact ih
      · simp [Program.run, Program.InBounds, fits, accesses, Event.access?]
  | copy dst src count next ih =>
      intro state
      show (∀ access ∈ ⟨dst, 0, count⟩ :: ⟨src, 0, count⟩ :: accesses (ite _ _ _), _) ↔ _
      rw [List.forall_mem_cons, List.forall_mem_cons]
      simp only [Access.InBounds, Nat.zero_add]
      by_cases fits : count ≤ dst.size
      · rw [if_pos fits]
        exact and_congr Iff.rfl (and_congr Iff.rfl ih)
      · simp [fits, Program.InBounds]
  | send id status size next ih =>
      intro state
      simp only [Program.run, Program.InBounds]
      split
      · exact ih _
      · exact ih _

/-! ## Conforming results -/

/-- `sizeof(struct sockaddr_storage)`: no address is longer. -/
def sockaddrStorageSize : ℕ := 128

def Value.arraySize? : Value → Option ℕ
  | .array field => some field.size
  | _ => none

/-- What a call may store: into each array as many bytes as it was handed or, if it was handed the
array alone, as many as the array has; and as the length of an address what an address can have. -/
structure OsResult.Conforms (call : OsCall) (args : List Value) (arrays : List Access)
    (result : OsResult) : Prop where
  outs : ∀ pair ∈ result.outs.zip (arrays.map Access.length ++ args.filterMap Value.arraySize?),
    pair.1.length ≤ pair.2
  socklen : call ≠ .getsockopt → ∀ length ∈ result.socklen, length ≤ sockaddrStorageSize

/-- Every call of a run delivers a conforming result. -/
def Program.Conforms {α : Type} (results : ℕ → OsResult) : Program α → State → Prop
  | .pure _, _ => True
  | .log _ _ next, state => next.Conforms results (state.tick (results state.clock))
  | .sys call args arrays next, state =>
      (results state.clock).Conforms call (args state.mem) (arrays state.mem) ∧
        (next (results state.clock)).Conforms results (state.tick (results state.clock))
  | .store field data next, state =>
      data.length ≤ field.size →
        next.Conforms results { state with mem := overwrite state.mem field data }
  | .copy dst src count next, state =>
      count ≤ dst.size → next.Conforms results
        { state with mem := overwrite state.mem dst (load state.mem src count) }
  | .peek read next, state => (next (read state.mem)).Conforms results state
  | .getErrno next, state => (next state.errno).Conforms results state
  | .setErrno value next, state => next.Conforms results { state with errno := value }
  | .send _ _ size next, state =>
      if proxyMaxBufLen < size then (next (-einval)).Conforms results state
      else (next (results state.clock).int).Conforms results (state.tick (results state.clock))
  | .enter _ next, state => next.Conforms results state
  | .fault, _ => True

/-! ## Programs that are in bounds from every state -/

/-- Each access is in bounds whatever memory holds and the calls deliver. -/
def Program.Tame {α : Type} : Program α → Prop
  | .pure _ => True
  | .log _ _ next => next.Tame
  | .sys _ _ arrays next =>
      (∀ memory, ∀ access ∈ arrays memory, access.InBounds) ∧ ∀ result, (next result).Tame
  | .store _ _ next => next.Tame
  | .copy dst src count next => count ≤ dst.size ∧ count ≤ src.size ∧ next.Tame
  | .peek _ next => ∀ value, (next value).Tame
  | .getErrno next => ∀ value, (next value).Tame
  | .setErrno _ next => next.Tame
  | .send _ _ _ next => ∀ ret, (next ret).Tame
  | .enter _ next => next.Tame
  | .fault => True

theorem Program.Tame.inBounds {α : Type} {results : ℕ → OsResult} {program : Program α} :
    ∀ {state : State}, program.Tame → program.InBounds results state := by
  induction program with
  | pure value => exact fun _ => trivial
  | fault => exact fun _ => trivial
  | log format args next ih => exact fun tame => ih tame
  | enter handler next ih => exact fun tame => ih tame
  | setErrno value next ih => exact fun tame => ih tame
  | store field data next ih => exact fun tame _ => ih tame
  | peek read next ih => exact fun tame => ih _ (tame _)
  | getErrno next ih => exact fun tame => ih _ (tame _)
  | sys call args arrays next ih => exact fun tame => ⟨tame.1 _, ih _ (tame.2 _)⟩
  | copy dst src count next ih => exact fun tame => ⟨tame.1, tame.2.1, ih tame.2.2⟩
  | send id status size next ih =>
      intro state tame
      simp only [Program.InBounds]
      split
      · exact ih _ (tame _)
      · exact ih _ (tame _)

section Rules

variable {α : Type}

@[simp]
theorem tame_pure (value : α) : (pure value : Program α).Tame := trivial

@[simp]
theorem tame_answer (ret : ℤ) : (answer ret).Tame := trivial

@[simp]
theorem tame_ite {condition : Prop} [Decidable condition] {yes no : Program α} :
    (if condition then yes else no).Tame ↔ (condition → yes.Tame) ∧ (¬condition → no.Tame) := by
  by_cases holds : condition <;> simp [holds]

@[simp]
theorem tame_lprintf (entry : Line) (next : Unit → Program α) :
    (lprintf entry >>= next).Tame ↔ (next ()).Tame := Iff.rfl

@[simp]
theorem tame_errno (next : ℤ → Program α) :
    (errno >>= next).Tame ↔ ∀ value, (next value).Tame := Iff.rfl

@[simp]
theorem tame_peek (read : Mem → ℤ) (next : ℤ → Program α) :
    (peek read >>= next).Tame ↔ ∀ value, (next value).Tame := Iff.rfl

@[simp]
theorem tame_peekNat (field : Field) (next : ℕ → Program α) :
    (peekNat field >>= next).Tame ↔ ∀ value : ℤ, (next value.toNat).Tame := Iff.rfl

@[simp]
theorem tame_test (condition : Mem → Bool) (next : Bool → Program α) :
    (test condition >>= next).Tame ↔ ∀ value : ℤ, (next (value = 1)).Tame := Iff.rfl

@[simp]
theorem tame_store (field : Field) (data : List UInt8) (next : Unit → Program α) :
    (store field data >>= next).Tame ↔ (next ()).Tame := Iff.rfl

@[simp]
theorem tame_storeInt (field : Field) (value : ℤ) (next : Unit → Program α) :
    (storeInt field value >>= next).Tame ↔ (next ()).Tame := Iff.rfl

@[simp]
theorem tame_memcpy (dst src : Field) (count : ℕ) (next : Unit → Program α) :
    (memcpy dst src count >>= next).Tame ↔
      count ≤ dst.size ∧ count ≤ src.size ∧ (next ()).Tame := Iff.rfl

theorem tame_assign {dst src : Field} (sameSize : dst.size = src.size) (next : Unit → Program α) :
    (assign dst src >>= next).Tame ↔ (next ()).Tame := by
  simp [assign, sameSize]

@[simp]
theorem tame_setRspBase (next : Unit → Program α) :
    (setRspBase >>= next).Tame ↔ (next ()).Tame := by
  simp (disch := decide) only [setRspBase, bind_assoc, tame_assign, tame_errno, tame_storeInt]
  exact ⟨fun rest => rest 0, fun rest _ => rest⟩

@[simp]
theorem tame_rpcServerSend (id : ℕ) (status : Status) (size : ℕ) (next : ℤ → Program α) :
    (rpcServerSend id status size >>= next).Tame ↔ ∀ ret, (next ret).Tame := Iff.rfl

theorem tame_storeOuts (fields : List Field) (outs : List (List UInt8)) (next : Unit → Program α) :
    (storeOuts fields outs >>= next).Tame ↔ (next ()).Tame := by
  induction fields generalizing outs with
  | nil => rfl
  | cons field fields ih =>
      cases outs with
      | nil => rfl
      | cons out outs => exact ih outs

theorem tame_storeSocklen (field : Option Field) (length : Option ℕ) (next : Unit → Program α) :
    (storeSocklen field length >>= next).Tame ↔ (next ()).Tame := by
  cases field <;> cases length <;> rfl

theorem tame_stores (operation : Operation) (result : OsResult) (next : Program α) :
    (do
      storeOuts operation.outs result.outs
      storeSocklen operation.socklen result.socklen
      next).Tame ↔ next.Tame := by
  rw [tame_storeOuts, tame_storeSocklen]

theorem tame_perform {operation : Operation}
    (bounded : ∀ array ∈ operation.arrays, ∀ memory, (array memory).InBounds)
    (next : OsResult → Program α) :
    (perform operation >>= next).Tame ↔ ∀ result, (next result).Tame := by
  rw [perform_bind]
  constructor
  · exact fun tame result => (tame_stores operation result _).mp (tame.2 result)
  · intro rest
    refine ⟨?_, fun result => (tame_stores operation result _).mpr (rest result)⟩
    intro memory access member
    obtain ⟨array, listed, rfl⟩ := List.mem_map.mp member
    exact bounded array listed memory

theorem tame_perform_arrays {arrays : List (Mem → Access)}
    (bounded : ∀ array ∈ arrays, ∀ memory, (array memory).InBounds) (function : OsCall)
    (args : List (Mem → Value)) (outs : List Field) (socklen : Option Field)
    (next : OsResult → Program α) :
    (perform { function, args, arrays, outs, socklen } >>= next).Tame ↔
      ∀ result, (next result).Tame :=
  tame_perform bounded next

@[simp]
theorem tame_perform_plain (function : OsCall) (args : List (Mem → Value)) (outs : List Field)
    (socklen : Option Field) (next : OsResult → Program α) :
    (perform { function, args, outs, socklen } >>= next).Tame ↔
      ∀ result, (next result).Tame :=
  tame_perform (by simp) next

@[simp]
theorem tame_lerror (ret errnum : ℤ) (next : Unit → Program α) :
    (lerror ret errnum >>= next).Tame ↔ (next ()).Tame := by
  by_cases negative : ret < 0
  · simp only [lerror, negative, if_true, bind_assoc, tame_perform_plain, tame_lprintf]
    exact ⟨fun rest => rest {}, fun rest _ => rest⟩
  · simp [lerror, negative]

end Rules

/-! ## The lengths of the calls -/

section Calls

variable {α : Type} {results : ℕ → OsResult} {state : State}

theorem inBounds_bytesOf {array : Field} {length : Mem → ℕ} {memory : Mem} :
    (bytesOf array length memory).InBounds ↔ length memory ≤ array.size := by
  simp [bytesOf, Access.InBounds]

theorem inBounds_lprintf (entry : Line) (next : Unit → Program α) :
    (lprintf entry >>= next).InBounds results state ↔
      (next ()).InBounds results (state.tick (results state.clock)) := Iff.rfl

theorem inBounds_test (condition : Mem → Bool) (next : Bool → Program α) :
    (test condition >>= next).InBounds results state ↔
      (next (condition state.mem)).InBounds results state := by
  show (next (decide ((if condition state.mem then (1 : ℤ) else 0) = 1))).InBounds _ _ ↔ _
  cases condition state.mem <;> rfl

theorem inBounds_zeroResp (size : ℕ) (next : Unit → Program α) :
    (zeroResp size >>= next).InBounds results state ↔ (next ()).InBounds results
      { state with mem := overwrite state.mem (respField 0 size) (List.replicate size 0) } := by
  have fits : (List.replicate size (0 : UInt8)).length ≤ (respField 0 size).size := by
    simp [respField]
  exact ⟨fun inBounds => inBounds fits, fun inBounds _ => inBounds⟩

theorem inBounds_storeInt (field : Field) (value : ℤ) (next : Unit → Program α) :
    (storeInt field value >>= next).InBounds results state ↔ (next ()).InBounds results
      { state with mem :=
          overwrite state.mem field (LittleEndian.intBytes field.size value) } := by
  have fits := (LittleEndian.length_intBytes field.size value).le
  exact ⟨fun inBounds => inBounds fits, fun inBounds _ => inBounds⟩

theorem inBounds_perform_iff (operation : Operation) (next : OsResult → Program α) :
    (perform operation >>= next).InBounds results state ↔
      (∀ array ∈ operation.arrays, (array state.mem).InBounds) ∧
        (do
          storeOuts operation.outs (results state.clock).outs
          storeSocklen operation.socklen (results state.clock).socklen
          next (results state.clock)).InBounds results (state.tick (results state.clock)) := by
  rw [perform_bind]
  exact and_congr List.forall_mem_map Iff.rfl

theorem inBounds_perform {operation : Operation} {next : OsResult → Program α}
    (tame : ∀ result, (next result).Tame) :
    (perform operation >>= next).InBounds results state ↔
      ∀ array ∈ operation.arrays, (array state.mem).InBounds := by
  rw [inBounds_perform_iff]
  exact and_iff_left ((tame_stores operation _ _).mpr (tame _)).inBounds

/-! ## Lengths that are read again after a call

Some handlers read a length after the call that it was given to. `Program.Decides` is a judgement
for them: from a state whose memory satisfies `P`, a run with conforming results is in bounds
exactly if `Q` holds. -/

def Program.Decides (results : ℕ → OsResult) (P : Mem → Prop) (Q : Prop) (program : Program α) :
    Prop :=
  ∀ state, P state.mem → program.Conforms results state → (program.InBounds results state ↔ Q)

/-- Stores to the field do not make `P` false. -/
def Keeps (P : Mem → Prop) (field : Field) : Prop :=
  ∀ memory data, data.length ≤ field.size → P memory → P (overwrite memory field data)

theorem keeps_of_apart {field other : Field} (apart : field.Apart other) (R : ℕ → Prop) :
    Keeps (fun memory => R (field.nat memory)) other := by
  intro memory data fits holds
  simpa [Extent.nat_overwrite_of_apart apart fits] using holds

variable {P : Mem → Prop} {Q : Prop}

theorem Program.Decides.mono {P' : Mem → Prop} {program : Program α}
    (decides : program.Decides results P Q) (weaker : ∀ memory, P' memory → P memory) :
    program.Decides results P' Q :=
  fun state holds => decides state (weaker _ holds)

theorem decides_of_tame {program : Program α} (tame : program.Tame) (holds : Q) :
    program.Decides results P Q := fun _ _ _ => iff_of_true tame.inBounds holds

theorem decides_lprintf {entry : Line} {next : Unit → Program α}
    (rest : (next ()).Decides results P Q) : (lprintf entry >>= next).Decides results P Q :=
  fun _ holds conforms => rest _ holds conforms

theorem decides_errno {next : ℤ → Program α} (rest : ∀ value, (next value).Decides results P Q) :
    (errno >>= next).Decides results P Q :=
  fun _ holds conforms => rest _ _ holds conforms

theorem decides_peekNat {field : Field} {next : ℕ → Program α}
    (rest : ∀ value, (next value).Decides results
      (fun memory => P memory ∧ field.nat memory = value) Q) :
    (peekNat field >>= next).Decides results P Q :=
  fun state holds conforms => rest (field.nat state.mem) state ⟨holds, rfl⟩ conforms

theorem decides_test {condition : Mem → Bool} {next : Bool → Program α}
    (rest : ∀ value, (next value).Decides results
      (fun memory => P memory ∧ condition memory = value) Q) :
    (test condition >>= next).Decides results P Q := by
  intro state holds conforms
  have same : (test condition >>= next).Conforms results state ↔
      (next (condition state.mem)).Conforms results state := by
    show (next (decide ((if condition state.mem then (1 : ℤ) else 0) = 1))).Conforms _ _ ↔ _
    cases condition state.mem <;> rfl
  rw [inBounds_test]
  exact rest _ state ⟨holds, rfl⟩ (same.mp conforms)

theorem decides_store {field : Field} {data : List UInt8} {next : Unit → Program α}
    (fits : data.length ≤ field.size) (keeps : Keeps P field)
    (rest : (next ()).Decides results P Q) : (store field data >>= next).Decides results P Q := by
  intro state holds conforms
  have after := rest _ (keeps state.mem data fits holds) (conforms fits)
  exact ⟨fun inBounds => after.mp (inBounds fits), fun holds _ => after.mpr holds⟩

theorem decides_storeInt {field : Field} {value : ℤ} {next : Unit → Program α}
    (keeps : Keeps P field) (rest : (next ()).Decides results P Q) :
    (storeInt field value >>= next).Decides results P Q :=
  decides_store (LittleEndian.length_intBytes _ _).le keeps rest

theorem decides_assign {dst src : Field} {next : Unit → Program α} (keeps : Keeps P dst)
    (sameSize : dst.size = src.size) (rest : (next ()).Decides results P Q) :
    (assign dst src >>= next).Decides results P Q := by
  intro state holds conforms
  have after := rest _ (keeps state.mem (load state.mem src dst.size) (length_load _ _ _).le holds)
    (conforms le_rfl)
  exact ⟨fun inBounds => after.mp inBounds.2.2,
    fun holds => ⟨le_rfl, sameSize.le, after.mpr holds⟩⟩

theorem decides_setRspBase {next : Unit → Program α} (keepsTrace : Keeps P respTraceId)
    (keepsErrnum : Keeps P respErrnum) (rest : (next ()).Decides results P Q) :
    (setRspBase >>= next).Decides results P Q := by
  simp only [setRspBase, bind_assoc]
  refine decides_assign keepsTrace rfl (decides_errno fun value => decides_storeInt keepsErrnum ?_)
  exact fun _ holds conforms => rest _ holds conforms

theorem decides_lerror {ret errnum : ℤ} {next : Unit → Program α}
    (rest : (next ()).Decides results P Q) : (lerror ret errnum >>= next).Decides results P Q := by
  unfold lerror
  split
  · intro state holds conforms
    have after := rest ((state.tick _).tick _) holds conforms.2
    have noArrays : ∀ access ∈ ([] : List Access), access.InBounds := by simp
    exact ⟨fun inBounds => after.mp inBounds.2, fun holds => ⟨noArrays, after.mpr holds⟩⟩
  · exact rest

theorem decides_memcpy {dst src : Field} {count : ℕ} {next : Unit → Program α}
    (decided : ∀ memory, P memory → (count ≤ dst.size ∧ count ≤ src.size ↔ Q))
    (tame : (next ()).Tame) : (memcpy dst src count >>= next).Decides results P Q := by
  intro state holds _
  rw [← decided _ holds]
  exact ⟨fun inBounds => ⟨inBounds.1, inBounds.2.1⟩,
    fun bounds => ⟨bounds.1, bounds.2, tame.inBounds⟩⟩

theorem decides_storeOuts {next : Unit → Program α} (rest : (next ()).Decides results P Q) :
    ∀ {fields : List Field} {outs : List (List UInt8)}, (∀ field ∈ fields, Keeps P field) →
      (∀ pair ∈ outs.zip fields, pair.1.length ≤ pair.2.size) →
        (storeOuts fields outs >>= next).Decides results P Q
  | [], _, _, _ => rest
  | _ :: _, [], _, _ => rest
  | field :: fields, out :: outs, keeps, fits => by
      rw [storeOuts, bind_assoc]
      rw [List.zip_cons_cons, List.forall_mem_cons] at fits
      rw [List.forall_mem_cons] at keeps
      exact decides_store fits.1 keeps.1 (decides_storeOuts rest keeps.2 fits.2)

theorem decides_perform {operation : Operation} {next : OsResult → Program α}
    (bounded : ∀ memory, P memory → ∀ array ∈ operation.arrays, (array memory).InBounds)
    (keeps : ∀ field ∈ operation.outs, Keeps P field)
    (fits : ∀ memory (result : OsResult), P memory → result.Conforms operation.function
      (operation.args.map (· memory)) (operation.arrays.map (· memory)) →
        ∀ pair ∈ result.outs.zip operation.outs, pair.1.length ≤ pair.2.size)
    (socklen : ∀ memory length, P memory → length ≤ sockaddrStorageSize →
      ∀ field ∈ operation.socklen,
        P (overwrite memory field (LittleEndian.bytes field.size length)))
    (notSockopt : operation.function ≠ .getsockopt)
    (rest : ∀ result, (next result).Decides results P Q) :
    (perform operation >>= next).Decides results P Q := by
  intro state holds conforms
  rw [inBounds_perform_iff, and_iff_right (bounded _ holds)]
  rw [perform_bind] at conforms
  refine decides_storeOuts ?_ keeps (fits _ _ holds conforms.1) _ holds conforms.2
  have short := conforms.1.socklen notSockopt
  cases target : operation.socklen with
  | none => exact rest _
  | some field =>
      cases given : (results state.clock).socklen with
      | none => exact rest _
      | some length =>
          have stored (memory : Mem) (holds : P memory) :=
            socklen memory length holds (short length given) field target
          intro after holds conforms
          have fitsField := (LittleEndian.length_bytes field.size length).le
          have last := rest _ _ (stored _ holds) (conforms fitsField)
          exact ⟨fun inBounds => last.mp (inBounds fitsField), fun holds _ => last.mpr holds⟩

-- the handlers are programs over numerals, which unfolding would run through
attribute [irreducible] Program.InBounds

variable {id : ℕ} {operation : Operation}

theorem inBounds_commonHandler (enter : Line) (leave sent : ℤ → Line) :
    (commonHandler id enter operation leave sent).InBounds results state ↔
      ∀ array ∈ operation.arrays, (array state.mem).InBounds := by
  rw [commonHandler, inBounds_lprintf, inBounds_perform (by simp)]
  rfl

theorem inBounds_sizeHandler (enter : Line) (leave : ℤ → Line) (reported : OsResult → ℤ)
    (sent : ℤ → Line) :
    (sizeHandler id enter operation leave reported sent).InBounds results state ↔
      ∀ array ∈ operation.arrays, (array state.mem).InBounds := by
  rw [sizeHandler, inBounds_lprintf, inBounds_perform (by simp)]
  rfl

theorem inBounds_transferHandler (enter : Line) (leave : ℤ → Line) (reported : OsResult → ℤ)
    (sent : ℤ → Line) :
    (transferHandler id enter operation leave reported sent).InBounds results state ↔
      ∀ array ∈ operation.arrays, (array state.mem).InBounds := by
  rw [transferHandler, inBounds_lprintf, inBounds_perform (by simp)]
  rfl

theorem inBounds_read : rpmsgHandleRead.InBounds results state ↔
    ReadReq.fd.int state.mem = 0 ∨ ReadReq.count.nat state.mem ≤ maxStringLen := by
  rw [rpmsgHandleRead, inBounds_transferHandler, List.forall_mem_singleton, inBounds_bytesOf]
  show readLength state.mem ≤ maxStringLen ↔ _
  by_cases standardInput : ReadReq.fd.int state.mem = 0
  · simp only [readLength, standardInput, if_true, le_refl, true_or]
  · simp only [readLength, standardInput, if_false, false_or]

theorem inBounds_recv : rpmsgHandleRecv.InBounds results state ↔
    RecvReq.len.nat state.mem ≤ maxStringLen := by
  rw [rpmsgHandleRecv, inBounds_transferHandler, List.forall_mem_singleton, inBounds_bytesOf]
  rfl

theorem inBounds_readlink : rpmsgHandleReadlink.InBounds results state := by
  rw [rpmsgHandleReadlink, inBounds_transferHandler, List.forall_mem_singleton, inBounds_bytesOf]
  exact Nat.min_le_left _ _

theorem inBounds_write : rpmsgHandleWrite.InBounds results state ↔
    WriteReq.count.nat state.mem ≤ maxStringLen := by
  rw [rpmsgHandleWrite, inBounds_sizeHandler, List.forall_mem_singleton, inBounds_bytesOf]
  rfl

theorem inBounds_send : rpmsgHandleSend.InBounds results state ↔
    SendReq.len.nat state.mem ≤ maxSbufLen := by
  rw [rpmsgHandleSend, inBounds_sizeHandler, List.forall_mem_singleton, inBounds_bytesOf]
  rfl

theorem inBounds_sendto : rpmsgHandleSendto.InBounds results state ↔
    SendtoReq.addrlen.nat state.mem + SendtoReq.len.nat state.mem ≤ maxSbufLen := by
  rw [rpmsgHandleSendto, inBounds_sizeHandler, List.forall_mem_cons, List.forall_mem_singleton,
    inBounds_bytesOf]
  constructor
  · exact fun both => both.1
  · exact fun sum => ⟨sum, (Nat.le_add_right _ _).trans sum⟩

theorem inBounds_setsockopt : rpmsgHandleSetsockopt.InBounds results state ↔
    SetsockoptReq.optlen.nat state.mem ≤ maxStringLen := by
  rw [rpmsgHandleSetsockopt, inBounds_commonHandler, List.forall_mem_singleton, inBounds_bytesOf]
  rfl

theorem inBounds_getsockopt : rpmsgHandleGetsockopt.InBounds results state ↔
    GetsockoptReq.optlen.nat state.mem ≤ maxSbufLen := by
  rw [rpmsgHandleGetsockopt, inBounds_lprintf,
    inBounds_perform (by simp (disch := decide) [tame_assign]), List.forall_mem_singleton,
    inBounds_bytesOf]
  rfl

theorem nat_zeroResp {field : Field} (isReq : field.region = .req) (memory : Mem) (size : ℕ) :
    field.nat (overwrite memory (respField 0 size) (List.replicate size 0)) = field.nat memory :=
  Extent.nat_overwrite_of_apart (Or.inl (by simp [isReq, respField])) (by simp [respField])

theorem inBounds_fread : rpmsgHandleFread.InBounds results state ↔
    FreadReq.size.nat state.mem * FreadReq.count.nat state.mem ≤ maxStringLen := by
  rw [rpmsgHandleFread, inBounds_zeroResp, inBounds_lprintf, inBounds_perform (by simp),
    List.forall_mem_singleton, inBounds_bytesOf]
  simp only [State.tick, nat_zeroResp (show FreadReq.size.region = .req from rfl),
    nat_zeroResp (show FreadReq.count.region = .req from rfl)]
  rfl

theorem inBounds_fwrite : rpmsgHandleFwrite.InBounds results state ↔
    FwriteReq.size.nat state.mem * FwriteReq.count.nat state.mem ≤ maxStringLen := by
  rw [rpmsgHandleFwrite, inBounds_zeroResp, inBounds_lprintf, inBounds_perform (by simp),
    List.forall_mem_singleton, inBounds_bytesOf]
  simp only [State.tick, nat_zeroResp (show FwriteReq.size.region = .req from rfl),
    nat_zeroResp (show FwriteReq.count.region = .req from rfl)]
  rfl

theorem inBounds_fgets : rpmsgHandleFgets.InBounds results state ↔
    FgetsReq.size.int state.mem ≤ maxStringLen := by
  rw [rpmsgHandleFgets, inBounds_zeroResp, inBounds_lprintf, inBounds_perform (by simp),
    List.forall_mem_singleton, inBounds_bytesOf]
  simp only [State.tick, Extent.int, nat_zeroResp (show FgetsReq.size.region = .req from rfl)]
  exact Int.toNat_le

theorem toNat_emod_le_iff (memory : Mem) {field : Field} (isInt : field.size = 4) {size : ℕ}
    (small : size < 2 ^ 32) :
    (field.int memory % 2 ^ 64).toNat ≤ size ↔ 0 ≤ field.int memory ∧ field.int memory ≤ size := by
  have low := Int.le_bmod (x := field.nat memory) (m := 256 ^ 4) (by decide)
  have high := Int.bmod_lt (x := field.nat memory) (m := 256 ^ 4) (by decide)
  rw [Extent.int, isInt]
  omega

theorem tame_rpcWrite {array len : Field} {next : ℤ → Program α}
    (tame : ∀ ret, (next ret).Tame) :
    (rpcWrite array (clampedLength array len) >>= next).Tame := by
  have bounded : ∀ given ∈ [bytesOf array (clampedLength array len)],
      ∀ memory, (given memory).InBounds := by
    intro given member memory
    rw [List.mem_singleton.mp member, inBounds_bytesOf]
    exact Nat.min_le_left _ _
  rw [rpcWrite, bind_assoc, tame_perform bounded]
  simp [tame]

theorem inBounds_fprintf : rpmsgHandleFprintf.InBounds results state ↔
    isPtyFd (FprintfReq.fhandle.nat state.mem) ∨
      0 ≤ FprintfReq.len.int state.mem ∧ FprintfReq.len.int state.mem ≤ maxStringLen := by
  rw [rpmsgHandleFprintf, inBounds_test]
  by_cases isPty : isPtyFd (FprintfReq.fhandle.nat state.mem)
  · rw [if_pos isPty]
    exact iff_of_true (tame_rpcWrite (by simp)).inBounds (Or.inl isPty)
  · rw [if_neg isPty, inBounds_perform (by simp), List.forall_mem_singleton, inBounds_bytesOf,
      or_iff_right isPty]
    exact toNat_emod_le_iff state.mem (show FprintfReq.len.size = 4 from rfl)
      (show FprintfReq.buf.size < 2 ^ 32 by decide)

theorem inBounds_getcwd : rpmsgHandleGetcwd.InBounds results state := by
  rw [rpmsgHandleGetcwd, inBounds_test]
  by_cases tooLarge : getcwdRejects state.mem
  · rw [if_pos tooLarge]
    exact (tame_pure _).inBounds
  · rw [if_neg tooLarge, getcwdAccepted, inBounds_lprintf,
      inBounds_perform (by simp [getcwdReply]), List.forall_mem_singleton, inBounds_bytesOf]
    simpa [getcwdRejects] using tooLarge

theorem inBounds_getdents64 : rpmsgHandleGetdents64.InBounds results state := by
  have bounded : ∀ array ∈ [bytesOf Getdents64Resp.buf getdents64Length],
      ∀ memory, (array memory).InBounds := by
    intro array member memory
    rw [List.mem_singleton.mp member, inBounds_bytesOf]
    exact Nat.min_le_right _ _
  have reply (ret : ℤ) : (getdents64Reply ret).Tame := by simp [getdents64Reply]
  have call (off : ℤ) : (getdents64From off).Tame := by
    simp [getdents64From, reply, tame_perform_arrays bounded]
  apply Program.Tame.inBounds
  simp [rpmsgHandleGetdents64, call]

theorem inBounds_gethostnameCall (short : GethostnameReq.len.nat state.mem ≤ maxStringLen) :
    gethostnameCall.InBounds results state := by
  have reply (ret len : ℤ) : (gethostnameReply ret len).Tame := by simp [gethostnameReply]
  rw [gethostnameCall, inBounds_perform, List.forall_mem_singleton, inBounds_bytesOf]
  · exact short
  · simp only [tame_lprintf, tame_errno, tame_lerror, tame_ite, tame_peek, reply, implies_true,
      and_self]

theorem inBounds_gethostname : rpmsgHandleGethostname.InBounds results state := by
  rw [rpmsgHandleGethostname, inBounds_lprintf, inBounds_test]
  by_cases tooLong : maxStringLen < GethostnameReq.len.nat (state.tick (results state.clock)).mem
  · rw [if_pos (decide_eq_true tooLong), inBounds_storeInt]
    apply inBounds_gethostnameCall
    exact (Extent.nat_overwrite_bytes _ _ _).le
  · rw [if_neg fun holds => tooLong (of_decide_eq_true holds)]
    exact inBounds_gethostnameCall (Nat.le_of_not_lt tooLong)

/-! The length of an address, which the call may shorten -/

theorem keeps_addrlen {addrlen other : Field} (apart : addrlen.Apart other) :
    Keeps (fun memory => addrlen.nat memory ≤ maxSbufLen) other :=
  keeps_of_apart apart (· ≤ maxSbufLen)

theorem addrlen_overwrite_le {addrlen : Field} {length : ℕ} (short : length ≤ sockaddrStorageSize)
    (memory : Mem) :
    addrlen.nat (overwrite memory addrlen (LittleEndian.bytes addrlen.size length)) ≤
      maxSbufLen := by
  rw [Extent.nat_overwrite_bytes]
  exact (Nat.mod_le _ _).trans (short.trans (by decide))

theorem zip_fits {extra : List ℕ} {arrays : List Access} {fields : List Field}
    (within : List.Forall₂ (fun array field => array.length ≤ field.size) arrays fields) :
    ∀ {outs : List (List UInt8)},
      (∀ pair ∈ outs.zip (arrays.map Access.length ++ extra), pair.1.length ≤ pair.2) →
        ∀ pair ∈ outs.zip fields, pair.1.length ≤ pair.2.size := by
  induction within with
  | nil => simp
  | cons short within ih =>
      intro outs stored
      cases outs with
      | nil => simp
      | cons out outs =>
          simp only [List.map_cons, List.cons_append, List.zip_cons_cons,
            List.forall_mem_cons] at stored
          rw [List.zip_cons_cons, List.forall_mem_cons]
          exact ⟨stored.1.trans short, ih stored.2⟩

theorem outs_fit {call : OsCall} {args : List Value} {arrays : List Access} {fields : List Field}
    {result : OsResult} (conforms : result.Conforms call args arrays)
    (within : List.Forall₂ (fun array field => array.length ≤ field.size) arrays fields) :
    ∀ pair ∈ result.outs.zip fields, pair.1.length ≤ pair.2.size :=
  zip_fits within conforms.outs

theorem outs_fit_of_arg {call : OsCall} {args : List Value} {field : Field} {result : OsResult}
    (conforms : result.Conforms call args [])
    (given : args.filterMap Value.arraySize? = [field.size]) :
    ∀ pair ∈ result.outs.zip [field], pair.1.length ≤ pair.2.size := by
  have stored := conforms.outs
  rw [given] at stored
  cases outs : result.outs with
  | nil => simp
  | cons out rest =>
      rw [outs] at stored
      have first := stored (out, field.size) (by simp)
      simpa using first

theorem inBounds_nameHandler {function : OsCall} (notSockopt : function ≠ .getsockopt)
    (enter : Line) (leave sent : ℤ → Line)
    (conforms : (nameHandler id enter function leave sent).Conforms results state) :
    (nameHandler id enter function leave sent).InBounds results state ↔
      GetpeernameReq.addrlen.nat state.mem ≤ maxSbufLen := by
  have decided : (nameHandler id enter function leave sent).Decides results
      (fun memory => GetpeernameReq.addrlen.nat memory ≤ maxSbufLen) True := by
    refine decides_lprintf (decides_perform ?_ ?_ ?_ ?_ notSockopt fun result => ?_)
    · intro memory short array member
      rw [List.mem_singleton.mp member, inBounds_bytesOf]
      exact short
    · intro field member
      rw [List.mem_singleton.mp member]
      exact keeps_addrlen (by decide)
    · exact fun memory result short conforms => outs_fit conforms (.cons short .nil)
    · intro memory length _ short field isField
      cases isField
      exact addrlen_overwrite_le short memory
    · refine decides_lprintf (decides_errno fun value => decides_lerror (decides_storeInt
        (keeps_addrlen (by decide)) (decides_setRspBase (keeps_addrlen (by decide))
          (keeps_addrlen (by decide)) (decides_peekNat fun length => decides_memcpy ?_ ?_))))
      · rintro memory ⟨short, rfl⟩
        exact iff_of_true ⟨short, short⟩ trivial
      · simp (disch := decide) [tame_assign]
  constructor
  · intro inBounds
    rw [nameHandler, inBounds_lprintf, inBounds_perform_iff, List.forall_mem_singleton,
      inBounds_bytesOf] at inBounds
    exact inBounds.1
  · exact fun short => (decided state short conforms).mpr trivial

theorem inBounds_acceptHandler {function : OsCall} (notSockopt : function ≠ .getsockopt)
    {addrlen addrBuf : Field} (isReq : addrlen.region = .req) (lenSize : addrlen.size = 4)
    (bufSize : addrBuf.size = maxSbufLen) (apart : addrlen.Apart addrBuf) (enter : Line)
    (args : List (Mem → Value)) (leave sent : ℤ → Line)
    (conforms : (acceptHandler id enter function args addrlen addrBuf leave sent).Conforms
      results state) :
    (acceptHandler id enter function args addrlen addrBuf leave sent).InBounds results state ↔
      addrlen.nat state.mem ≤ maxSbufLen := by
  have keepsResp (off size : ℕ) :
      Keeps (fun memory => addrlen.nat memory ≤ maxSbufLen) (respField off size) :=
    keeps_addrlen (Or.inl (by simp [isReq, respField]))
  have rest (result : OsResult) :
      (acceptReply id addrlen addrBuf leave sent result).Decides results
        (fun memory => addrlen.nat memory ≤ maxSbufLen) True := by
    refine decides_lprintf (decides_errno fun value => decides_lerror (decides_storeInt
      (keepsResp _ _) (decides_setRspBase (keepsResp _ _) (keepsResp _ _) (decides_assign
        (keepsResp _ _) lenSize.symm (decides_peekNat fun length => decides_memcpy ?_ ?_)))))
    · rintro memory ⟨short, rfl⟩
      exact iff_of_true ⟨short, short.trans bufSize.symm.le⟩ trivial
    · simp
  constructor
  · intro inBounds
    rw [acceptHandler, inBounds_lprintf, inBounds_test] at inBounds
    by_cases present : 0 < addrlen.nat (state.tick (results state.clock)).mem
    · rw [if_pos (decide_eq_true present), inBounds_perform_iff, List.forall_mem_singleton,
        inBounds_bytesOf, bufSize] at inBounds
      exact inBounds.1
    · exact (Nat.eq_zero_of_not_pos present).le.trans (Nat.zero_le _)
  · intro short
    have decided : (acceptHandler id enter function args addrlen addrBuf leave sent).Decides
        results (fun memory => addrlen.nat memory ≤ maxSbufLen) True := by
      refine decides_lprintf (decides_test fun present => ?_)
      refine Program.Decides.mono ?_ fun memory both => both.1
      cases present with
      | true =>
          refine decides_perform ?_ ?_ ?_ ?_ notSockopt rest
          · intro memory short array member
            rw [List.mem_singleton.mp member, inBounds_bytesOf, bufSize]
            exact short
          · intro field member
            rw [List.mem_singleton.mp member]
            exact keeps_addrlen apart
          · exact fun memory result short conforms =>
              outs_fit conforms (.cons (short.trans bufSize.symm.le) .nil)
          · intro memory length _ short field isField
            cases isField
            exact addrlen_overwrite_le short memory
      | false => exact decides_perform (by simp) (by simp) (by simp) (by simp) notSockopt rest
    exact (decided state short conforms).mpr trivial

theorem inBounds_recvfrom (conforms : rpmsgHandleRecvfrom.Conforms results state) :
    rpmsgHandleRecvfrom.InBounds results state ↔
      RecvfromReq.addrlen.nat state.mem ≤ maxSbufLen := by
  have decided : rpmsgHandleRecvfrom.Decides results
      (fun memory => RecvfromReq.addrlen.nat memory ≤ maxSbufLen) True := by
    refine decides_lprintf (decides_perform ?_ ?_ ?_ ?_ (by decide) fun result => ?_)
    · intro memory short array member
      simp only [List.mem_cons, List.not_mem_nil, or_false] at member
      rcases member with rfl | rfl
      · exact inBounds_bytesOf.mpr (Nat.min_le_left _ _)
      · exact inBounds_bytesOf.mpr short
    · intro field member
      simp only [List.mem_cons, List.not_mem_nil, or_false] at member
      rcases member with rfl | rfl
      · exact keeps_addrlen (by decide)
      · exact keeps_addrlen (by decide)
    · intro memory result short conforms
      exact outs_fit conforms (.cons (Nat.min_le_left _ _) (.cons short .nil))
    · intro memory length _ short field isField
      cases isField
      exact addrlen_overwrite_le short memory
    · refine decides_lprintf (decides_errno fun value => decides_lerror (decides_storeInt
        (keeps_addrlen (by decide)) (decides_setRspBase (keeps_addrlen (by decide))
          (keeps_addrlen (by decide)) (decides_assign (keeps_addrlen (by decide)) rfl
            (decides_test fun tooLong => ?_)))))
      cases tooLong with
      | true => exact decides_of_tame (by simp) trivial
      | false =>
          refine decides_peekNat fun length => decides_memcpy ?_ (by simp)
          rintro memory ⟨⟨short, notLong⟩, rfl⟩
          exact iff_of_true ⟨Nat.le_of_not_lt (of_decide_eq_false notLong), short⟩ trivial
  constructor
  · intro inBounds
    rw [rpmsgHandleRecvfrom, inBounds_lprintf, inBounds_perform_iff, List.forall_mem_cons,
      List.forall_mem_singleton, inBounds_bytesOf, inBounds_bytesOf] at inBounds
    exact inBounds.1.2
  · exact fun short => (decided state short conforms).mpr trivial

theorem inBounds_poll (conforms : rpmsgHandlePoll.Conforms results state) :
    rpmsgHandlePoll.InBounds results state ↔ PollReq.nfds.nat state.mem ≤ maxPollFds := by
  have keeps {other : Field} (apart : PollReq.nfds.Apart other) :
      Keeps (fun memory => PollReq.nfds.nat memory ≤ maxPollFds) other :=
    keeps_of_apart apart (· ≤ maxPollFds)
  have scaled {nfds : ℕ} (few : nfds ≤ maxPollFds) : 8 * nfds ≤ 256 := by
    have limit : nfds ≤ 32 := few
    omega
  have decided : rpmsgHandlePoll.Decides results
      (fun memory => PollReq.nfds.nat memory ≤ maxPollFds) True := by
    refine decides_lprintf (decides_perform ?_ ?_ ?_ ?_ (by decide) fun result => ?_)
    · intro memory few array member
      rw [List.mem_singleton.mp member, inBounds_bytesOf]
      exact scaled few
    · intro field member
      rw [List.mem_singleton.mp member]
      exact keeps (by decide)
    · exact fun memory result few conforms => outs_fit conforms (.cons (scaled few) .nil)
    · exact fun _ _ _ _ field none => nomatch none
    · refine decides_lprintf (decides_errno fun value => decides_lerror (decides_storeInt
        (keeps (by decide)) (decides_setRspBase (keeps (by decide)) (keeps (by decide))
          (decides_peekNat fun nfds => decides_memcpy ?_ (by simp)))))
      rintro memory ⟨few, rfl⟩
      have short := (Nat.mod_le (8 * PollReq.nfds.nat memory) (2 ^ 64)).trans (scaled few)
      exact iff_of_true ⟨short, short⟩ trivial
  constructor
  · intro inBounds
    rw [rpmsgHandlePoll, inBounds_lprintf, inBounds_perform_iff, List.forall_mem_singleton,
      inBounds_bytesOf] at inBounds
    have bound : 8 * PollReq.nfds.nat state.mem ≤ 256 := inBounds.1
    show PollReq.nfds.nat state.mem ≤ 32
    omega
  · exact fun few => (decided state few conforms).mpr trivial

theorem inBounds_ioctl (conforms : rpmsgHandleIoctl.Conforms results state) :
    rpmsgHandleIoctl.InBounds results state ↔ IoctlReq.len.nat state.mem ≤ maxStringLen := by
  have keeps {other : Field} (apart : IoctlReq.len.Apart other) :
      Keeps (fun memory => IoctlReq.len.nat memory = IoctlReq.len.nat state.mem) other :=
    keeps_of_apart apart (· = IoctlReq.len.nat state.mem)
  refine (?_ : Program.Decides results
    (fun memory => IoctlReq.len.nat memory = IoctlReq.len.nat state.mem) _ _) state rfl conforms
  refine decides_lprintf (decides_perform (by simp) ?_ ?_ ?_ (by decide) fun result => ?_)
  · intro field member
    rw [List.mem_singleton.mp member]
    exact keeps (by decide)
  · exact fun memory result _ conforms => outs_fit_of_arg conforms rfl
  · exact fun _ _ _ _ field none => nomatch none
  · refine decides_lprintf (decides_errno fun value => decides_lerror (decides_storeInt
      (keeps (by decide)) (decides_assign (keeps (by decide)) rfl (decides_setRspBase
        (keeps (by decide)) (keeps (by decide)) (decides_peekNat fun len => ?_)))))
    by_cases positive : 0 < len
    · rw [if_pos positive]
      refine decides_memcpy ?_ (by simp)
      rintro memory ⟨same, rfl⟩
      rw [same]
      exact and_self_iff
    · rw [if_neg positive]
      rintro after ⟨same, rfl⟩ _
      have zero := Nat.eq_zero_of_not_pos positive
      refine iff_of_true (Program.Tame.inBounds (by simp)) ?_
      rw [← same, zero]
      exact Nat.zero_le _

end Calls

/-! ## All handlers of arrays -/

/-- The handlers that give a length of the request, or a length computed from it, to the operating
system or to `memcpy`. -/
def arrayHandlers : List Handler :=
  [.handleRead, .handleRecv, .handleRecvfrom, .handleFread, .handleFgets, .handleGetsockopt,
    .handleGetpeername, .handleGetsockname, .handleAccept, .handleAccept4, .handleIoctl,
    .handlePoll, .handleWrite, .handleSend, .handleSendto, .handleSetsockopt, .handleFwrite,
    .handleFprintf, .handleGetdents64, .handleGethostname, .handleGetcwd, .handleReadlink]

/-- The lengths in the request are within the arrays. `getdents64`, `gethostname`, `getcwd` and
`readlink` clamp or reject them. -/
def Handler.Fits (handler : Handler) (memory : Mem) : Prop :=
  match handler with
  | .handleRead => ReadReq.fd.int memory = 0 ∨ ReadReq.count.nat memory ≤ maxStringLen
  | .handleRecv => RecvReq.len.nat memory ≤ maxStringLen
  | .handleRecvfrom => RecvfromReq.addrlen.nat memory ≤ maxSbufLen
  | .handleFread => FreadReq.size.nat memory * FreadReq.count.nat memory ≤ maxStringLen
  | .handleFgets => FgetsReq.size.int memory ≤ maxStringLen
  | .handleGetsockopt => GetsockoptReq.optlen.nat memory ≤ maxSbufLen
  | .handleGetpeername | .handleGetsockname | .handleAccept =>
      GetpeernameReq.addrlen.nat memory ≤ maxSbufLen
  | .handleAccept4 => Accept4Req.addrlen.nat memory ≤ maxSbufLen
  | .handleIoctl => IoctlReq.len.nat memory ≤ maxStringLen
  | .handlePoll => PollReq.nfds.nat memory ≤ maxPollFds
  | .handleWrite => WriteReq.count.nat memory ≤ maxStringLen
  | .handleSend => SendReq.len.nat memory ≤ maxSbufLen
  | .handleSendto => SendtoReq.addrlen.nat memory + SendtoReq.len.nat memory ≤ maxSbufLen
  | .handleSetsockopt => SetsockoptReq.optlen.nat memory ≤ maxStringLen
  | .handleFwrite => FwriteReq.size.nat memory * FwriteReq.count.nat memory ≤ maxStringLen
  | .handleFprintf => isPtyFd (FprintfReq.fhandle.nat memory) ∨
      0 ≤ FprintfReq.len.int memory ∧ FprintfReq.len.int memory ≤ maxStringLen
  | _ => True

/-- Every length that a run of the handler gives to the operating system or to `memcpy` is within
the array it applies to. -/
def StaysInBounds (handler : Handler) (stack : ℕ → UInt8) (results : ℕ → OsResult) (state : State) :
    Prop :=
  ∀ access ∈ accesses (handler.body.run stack results state), access.InBounds

/-- In every run with conforming results, a handler stays within its arrays exactly if the lengths
in the request do. -/
theorem inBounds_iff_fits {handler : Handler} (listed : handler ∈ arrayHandlers)
    (stack : ℕ → UInt8) {results : ℕ → OsResult} {state : State}
    (conforms : handler.body.Conforms results state) :
    StaysInBounds handler stack results state ↔ handler.Fits state.mem := by
  rw [StaysInBounds, inBounds_run_iff]
  unfold Handler.body at conforms ⊢
  simp only [arrayHandlers, List.mem_cons, List.not_mem_nil, or_false] at listed
  rcases listed with rfl | rfl | rfl | rfl | rfl | rfl | rfl | rfl | rfl | rfl | rfl | rfl | rfl |
    rfl | rfl | rfl | rfl | rfl | rfl | rfl | rfl | rfl
  · exact inBounds_read
  · exact inBounds_recv
  · exact inBounds_recvfrom conforms
  · exact inBounds_fread
  · exact inBounds_fgets
  · exact inBounds_getsockopt
  · exact inBounds_nameHandler (by decide) _ _ _ conforms
  · exact inBounds_nameHandler (by decide) _ _ _ conforms
  · exact inBounds_acceptHandler (by decide) rfl rfl rfl (by decide) _ _ _ _ conforms
  · exact inBounds_acceptHandler (by decide) rfl rfl rfl (by decide) _ _ _ _ conforms
  · exact inBounds_ioctl conforms
  · exact inBounds_poll conforms
  · exact inBounds_write
  · exact inBounds_send
  · exact inBounds_sendto
  · exact inBounds_setsockopt
  · exact inBounds_fwrite
  · exact inBounds_fprintf
  · exact iff_of_true inBounds_getdents64 trivial
  · exact iff_of_true inBounds_gethostname trivial
  · exact iff_of_true inBounds_getcwd trivial
  · exact iff_of_true inBounds_readlink trivial

theorem conforms_of_silent {α : Type} {results : ℕ → OsResult}
    (noOuts : ∀ clock, (results clock).outs = [])
    (noLength : ∀ clock, (results clock).socklen = none)
    {program : Program α} : ∀ {state : State}, program.Conforms results state := by
  induction program with
  | pure value => exact trivial
  | fault => exact trivial
  | log format args next ih => exact ih
  | enter handler next ih => exact ih
  | setErrno value next ih => exact ih
  | store field data next ih => exact fun _ => ih
  | copy dst src count next ih => exact fun _ => ih
  | peek read next ih => exact ih _
  | getErrno next ih => exact ih _
  | sys call args arrays next ih =>
      intro state
      exact ⟨⟨by simp [noOuts], by simp [noLength]⟩, ih _⟩
  | send id status size next ih =>
      intro state
      simp only [Program.Conforms]
      split
      · exact ih _
      · exact ih _

/-- A request that is zero but for one field. -/
def requestWith (field : Field) (value : ℕ) : Mem :=
  overwrite (fun _ => 0) field (LittleEndian.bytes field.size value)

theorem staysInBounds_write :
    StaysInBounds .handleWrite (fun _ => 0) (fun _ => {})
      ⟨requestWith WriteReq.count 432, 0, 0⟩ := by
  have fits : Handler.handleWrite.Fits (requestWith WriteReq.count 432) :=
    (Extent.nat_overwrite_bytes _ _ _).le
  have conforms : Handler.handleWrite.body.Conforms (fun _ => {})
      ⟨requestWith WriteReq.count 432, 0, 0⟩ :=
    conforms_of_silent (fun _ => rfl) fun _ => rfl
  exact (inBounds_iff_fits (by decide) _ conforms).mpr fits

theorem not_staysInBounds_recv {stack : ℕ → UInt8} {results : ℕ → OsResult} {state : State}
    (long : maxStringLen < RecvReq.len.nat state.mem) :
    ¬StaysInBounds .handleRecv stack results state := by
  intro inBounds
  exact Nat.not_le_of_lt long (inBounds_recv.mp (inBounds_run_iff.mp inBounds))

/-- `recv` lets the operating system store 433 bytes into the array of 432. -/
theorem not_staysInBounds_recv_433 :
    ¬StaysInBounds .handleRecv (fun _ => 0) (fun _ => {}) ⟨requestWith RecvReq.len 433, 0, 0⟩ := by
  apply not_staysInBounds_recv
  rw [requestWith, Extent.nat_overwrite_bytes]
  decide

end Mica.Rpc
