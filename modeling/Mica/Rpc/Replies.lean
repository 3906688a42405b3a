import Mica.Rpc.Framing

/-!
# What a response reports

A handler calls the operating system, writes lines of the log around the call, and
fills in the response: `set_rsp_base` copies `errno` into it and clears `errno`,
and the result of the call goes to the field `ret`. `Program.Replies` is a
judgement about what the frames of a program have in these fields: `errno` as the
calls before `set_rsp_base` leave it, and a property of the last result of the
calls that the handler is for.
-/

namespace Mica.Rpc

open Cells

/-! ## Calls before the response is filled in -/

/-- A call that has been made; a write of the log has no `call`. -/
structure Made where
  call : Option OsCall
  result : OsResult

/-- The calls up to `set_rsp_base`, the only place where `errno` is assigned. -/
def Program.made {α : Type} (results : ℕ → OsResult) : Program α → State → List Made
  | pure _, _ => []
  | log _ _ next, state =>
      ⟨none, results state.clock⟩ :: next.made results (state.tick (results state.clock))
  | sys call _ _ next, state =>
      ⟨some call, results state.clock⟩ ::
        (next (results state.clock)).made results (state.tick (results state.clock))
  | store field data next, state =>
      if data.length ≤ field.size then
        next.made results { state with mem := overwrite state.mem field data }
      else []
  | copy dst src count next, state =>
      if count ≤ dst.size then
        next.made results { state with mem := overwrite state.mem dst (load state.mem src count) }
      else []
  | peek read next, state => (next (read state.mem)).made results state
  | getErrno next, state => (next state.errno).made results state
  | setErrno _ _, _ => []
  | send _ _ _ _, _ => []
  | enter _ next, state => next.made results state
  | fault, _ => []

/-- `errno` after some calls. -/
def errnoAfter (made : List Made) (errno : ℤ) : ℤ :=
  made.foldl (fun current call => call.result.errno.getD current) errno

/-- The call is one of the handler's own. -/
def Made.isOwn (own : List OsCall) (made : Made) : Bool := made.call.any own.contains

/-- The result of the last own call; `earlier` if there is none. -/
def ownResult (own : List OsCall) (earlier : Option OsResult) (made : List Made) :
    Option OsResult :=
  made.foldl (fun found call => bif call.isOwn own then some call.result else found) earlier

/-! ## Fields that a program leaves alone -/

/-- The program stores nothing into the fields of the response, and its frames contain them. -/
def Program.Spares {α : Type} (fields : List Field) : Program α → Prop
  | pure _ => True
  | log _ _ next => next.Spares fields
  | sys _ _ _ next => ∀ result, (next result).Spares fields
  | store field _ next => (∀ kept ∈ fields, kept.Apart field) ∧ next.Spares fields
  | copy dst _ count next =>
      count ≤ dst.size → (∀ kept ∈ fields, kept.Apart dst) ∧ next.Spares fields
  | peek _ next => ∀ value, (next value).Spares fields
  | getErrno next => ∀ value, (next value).Spares fields
  | setErrno _ next => next.Spares fields
  | send _ _ size next =>
      (∀ kept ∈ fields, kept.off + kept.size ≤ size) ∧ ∀ ret, (next ret).Spares fields
  | enter _ next => next.Spares fields
  | fault => True

/-- The fields have the same contents in both memories. -/
def Agree (fields : List Field) (memory memory' : Mem) : Prop :=
  ∀ kept ∈ fields, load memory' kept kept.size = load memory kept kept.size

theorem Agree.refl (fields : List Field) (memory : Mem) : Agree fields memory memory :=
  fun _ _ => rfl

theorem Agree.trans {fields : List Field} {memory memory' memory'' : Mem}
    (first : Agree fields memory memory') (second : Agree fields memory' memory'') :
    Agree fields memory memory'' :=
  fun kept listed => (second kept listed).trans (first kept listed)

theorem agree_overwrite {fields : List Field} {field : Field}
    (apart : ∀ kept ∈ fields, kept.Apart field) (memory : Mem) {data : List UInt8}
    (fits : data.length ≤ field.size) : Agree fields memory (overwrite memory field data) :=
  fun kept listed => load_overwrite_of_apart (apart kept listed) fits

theorem Program.Spares.agree {α : Type} {stack : ℕ → UInt8} {results : ℕ → OsResult}
    {fields : List Field} (inResp : ∀ kept ∈ fields, kept.region = .resp) {program : Program α}
    (state : State) (spares : program.Spares fields) :
    ∀ frame ∈ frames (program.run stack results state),
      Agree fields state.mem (asResponse frame.params) := by
  induction program generalizing state with
  | pure value => intro frame sent; cases sent
  | fault => intro frame sent; cases sent
  | log format args next ih => exact ih (state.tick _) spares
  | sys call args arrays next ih =>
      intro frame sent
      rw [frames_sys] at sent
      exact ih _ (state.tick _) (spares _) frame sent
  | store field data next ih =>
      intro frame sent
      simp only [run] at sent
      split at sent
      next fits => exact (agree_overwrite spares.1 _ fits).trans (ih _ spares.2 frame sent)
      next => cases sent
  | copy dst src count next ih =>
      intro frame sent
      by_cases fits : count ≤ dst.size
      · have copied : frame ∈ frames (next.run stack results
            { state with mem := overwrite state.mem dst (load state.mem src count) }) := by
          simp only [run, if_pos fits] at sent
          exact sent
        have length : (load state.mem src count).length ≤ dst.size :=
          (length_load _ _ _).le.trans fits
        exact (agree_overwrite (spares fits).1 _ length).trans (ih _ (spares fits).2 frame copied)
      · simp only [run, if_neg fits] at sent
        cases sent
  | peek read next ih => exact ih _ state (spares _)
  | getErrno next ih => exact ih _ state (spares _)
  | setErrno value next ih => exact ih { state with errno := value } spares
  | enter handler next ih => exact ih state spares
  | send id status size next ih =>
      intro frame sent
      simp only [run] at sent
      split at sent
      · exact ih _ state (spares.2 _) frame sent
      · rcases List.mem_cons.1 sent with rfl | later
        · intro kept listed
          exact load_asResponse (inResp kept listed) (spares.1 kept listed)
        · exact ih _ (state.tick _) (spares.2 _) frame later

/-! ### Rules -/

section Spares

variable {α : Type} {fields : List Field}

@[simp]
theorem spares_pure (value : α) : (pure value : Program α).Spares fields := trivial

@[simp]
theorem spares_answer (ret : ℤ) : (answer ret).Spares fields := trivial

@[simp]
theorem spares_ite {condition : Prop} [Decidable condition] {yes no : Program α} :
    (if condition then yes else no).Spares fields ↔
      (condition → yes.Spares fields) ∧ (¬condition → no.Spares fields) := by
  by_cases holds : condition <;> simp [holds]

@[simp]
theorem spares_lprintf (entry : Line) (next : Unit → Program α) :
    (lprintf entry >>= next).Spares fields ↔ (next ()).Spares fields := Iff.rfl

@[simp]
theorem spares_peekNat (field : Field) (next : ℕ → Program α) :
    (peekNat field >>= next).Spares fields ↔ ∀ value : ℤ, (next value.toNat).Spares fields :=
  Iff.rfl

@[simp]
theorem spares_test (condition : Mem → Bool) (next : Bool → Program α) :
    (test condition >>= next).Spares fields ↔ ∀ value : ℤ, (next (value = 1)).Spares fields :=
  Iff.rfl

@[simp]
theorem spares_storeInt (field : Field) (value : ℤ) (next : Unit → Program α) :
    (storeInt field value >>= next).Spares fields ↔
      (∀ kept ∈ fields, kept.Apart field) ∧ (next ()).Spares fields := Iff.rfl

@[simp]
theorem spares_store (field : Field) (data : List UInt8) (next : Unit → Program α) :
    (store field data >>= next).Spares fields ↔
      (∀ kept ∈ fields, kept.Apart field) ∧ (next ()).Spares fields := Iff.rfl

@[simp]
theorem spares_memcpy (dst src : Field) (count : ℕ) (next : Unit → Program α) :
    (memcpy dst src count >>= next).Spares fields ↔
      (count ≤ dst.size → (∀ kept ∈ fields, kept.Apart dst) ∧ (next ()).Spares fields) := Iff.rfl

@[simp]
theorem spares_assign (dst src : Field) (next : Unit → Program α) :
    (assign dst src >>= next).Spares fields ↔
      (∀ kept ∈ fields, kept.Apart dst) ∧ (next ()).Spares fields :=
  ⟨fun spares => spares le_rfl, fun spares _ => spares⟩

@[simp]
theorem spares_rpcServerSend (id : ℕ) (status : Status) (size : ℕ) (next : ℤ → Program α) :
    (rpcServerSend id status size >>= next).Spares fields ↔
      (∀ kept ∈ fields, kept.off + kept.size ≤ size) ∧ ∀ ret, (next ret).Spares fields := Iff.rfl

@[simp]
theorem spares_perform_bare (function : OsCall) (args : List (Mem → Value))
    (arrays : List (Mem → Access)) (next : OsResult → Program α) :
    (perform ⟨function, args, arrays, [], none⟩ >>= next).Spares fields ↔
      ∀ result, (next result).Spares fields := Iff.rfl

theorem spares_printLines {next : Unit → Program α} (rest : (next ()).Spares fields)
    (entries : List Line) : (printLines entries >>= next).Spares fields := by
  induction entries with
  | nil => exact rest
  | cons entry entries ih => exact ih

end Spares

/-! ## What the frames show -/

/-- From a state whose memory satisfies `P`, every frame satisfies `R`. -/
def Program.Shows {α : Type} (results : ℕ → OsResult) (P R : Mem → Prop) (program : Program α) :
    Prop :=
  ∀ stack state, P state.mem → ∀ frame ∈ frames (program.run stack results state),
    R (asResponse frame.params)

section Shows

variable {α : Type} {results : ℕ → OsResult} {P P' R : Mem → Prop}

theorem Program.Spares.shows {fields : List Field} {program : Program α}
    (spares : program.Spares fields) (inResp : ∀ kept ∈ fields, kept.region = .resp)
    (gives : ∀ memory memory', P memory → Agree fields memory memory' → R memory') :
    program.Shows results P R :=
  fun _ state holds frame sent => gives _ _ holds (spares.agree inResp state frame sent)

theorem shows_test {condition : Mem → Bool} {next : Bool → Program α}
    (rest : ∀ value, (next value).Shows results
      (fun memory => P memory ∧ condition memory = value) R) :
    (test condition >>= next).Shows results P R := by
  intro stack state holds
  rw [run_test]
  exact rest _ stack state ⟨holds, rfl⟩

theorem shows_storeInt (P' : Mem → Prop) {field : Field} {value : ℤ} {next : Unit → Program α}
    (gives : ∀ memory, P memory →
      P' (overwrite memory field (LittleEndian.intBytes field.size value)))
    (rest : (next ()).Shows results P' R) :
    (storeInt field value >>= next).Shows results P R := by
  intro stack state holds
  rw [storeInt, run_store (LittleEndian.length_intBytes _ _).le]
  exact rest stack _ (gives _ holds)

theorem run_memcpy {stack : ℕ → UInt8} {state : State} {dst src : Field} {count : ℕ}
    (fits : count ≤ dst.size) (next : Unit → Program α) :
    (memcpy dst src count >>= next).run stack results state =
      .access ⟨dst, 0, count⟩ :: .access ⟨src, 0, count⟩ :: (next ()).run stack results
        { state with mem := overwrite state.mem dst (load state.mem src count) } := by
  show _ :: _ :: (if count ≤ dst.size then _ else _) = _
  rw [if_pos fits]
  rfl

theorem shows_assign (P' : Mem → Prop) {dst src : Field} {next : Unit → Program α}
    (gives : ∀ memory, P memory → P' (overwrite memory dst (load memory src dst.size)))
    (rest : (next ()).Shows results P' R) : (assign dst src >>= next).Shows results P R := by
  intro stack state holds
  rw [assign, run_memcpy le_rfl]
  exact rest stack _ (gives _ holds)

end Shows

/-! ## The judgement -/

/-- From a state whose memory satisfies `P`, every frame has the `errno` that the calls before
`set_rsp_base` leave, and `Q` holds of the last own result and the response. -/
def Program.Replies {α : Type} (results : ℕ → OsResult) (own : List OsCall)
    (earlier : Option OsResult) (P : Mem → Prop) (Q : Option OsResult → Mem → Prop)
    (program : Program α) : Prop :=
  ∀ stack state, P state.mem → ∀ frame ∈ frames (program.run stack results state),
    load (asResponse frame.params) respErrnum 4 =
        LittleEndian.intBytes 4 (errnoAfter (program.made results state) state.errno) ∧
      Q (ownResult own earlier (program.made results state)) (asResponse frame.params)

section Rules

variable {α : Type} {results : ℕ → OsResult} {own : List OsCall} {earlier : Option OsResult}
  {P P' : Mem → Prop} {Q : Option OsResult → Mem → Prop}

theorem Program.Replies.mono {program : Program α}
    (replies : program.Replies results own earlier P' Q)
    (weaker : ∀ memory, P memory → P' memory) : program.Replies results own earlier P Q :=
  fun stack state holds => replies stack state (weaker _ holds)

theorem replies_pure (value : α) : (pure value : Program α).Replies results own earlier P Q := by
  intro stack state holds frame sent
  cases sent

theorem replies_fault : (Program.fault : Program α).Replies results own earlier P Q := by
  intro stack state holds frame sent
  cases sent

theorem replies_lprintf {entry : Line} {next : Unit → Program α}
    (rest : (next ()).Replies results own earlier P Q) :
    (lprintf entry >>= next).Replies results own earlier P Q :=
  fun stack state holds => rest stack (state.tick _) holds

theorem replies_errno {next : ℤ → Program α}
    (rest : ∀ value, (next value).Replies results own earlier P Q) :
    (errno >>= next).Replies results own earlier P Q :=
  fun stack state holds => rest _ stack state holds

theorem replies_peek {read : Mem → ℤ} {next : ℤ → Program α}
    (rest : ∀ value, (next value).Replies results own earlier P Q) :
    (peek read >>= next).Replies results own earlier P Q :=
  fun stack state holds => rest _ stack state holds

theorem replies_peekNat {field : Field} {next : ℕ → Program α}
    (rest : ∀ value, (next value).Replies results own earlier P Q) :
    (peekNat field >>= next).Replies results own earlier P Q :=
  fun stack state holds => rest _ stack state holds

theorem replies_peekInt {field : Field} {next : ℤ → Program α}
    (rest : ∀ value, (next value).Replies results own earlier P Q) :
    (peekInt field >>= next).Replies results own earlier P Q :=
  replies_peek rest

theorem made_test {condition : Mem → Bool} {next : Bool → Program α} {state : State} :
    (test condition >>= next).made results state =
      (next (condition state.mem)).made results state := by
  show (next (decide ((if condition state.mem then (1 : ℤ) else 0) = 1))).made _ _ = _
  cases condition state.mem <;> rfl

theorem replies_test {condition : Mem → Bool} {next : Bool → Program α}
    (rest : ∀ value, (next value).Replies results own earlier
      (fun memory => P memory ∧ condition memory = value) Q) :
    (test condition >>= next).Replies results own earlier P Q := by
  intro stack state holds
  rw [run_test, made_test]
  exact rest _ stack state ⟨holds, rfl⟩

theorem replies_ite {condition : Prop} [Decidable condition] {yes no : Program α}
    (whenTrue : condition → yes.Replies results own earlier P Q)
    (whenFalse : ¬condition → no.Replies results own earlier P Q) :
    (if condition then yes else no).Replies results own earlier P Q := by
  by_cases holds : condition
  · rw [if_pos holds]
    exact whenTrue holds
  · rw [if_neg holds]
    exact whenFalse holds

theorem replies_store (P' : Mem → Prop) {field : Field} {data : List UInt8}
    {next : Unit → Program α}
    (gives : data.length ≤ field.size → ∀ memory, P memory → P' (overwrite memory field data))
    (rest : (next ()).Replies results own earlier P' Q) :
    (store field data >>= next).Replies results own earlier P Q := by
  intro stack state holds frame sent
  by_cases fits : data.length ≤ field.size
  · have made : (store field data >>= next).made results state =
        (next ()).made results { state with mem := overwrite state.mem field data } :=
      if_pos fits
    rw [run_store fits] at sent
    rw [made]
    exact rest stack _ (gives fits _ holds) frame sent
  · have faulted : (store field data >>= next).run stack results state = [.fault] := if_neg fits
    rw [faulted] at sent
    cases sent

theorem replies_storeInt (P' : Mem → Prop) {field : Field} {value : ℤ} {next : Unit → Program α}
    (gives : ∀ memory, P memory →
      P' (overwrite memory field (LittleEndian.intBytes field.size value)))
    (rest : (next ()).Replies results own earlier P' Q) :
    (storeInt field value >>= next).Replies results own earlier P Q :=
  replies_store P' (fun _ => gives) rest

theorem replies_zeroResp {size : ℕ} {next : Unit → Program α}
    (rest : (next ()).Replies results own earlier (fun _ => True) Q) :
    (zeroResp size >>= next).Replies results own earlier P Q :=
  replies_store _ (fun _ _ _ => trivial) rest

theorem replies_memcpy (P' : Mem → Prop) {dst src : Field} {count : ℕ} {next : Unit → Program α}
    (gives : count ≤ dst.size → ∀ memory, P memory →
      P' (overwrite memory dst (load memory src count)))
    (rest : (next ()).Replies results own earlier P' Q) :
    (memcpy dst src count >>= next).Replies results own earlier P Q := by
  intro stack state holds frame sent
  by_cases fits : count ≤ dst.size
  · have made : (memcpy dst src count >>= next).made results state = (next ()).made results
        { state with mem := overwrite state.mem dst (load state.mem src count) } :=
      if_pos fits
    rw [run_memcpy fits] at sent
    rw [made]
    exact rest stack _ (gives fits _ holds) frame sent
  · have faulted : (memcpy dst src count >>= next).run stack results state =
        [.access ⟨dst, 0, count⟩, .access ⟨src, 0, count⟩, .fault] := by
      show _ :: _ :: (if count ≤ dst.size then _ else _) = _
      rw [if_neg fits]
    rw [faulted] at sent
    cases sent

theorem replies_assign (P' : Mem → Prop) {dst src : Field} {next : Unit → Program α}
    (gives : ∀ memory, P memory → P' (overwrite memory dst (load memory src dst.size)))
    (rest : (next ()).Replies results own earlier P' Q) :
    (assign dst src >>= next).Replies results own earlier P Q :=
  replies_memcpy P' (fun _ => gives) rest

theorem replies_storeOuts {next : Unit → Program α}
    (rest : (next ()).Replies results own earlier P' Q) :
    ∀ {fields : List Field} {outs : List (List UInt8)} {P : Mem → Prop},
      (∀ memory, P memory → P' (storedOuts fields outs memory)) →
        (storeOuts fields outs >>= next).Replies results own earlier P Q
  | [], _, _, gives => rest.mono gives
  | _ :: _, [], _, gives => rest.mono gives
  | field :: fields, out :: outs, P, gives => by
      rw [storeOuts, bind_assoc]
      refine replies_store (fun memory => P' (storedOuts fields outs memory)) ?_
        (replies_storeOuts rest fun _ => id)
      exact fun _ memory holds => gives memory holds

theorem replies_storeSocklen {field : Option Field} {length : Option ℕ} {next : Unit → Program α}
    (gives : ∀ memory, P memory → P' (storedSocklen field length memory))
    (rest : (next ()).Replies results own earlier P' Q) :
    (storeSocklen field length >>= next).Replies results own earlier P Q := by
  cases field with
  | none => exact rest.mono gives
  | some field =>
      cases length with
      | none => exact rest.mono gives
      | some length => exact replies_store P' (fun _ => gives) rest

theorem replies_perform (P' : OsResult → Mem → Prop) {operation : Operation}
    {next : OsResult → Program α}
    (gives : ∀ memory result, P memory → P' result (operation.stored result memory))
    (rest : ∀ result, (next result).Replies results own
      (bif own.contains operation.function then some result else earlier) (P' result) Q) :
    (perform operation >>= next).Replies results own earlier P Q := by
  intro stack state holds frame sent
  rw [perform_bind, frames_sys] at sent
  rw [perform_bind]
  have stores : (do
      storeOuts operation.outs (results state.clock).outs
      storeSocklen operation.socklen (results state.clock).socklen
      next (results state.clock)).Replies results own
        (bif own.contains operation.function then some (results state.clock) else earlier)
        (· = state.mem) Q := by
    refine replies_storeOuts (replies_storeSocklen (fun _ => id) (rest _)) ?_
    rintro memory rfl
    exact gives _ _ holds
  exact stores stack (state.tick _) rfl frame sent

theorem replies_own {operation : Operation} {next : OsResult → Program α}
    (isOwn : own.contains operation.function = true)
    (rest : ∀ result, (next result).Replies results own (some result) (fun _ => True) Q) :
    (perform operation >>= next).Replies results own earlier P Q := by
  apply replies_perform (fun _ _ => True) (fun _ _ _ => trivial)
  intro result
  rw [isOwn]
  exact rest result

theorem replies_other {operation : Operation} {next : OsResult → Program α}
    (notOwn : own.contains operation.function = false)
    (rest : ∀ result, (next result).Replies results own earlier (fun _ => True) Q) :
    (perform operation >>= next).Replies results own earlier P Q := by
  apply replies_perform (fun _ _ => True) (fun _ _ _ => trivial)
  intro result
  rw [notOwn]
  exact rest result

theorem replies_lerror {ret errnum : ℤ} {next : Unit → Program α}
    (notOwn : own.contains .strerror = false)
    (rest : (next ()).Replies results own earlier P Q) :
    (lerror ret errnum >>= next).Replies results own earlier P Q := by
  unfold lerror
  split
  · simp only [bind_assoc]
    apply replies_perform (fun _ => P) (fun _ _ holds => holds)
    intro result
    rw [notOwn]
    exact replies_lprintf rest
  · exact rest

theorem replies_lerror_errno {ret : ℤ} {next : Unit → Program α}
    (notOwn : own.contains .strerror = false)
    (rest : (next ()).Replies results own earlier P Q) :
    (errno >>= fun errnum => lerror ret errnum >>= next).Replies results own earlier P Q := by
  apply replies_errno
  intro errnum
  exact replies_lerror notOwn rest

theorem run_setRspBase {stack : ℕ → UInt8} {state : State} {next : Unit → Program α} {frame : Frame}
    (sent : frame ∈ frames ((setRspBase >>= next).run stack results state)) :
    frame ∈ frames ((next ()).run stack results
      { state with
        mem := overwrite (overwrite state.mem respTraceId (load state.mem traceId 4)) respErrnum
          (LittleEndian.intBytes 4 state.errno)
        errno := 0 }) := by
  rwa [frames_setRspBase] at sent

theorem made_setRspBase {state : State} {next : Unit → Program α} :
    (setRspBase >>= next).made results state = [] := by
  have fits : (LittleEndian.intBytes respErrnum.size state.errno).length ≤ respErrnum.size :=
    (LittleEndian.length_intBytes _ _).le
  have unfolded : (setRspBase >>= next).made results state =
      if respTraceId.size ≤ respTraceId.size then
        (if (LittleEndian.intBytes respErrnum.size state.errno).length ≤ respErrnum.size then []
        else []) else [] := rfl
  rw [unfolded, if_pos le_rfl, if_pos fits]

theorem errnum_setRspBase {stack : ℕ → UInt8} {state : State} {next : Unit → Program α}
    {fields : List Field} (inResp : ∀ kept ∈ fields, kept.region = .resp)
    (spares : (next ()).Spares fields) (listed : respErrnum ∈ fields) {frame : Frame}
    (sent : frame ∈ frames ((setRspBase >>= next).run stack results state)) :
    load (asResponse frame.params) respErrnum 4 =
      LittleEndian.intBytes 4
        (errnoAfter ((setRspBase >>= next).made results state) state.errno) := by
  have later := spares.agree inResp _ frame (run_setRspBase sent) respErrnum listed
  have stored := load_overwrite_self
    (overwrite state.mem respTraceId (load state.mem traceId 4)) respErrnum
    (LittleEndian.intBytes 4 state.errno)
  rw [LittleEndian.length_intBytes] at stored
  rw [made_setRspBase]
  exact later.trans stored

theorem replies_setRspBase {next : Unit → Program α} (fields : List Field)
    (inResp : ∀ kept ∈ fields, kept.region = .resp ∧ 8 ≤ kept.off)
    (gives : ∀ memory memory', P memory → Agree fields memory memory' → Q earlier memory')
    (spares : (next ()).Spares (respErrnum :: fields)) :
    (setRspBase >>= next).Replies results own earlier P Q := by
  intro stack state holds frame sent
  have regions : ∀ kept ∈ respErrnum :: fields, kept.region = .resp := by
    intro kept listed
    rcases List.mem_cons.1 listed with rfl | other
    · rfl
    · exact (inResp kept other).1
  have apart : ∀ off, off ≤ 4 → ∀ kept ∈ fields, kept.Apart (respField off 4) := by
    intro off front kept listed
    have behind := (inResp kept listed).2
    exact Or.inr (Or.inr (show off + 4 ≤ kept.off by omega))
  refine ⟨errnum_setRspBase regions spares List.mem_cons_self sent, ?_⟩
  rw [made_setRspBase]
  refine gives state.mem _ holds ?_
  have filled : Agree fields state.mem
      (overwrite (overwrite state.mem respTraceId (load state.mem traceId 4)) respErrnum
        (LittleEndian.intBytes 4 state.errno)) :=
    (agree_overwrite (apart 0 (Nat.zero_le _)) _ (length_load _ _ _).le).trans
      (agree_overwrite (apart 4 le_rfl) _ (LittleEndian.length_intBytes _ _).le)
  have later := spares.agree regions _ frame (run_setRspBase sent)
  exact filled.trans fun kept listed => later kept (List.mem_cons_of_mem _ listed)

theorem replies_setRspBase_shows {next : Unit → Program α} (keepsTrace : Keeps P respTraceId)
    (keepsErrnum : Keeps P respErrnum) (spares : (next ()).Spares [respErrnum])
    (shows : (next ()).Shows results P (Q earlier)) :
    (setRspBase >>= next).Replies results own earlier P Q := by
  intro stack state holds frame sent
  have inResp : ∀ kept ∈ [respErrnum], kept.region = .resp := by decide
  refine ⟨errnum_setRspBase inResp spares List.mem_cons_self sent, ?_⟩
  rw [made_setRspBase]
  refine shows stack _ ?_ frame (run_setRspBase sent)
  exact keepsErrnum _ _ (LittleEndian.length_intBytes _ _).le
    (keepsTrace _ _ (length_load _ _ _).le holds)

end Rules

end Mica.Rpc
