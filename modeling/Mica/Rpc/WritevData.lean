import Mica.Rpc.Framing

/-!
# What `writev` is handed

`rpmsg_handle_writev` copies each vector of the request into a block that it allocates and
hands the blocks to `writev`. A block has `MAX_IOV_SIZE` bytes, the constant for the number of
vectors, while a vector of the request has `MAX_IOV_LEN`, and neither the number of vectors
nor their lengths are looked at.

`Program.handed` is what the calls of a function find in the arrays that they are given.
-/

namespace Mica.Rpc

open Errno Cells

/-- The bytes that are accessed. -/
def Access.contents (memory : Mem) (access : Access) : List UInt8 :=
  load memory ⟨access.array.region, access.array.off + access.start, access.length⟩ access.length

theorem contents_bytesOf (array : Field) (length : Mem → ℕ) (memory : Mem) :
    (bytesOf array length memory).contents memory = load memory array (length memory) := by
  simp [Access.contents, bytesOf, load, Extent.at]

/-- For each call of the function, the contents of its arrays. -/
def Program.handed {α : Type} (function : OsCall) (results : ℕ → OsResult) :
    Program α → State → List (List (List UInt8))
  | pure _, _ => []
  | log _ _ next, state => next.handed function results (state.tick (results state.clock))
  | sys call _ arrays next, state =>
      (if call = function then [(arrays state.mem).map (Access.contents state.mem)] else []) ++
        (next (results state.clock)).handed function results (state.tick (results state.clock))
  | store field data next, state =>
      if data.length ≤ field.size then
        next.handed function results { state with mem := overwrite state.mem field data }
      else []
  | copy dst src count next, state =>
      if count ≤ dst.size then
        next.handed function results
          { state with mem := overwrite state.mem dst (load state.mem src count) }
      else []
  | peek read next, state => (next (read state.mem)).handed function results state
  | getErrno next, state => (next state.errno).handed function results state
  | setErrno value next, state => next.handed function results { state with errno := value }
  | send _ _ size next, state =>
      if proxyMaxBufLen < size then (next (-einval)).handed function results state
      else (next (results state.clock).int).handed function results
        (state.tick (results state.clock))
  | enter _ next, state => next.handed function results state
  | fault, _ => []

/-! ## Requests -/

/-- `iovcnt` is within the array of the request, and each of the vectors within its own. -/
def WritevReq.Valid (memory : Mem) : Prop :=
  0 ≤ WritevReq.iovcnt.int memory ∧ WritevReq.iovcnt.int memory ≤ maxIovSize ∧
    ∀ i < (WritevReq.iovcnt.int memory).toNat, (WritevReq.len i).nat memory ≤ maxIovLen

section Handled

variable (stack : ℕ → UInt8) (results : ℕ → OsResult) (state : State)

/-- The vectors are copied within their arrays, and `writev` is handed them all. -/
structure WritesVectors : Prop where
  completes : (rpmsgHandleWritev.final results state).isSome
  inBounds : ∀ access ∈ accesses (rpmsgHandleWritev.run stack results state), access.InBounds
  handed : ∃ vectors, rpmsgHandleWritev.handed .writev results state = [vectors] ∧
    vectors.length = (WritevReq.iovcnt.int state.mem).toNat ∧
    vectors.flatten = (List.range (WritevReq.iovcnt.int state.mem).toNat).flatMap fun i =>
      load state.mem (WritevReq.iov i) ((WritevReq.len i).nat state.mem)

/-- The handler returns without copying a vector and without the call. -/
structure RejectsVectors : Prop where
  completes : (rpmsgHandleWritev.final results state).isSome
  notCopied : ∀ access ∈ accesses (rpmsgHandleWritev.run stack results state), ∀ i,
    access.array ≠ iovBlock i
  notCalled : rpmsgHandleWritev.handed .writev results state = []

/-- A valid request is written and any other rejected. -/
structure HandlesWritev : Prop where
  valid : WritevReq.Valid state.mem → WritesVectors stack results state
  invalid : ¬WritevReq.Valid state.mem → RejectsVectors stack results state

/-- There are at most `MAX_IOV_SIZE` vectors of at most as many bytes, and memory for each. -/
structure FitsBlocks : Prop where
  nonneg : 0 ≤ WritevReq.iovcnt.int state.mem
  few : WritevReq.iovcnt.int state.mem ≤ maxIovSize
  allocated : ∀ i < (WritevReq.iovcnt.int state.mem).toNat,
    (results (state.clock + 1 + i)).pointer ≠ 0
  short : ∀ i < (WritevReq.iovcnt.int state.mem).toNat,
    (WritevReq.len i).nat state.mem ≤ maxIovSize

end Handled

/-! ## Programs in sequence -/

theorem Program.handed_bind {α β : Type} (function : OsCall) (results : ℕ → OsResult)
    (program : Program α) (rest : α → Program β) (state : State) :
    (program >>= rest).handed function results state = program.handed function results state ++
      (program.final results state).elim [] fun last =>
        (rest last.1).handed function results last.2 := by
  induction program generalizing state with
  | pure value => rfl
  | fault => rfl
  | log format args next ih => exact ih _
  | peek read next ih => exact ih _ _
  | getErrno next ih => exact ih _ _
  | setErrno value next ih => exact ih _
  | enter handler next ih => exact ih _
  | sys call args arrays next ih =>
      show _ ++ (next _ >>= rest).handed _ _ _ = _
      rw [ih, handed, List.append_assoc]
      rfl
  | store field data next ih =>
      by_cases fits : data.length ≤ field.size
      · exact (if_pos fits).trans ((ih _).trans (by rw [handed, final, if_pos fits, if_pos fits]))
      · exact (if_neg fits).trans (by rw [handed, final, if_neg fits, if_neg fits]; rfl)
  | copy dst src count next ih =>
      by_cases fits : count ≤ dst.size
      · exact (if_pos fits).trans ((ih _).trans (by rw [handed, final, if_pos fits, if_pos fits]))
      · exact (if_neg fits).trans (by rw [handed, final, if_neg fits, if_neg fits]; rfl)
  | send id status size next ih =>
      by_cases tooLong : proxyMaxBufLen < size
      · exact (if_pos tooLong).trans
          ((ih _ _).trans (by rw [handed, final, if_pos tooLong, if_pos tooLong]))
      · exact (if_neg tooLong).trans
          ((ih _ _).trans (by rw [handed, final, if_neg tooLong, if_neg tooLong]))

/-- The program completes, stays in bounds and does not call the function, whatever the state. -/
structure Program.Quiet {α : Type} (function : OsCall) (stack : ℕ → UInt8) (results : ℕ → OsResult)
    (program : Program α) : Prop where
  completes : ∀ state, (program.final results state).isSome
  inBounds : ∀ state, ∀ access ∈ accesses (program.run stack results state), access.InBounds
  notCalled : ∀ state, program.handed function results state = []

section Quiet

variable {α β : Type} {function : OsCall} {stack : ℕ → UInt8} {results : ℕ → OsResult}

theorem accesses_append (front back : List Event) :
    accesses (front ++ back) = accesses front ++ accesses back :=
  List.filterMap_append

theorem accesses_access_cons (access : Access) (events : List Event) :
    accesses (.access access :: events) = access :: accesses events := rfl

theorem accesses_bind (program : Program α) (rest : α → Program β) (state : State) :
    accesses ((program >>= rest).run stack results state) =
      accesses (program.run stack results state) ++
        (program.final results state).elim [] fun last =>
          accesses ((rest last.1).run stack results last.2) := by
  rw [Program.run_bind, accesses_append]
  cases program.final results state <;> rfl

theorem quiet_bind {program : Program α} {rest : α → Program β}
    (quiet : program.Quiet function stack results)
    (quietRest : ∀ value, (rest value).Quiet function stack results) :
    (program >>= rest).Quiet function stack results where
  completes := by
    intro state
    obtain ⟨last, isLast⟩ := Option.isSome_iff_exists.1 (quiet.completes state)
    rw [Program.final_bind, isLast]
    exact (quietRest last.1).completes last.2
  inBounds := by
    intro state
    obtain ⟨last, isLast⟩ := Option.isSome_iff_exists.1 (quiet.completes state)
    rw [accesses_bind, isLast]
    exact List.forall_mem_append.2 ⟨quiet.inBounds state, (quietRest last.1).inBounds last.2⟩
  notCalled := by
    intro state
    obtain ⟨last, isLast⟩ := Option.isSome_iff_exists.1 (quiet.completes state)
    rw [Program.handed_bind, isLast, quiet.notCalled state]
    exact (quietRest last.1).notCalled last.2

theorem quiet_pure (value : α) : (pure value : Program α).Quiet function stack results :=
  ⟨fun _ => rfl, fun _ => List.forall_mem_nil _, fun _ => rfl⟩

theorem quiet_lprintf (entry : Line) : (lprintf entry).Quiet function stack results :=
  ⟨fun _ => rfl, fun _ => List.forall_mem_nil _, fun _ => rfl⟩

theorem quiet_errno : errno.Quiet function stack results :=
  ⟨fun _ => rfl, fun _ => List.forall_mem_nil _, fun _ => rfl⟩

theorem quiet_store {field : Field} {data : List UInt8} (fits : data.length ≤ field.size) :
    (store field data).Quiet function stack results where
  completes := by
    intro state
    rw [store, Program.final, if_pos fits]
    rfl
  inBounds := by
    intro state
    rw [store, Program.run, if_pos fits]
    exact List.forall_mem_nil _
  notCalled := by
    intro state
    rw [store, Program.handed, if_pos fits]
    rfl

theorem quiet_storeInt (field : Field) (value : ℤ) :
    (storeInt field value).Quiet function stack results :=
  quiet_store (LittleEndian.length_intBytes _ _).le

theorem quiet_assign {dst src : Field} (sameSize : dst.size = src.size) :
    (assign dst src).Quiet function stack results where
  completes := by
    intro state
    rw [assign, memcpy, Program.final, if_pos le_rfl]
    rfl
  inBounds := by
    intro state access member
    rw [assign, memcpy, Program.run, if_pos le_rfl] at member
    have cases : access = ⟨dst, 0, dst.size⟩ ∨ access = ⟨src, 0, dst.size⟩ := by
      simpa [accesses, Event.access?, Program.run] using member
    rcases cases with rfl | rfl
    · exact (Nat.zero_add _).le
    · exact ((Nat.zero_add _).trans sameSize).le
  notCalled := by
    intro state
    rw [assign, memcpy, Program.handed, if_pos le_rfl]
    rfl

theorem quiet_setRspBase : setRspBase.Quiet function stack results := by
  apply quiet_bind (quiet_assign (by decide))
  intro _
  apply quiet_bind quiet_errno
  intro errnum
  apply quiet_bind (quiet_storeInt _ _)
  intro _
  exact ⟨fun _ => rfl, fun _ => List.forall_mem_nil _, fun _ => rfl⟩

theorem quiet_rpcServerSend (id : ℕ) (status : Status) (size : ℕ) :
    (rpcServerSend id status size).Quiet function stack results where
  completes := by
    intro state
    rw [rpcServerSend, Program.final]
    split <;> rfl
  inBounds := by
    intro state
    rw [rpcServerSend, Program.run]
    split <;> exact List.forall_mem_nil _
  notCalled := by
    intro state
    rw [rpcServerSend, Program.handed]
    split <;> rfl

theorem quiet_answer (ret : ℤ) : (answer ret).Quiet function stack results := quiet_pure _

theorem quiet_perform {call : OsCall} (args : List (Mem → Value)) (other : call ≠ function) :
    (perform { function := call, args }).Quiet function stack results where
  completes := fun _ => rfl
  inBounds := fun _ => List.forall_mem_nil _
  notCalled := by
    intro state
    rw [perform, Program.handed, if_neg other]
    rfl

theorem handed_perform {operation : Operation} {next : OsResult → Program α} {state : State}
    (stores : operation.outs = []) (noLength : operation.socklen = none) :
    (perform operation >>= next).handed function results state =
      (if operation.function = function then
        [operation.arrays.map fun array => (array state.mem).contents state.mem] else []) ++
        (next (results state.clock)).handed function results
          (state.tick (results state.clock)) := by
  rw [perform_bind, Program.handed, stores, noLength, List.map_map]
  rfl

theorem quiet_lerror {ret errnum : ℤ} (other : OsCall.strerror ≠ function) :
    (lerror ret errnum).Quiet function stack results := by
  rw [lerror]
  split
  · exact quiet_bind (quiet_perform _ other) fun _ => quiet_lprintf _
  · exact quiet_pure _

end Quiet

/-! ## The loop over the vectors -/

section Loop

variable {stack : ℕ → UInt8} {results : ℕ → OsResult}

/-- The state after the `i`-th vector has been copied. -/
def State.copied (results : ℕ → OsResult) (i : ℕ) (state : State) : State :=
  { state.tick (results state.clock) with
    mem := overwrite state.mem (iovBlock i)
      (load state.mem (WritevReq.iov i) ((WritevReq.len i).nat state.mem)) }

theorem final_copyVectors_succ (remaining i : ℕ) (state : State) :
    (copyVectors (remaining + 1) i).final results state =
      if (results state.clock).pointer = 0 then none
      else if (WritevReq.len i).nat state.mem ≤ maxIovSize then
        (copyVectors remaining (i + 1)).final results (state.copied results i)
      else none := by
  rw [copyVectors, perform_bind]
  show Program.final results (if _ then _ else _) _ = _
  split <;> rfl

theorem accesses_copyVectors_succ (remaining i : ℕ) (state : State) :
    accesses ((copyVectors (remaining + 1) i).run stack results state) =
      if (results state.clock).pointer = 0 then []
      else ⟨iovBlock i, 0, (WritevReq.len i).nat state.mem⟩ ::
        ⟨WritevReq.iov i, 0, (WritevReq.len i).nat state.mem⟩ ::
          if (WritevReq.len i).nat state.mem ≤ maxIovSize then
            accesses ((copyVectors remaining (i + 1)).run stack results (state.copied results i))
          else [] := by
  rw [copyVectors, perform_bind]
  show accesses (Program.run stack results (if _ then _ else _) _) = _
  split
  · rfl
  · show accesses ((Program.copy (iovBlock i) (WritevReq.iov i) ((WritevReq.len i).nat state.mem)
      (copyVectors remaining (i + 1))).run stack results (state.tick (results state.clock))) = _
    rw [Program.run, accesses_access_cons, accesses_access_cons]
    by_cases fits : (WritevReq.len i).nat state.mem ≤ maxIovSize
    · rw [if_pos fits, if_pos (show _ ≤ (iovBlock i).size from fits)]
      rfl
    · rw [if_neg fits, if_neg (show ¬_ ≤ (iovBlock i).size from fits)]
      rfl

theorem handed_copyVectors {function : OsCall} (other : OsCall.malloc ≠ function) (remaining i : ℕ)
    (state : State) : (copyVectors remaining i).handed function results state = [] := by
  induction remaining generalizing i state with
  | zero => rfl
  | succ remaining ih =>
      rw [copyVectors, perform_bind, Program.handed, if_neg other]
      show Program.handed function results (if _ then _ else _) _ = _
      split
      · rfl
      · show (if _ then _ else _) = _
        split
        · exact ih _ _
        · rfl

theorem load_copied (i : ℕ) (state : State) {field : Field} (isReq : field.region = .req)
    (count : ℕ) : load (state.copied results i).mem field count = load state.mem field count := by
  apply load_congr
  intro k _
  apply overwrite_of_region_ne
  rw [Extent.at, isReq]
  intro same
  cases same

theorem len_copied (i j : ℕ) (state : State) :
    (WritevReq.len j).nat (state.copied results i).mem = (WritevReq.len j).nat state.mem := by
  rw [Extent.nat, Extent.nat, load_copied i state rfl]

theorem copyVectors_iff (remaining i : ℕ) (state : State) :
    (((copyVectors remaining i).final results state).isSome ∧
      ∀ access ∈ accesses ((copyVectors remaining i).run stack results state), access.InBounds) ↔
      ∀ k < remaining, (results (state.clock + k)).pointer ≠ 0 ∧
        (WritevReq.len (i + k)).nat state.mem ≤ maxIovSize := by
  induction remaining generalizing i state with
  | zero => exact iff_of_true ⟨rfl, List.forall_mem_nil _⟩ (fun k none => absurd none k.not_lt_zero)
  | succ remaining ih =>
      have step := ih (i + 1) (state.copied results i)
      have clock : (state.copied results i).clock = state.clock + 1 := rfl
      simp only [len_copied, clock] at step
      rw [final_copyVectors_succ, accesses_copyVectors_succ, Nat.forall_lt_succ_left']
      by_cases noBlock : (results state.clock).pointer = 0
      · rw [if_pos noBlock]
        refine iff_of_false (fun both => absurd both.1 (by simp)) fun all => ?_
        exact all.1.1 noBlock
      · rw [if_neg noBlock, if_neg noBlock, List.forall_mem_cons, List.forall_mem_cons]
        by_cases fits : (WritevReq.len i).nat state.mem ≤ maxIovSize
        · have toBlock : (⟨iovBlock i, 0, (WritevReq.len i).nat state.mem⟩ : Access).InBounds :=
            (Nat.zero_add _).trans_le fits
          have fromRequest : (⟨WritevReq.iov i, 0, (WritevReq.len i).nat state.mem⟩ :
              Access).InBounds :=
            ((Nat.zero_add _).trans_le fits).trans (show maxIovSize ≤ maxIovLen by decide)
          rw [if_pos fits, if_pos fits, and_iff_right toBlock, and_iff_right fromRequest, step,
            and_iff_right ⟨noBlock, fits⟩]
          simp only [Nat.add_assoc, Nat.add_comm 1]
        · rw [if_neg fits]
          exact iff_of_false (fun both => absurd both.1 (by simp)) fun all => fits all.1.2

theorem final_copyVectors (remaining i : ℕ) (state : State)
    (allocated : ∀ k < remaining, (results (state.clock + k)).pointer ≠ 0)
    (short : ∀ k < remaining, (WritevReq.len (i + k)).nat state.mem ≤ maxIovSize) :
    ∃ last, (copyVectors remaining i).final results state = some ((), last) ∧
      (∀ field : Field, field.region = .req → ∀ count,
        load last.mem field count = load state.mem field count) ∧
      (∀ j < i, load last.mem (iovBlock j) ((WritevReq.len j).nat state.mem) =
        load state.mem (iovBlock j) ((WritevReq.len j).nat state.mem)) ∧
      ∀ k < remaining, load last.mem (iovBlock (i + k)) ((WritevReq.len (i + k)).nat state.mem) =
        load state.mem (WritevReq.iov (i + k)) ((WritevReq.len (i + k)).nat state.mem) := by
  induction remaining generalizing i state with
  | zero =>
      exact ⟨state, rfl, fun _ _ _ => rfl, fun _ _ => rfl, fun k none => absurd none k.not_lt_zero⟩
  | succ remaining ih =>
      have block := allocated 0 remaining.succ_pos
      have fits := short 0 remaining.succ_pos
      rw [Nat.add_zero] at block fits
      obtain ⟨last, isLast, request, earlier, later⟩ := ih (i + 1) (state.copied results i)
        (by
          intro k bound
          have later := allocated (k + 1) (Nat.succ_lt_succ bound)
          rwa [Nat.add_comm k, ← Nat.add_assoc] at later)
        (by
          intro k bound
          have later := short (k + 1) (Nat.succ_lt_succ bound)
          rwa [Nat.add_comm k, ← Nat.add_assoc, ← len_copied i] at later)
      refine ⟨last, ?_, ?_, ?_, ?_⟩
      · rw [final_copyVectors_succ, if_neg block, if_pos fits, isLast]
      · intro field isReq count
        rw [request field isReq, load_copied i state isReq]
      · intro j before
        have kept := earlier j (Nat.lt_succ_of_lt before)
        rw [len_copied] at kept
        rw [kept]
        apply load_congr
        intro k _
        apply overwrite_of_region_ne
        intro same
        exact before.ne (Region.heap.inj same)
      · intro k bound
        rcases k with _ | k
        · have kept := earlier i (Nat.lt_succ_self i)
          rw [len_copied] at kept
          have copied := load_overwrite_self state.mem (iovBlock i)
            (load state.mem (WritevReq.iov i) ((WritevReq.len i).nat state.mem))
          rw [length_load] at copied
          exact kept.trans copied
        · have copied := later k (Nat.lt_of_succ_lt_succ bound)
          rw [len_copied, load_copied i state rfl, Nat.add_assoc, Nat.add_comm 1 k] at copied
          exact copied

end Loop

/-! ## The handler -/

section Enter

variable {α : Type} {stack : ℕ → UInt8} {results : ℕ → OsResult} {state : State} (entry : Line)
  (field : Field) (next : ℤ → Program α)

theorem final_enter :
    (lprintf entry >>= fun _ => peekInt field >>= next).final results state =
      (next (field.int state.mem)).final results (state.tick (results state.clock)) := rfl

theorem accesses_enter :
    accesses ((lprintf entry >>= fun _ => peekInt field >>= next).run stack results state) =
      accesses ((next (field.int state.mem)).run stack results
        (state.tick (results state.clock))) := rfl

theorem handed_enter {function : OsCall} :
    (lprintf entry >>= fun _ => peekInt field >>= next).handed function results state =
      (next (field.int state.mem)).handed function results (state.tick (results state.clock)) := rfl

end Enter

section Handler

variable {stack : ℕ → UInt8} {results : ℕ → OsResult}

theorem quiet_writevReply (result : OsResult) :
    (writevReply result).Quiet .writev stack results := by
  apply quiet_bind (quiet_lprintf _)
  intro _
  apply quiet_bind quiet_errno
  intro errnum
  apply quiet_bind (quiet_lerror (by decide))
  intro _
  apply quiet_bind (quiet_storeInt _ _)
  intro _
  apply quiet_bind quiet_setRspBase
  intro _
  apply quiet_bind (quiet_rpcServerSend _ _ _)
  intro ret
  apply quiet_bind (quiet_lprintf _)
  intro _
  exact quiet_answer ret

theorem final_writevOperation (iovcnt : ℤ) (state : State) :
    ((perform (writevOperation iovcnt) >>= writevReply).final results state).isSome :=
  (@quiet_writevReply (fun _ => 0) results _).completes _

theorem accesses_writevOperation {iovcnt : ℤ} {state : State}
    (short : ∀ i < iovcnt.toNat, (WritevReq.len i).nat state.mem ≤ maxIovSize) :
    ∀ access ∈ accesses
      ((perform (writevOperation iovcnt) >>= writevReply).run stack results state),
        access.InBounds := by
  rw [inBounds_run_iff, inBounds_perform_iff]
  constructor
  · intro array listed
    obtain ⟨i, member, rfl⟩ := List.mem_map.1 listed
    exact inBounds_bytesOf.2 (short i (List.mem_range.1 member))
  · exact inBounds_run_iff.1 ((@quiet_writevReply stack results _).inBounds _)

theorem handed_writevOperation (iovcnt : ℤ) (state : State) :
    (perform (writevOperation iovcnt) >>= writevReply).handed .writev results state =
      [(List.range iovcnt.toNat).map fun i =>
        load state.mem (iovBlock i) ((WritevReq.len i).nat state.mem)] := by
  have quiet := (@quiet_writevReply (fun _ => 0) results (results state.clock)).notCalled
    (state.tick (results state.clock))
  rw [handed_perform rfl rfl, quiet, List.append_nil, writevOperation, if_pos rfl, List.map_map]
  simp only [Function.comp_def, contents_bytesOf]

theorem nonneg_of_completes {state : State}
    (completes : (rpmsgHandleWritev.final results state).isSome) :
    0 ≤ WritevReq.iovcnt.int state.mem := by
  by_contra negative
  rw [rpmsgHandleWritev, final_enter, writeVectors, if_pos (not_le.1 negative)] at completes
  exact absurd completes (by simp [Program.final])

section Entered

variable {state : State} (nonneg : 0 ≤ WritevReq.iovcnt.int state.mem)

include nonneg

theorem completes_writev_iff : (rpmsgHandleWritev.final results state).isSome ↔
    ((copyVectors (WritevReq.iovcnt.int state.mem).toNat 0).final results
      (state.tick (results state.clock))).isSome := by
  rw [rpmsgHandleWritev, final_enter, writeVectors, if_neg (not_lt.2 nonneg), Program.final_bind]
  cases (copyVectors (WritevReq.iovcnt.int state.mem).toNat 0).final results
      (state.tick (results state.clock)) with
  | none => rfl
  | some last =>
      exact iff_of_true (final_writevOperation (WritevReq.iovcnt.int state.mem) last.2) rfl

theorem accesses_writev : accesses (rpmsgHandleWritev.run stack results state) =
    accesses ((copyVectors (WritevReq.iovcnt.int state.mem).toNat 0).run stack results
      (state.tick (results state.clock))) ++
    ((copyVectors (WritevReq.iovcnt.int state.mem).toNat 0).final results
      (state.tick (results state.clock))).elim [] fun last =>
        accesses ((perform (writevOperation (WritevReq.iovcnt.int state.mem)) >>= writevReply).run
          stack results last.2) := by
  rw [rpmsgHandleWritev, accesses_enter, writeVectors, if_neg (not_lt.2 nonneg), accesses_bind]

theorem handed_writev {last : State}
    (loop : (copyVectors (WritevReq.iovcnt.int state.mem).toNat 0).final results
      (state.tick (results state.clock)) = some ((), last)) :
    rpmsgHandleWritev.handed .writev results state =
      [(List.range (WritevReq.iovcnt.int state.mem).toNat).map fun i =>
        load last.mem (iovBlock i) ((WritevReq.len i).nat last.mem)] := by
  rw [rpmsgHandleWritev, handed_enter, writeVectors, if_neg (not_lt.2 nonneg),
    Program.handed_bind, handed_copyVectors (by decide), loop]
  exact handed_writevOperation (WritevReq.iovcnt.int state.mem) last

end Entered

theorem allocated_and_short {state : State}
    (completes : (rpmsgHandleWritev.final results state).isSome)
    (inBounds : ∀ access ∈ accesses (rpmsgHandleWritev.run stack results state), access.InBounds) :
    ∀ i < (WritevReq.iovcnt.int state.mem).toNat, (results (state.clock + 1 + i)).pointer ≠ 0 ∧
      (WritevReq.len i).nat state.mem ≤ maxIovSize := by
  have nonneg := nonneg_of_completes completes
  rw [accesses_writev nonneg, List.forall_mem_append] at inBounds
  have loop := (copyVectors_iff (WritevReq.iovcnt.int state.mem).toNat 0
    (state.tick (results state.clock))).1 ⟨(completes_writev_iff nonneg).1 completes, inBounds.1⟩
  simpa [State.tick] using loop

section Fits

variable {state : State} (fits : FitsBlocks results state)

include fits

theorem FitsBlocks.loop :
    ∃ last, (copyVectors (WritevReq.iovcnt.int state.mem).toNat 0).final results
        (state.tick (results state.clock)) = some ((), last) ∧
      (∀ i, (WritevReq.len i).nat last.mem = (WritevReq.len i).nat state.mem) ∧
      ∀ i < (WritevReq.iovcnt.int state.mem).toNat,
        load last.mem (iovBlock i) ((WritevReq.len i).nat state.mem) =
          load state.mem (WritevReq.iov i) ((WritevReq.len i).nat state.mem) := by
  have short : ∀ k < (WritevReq.iovcnt.int state.mem).toNat,
      (WritevReq.len (0 + k)).nat (state.tick (results state.clock)).mem ≤ maxIovSize := by
    intro k bound
    rw [Nat.zero_add, State.tick_mem]
    exact fits.short k bound
  obtain ⟨last, loop, request, _, copied⟩ := final_copyVectors
    (WritevReq.iovcnt.int state.mem).toNat 0 (state.tick (results state.clock)) fits.allocated short
  refine ⟨last, loop, ?_, ?_⟩
  · intro i
    rw [Extent.nat, Extent.nat, request _ rfl, State.tick_mem]
  · intro i bound
    have contents := copied i bound
    rwa [Nat.zero_add, State.tick_mem] at contents

theorem FitsBlocks.inBounds :
    ∀ access ∈ accesses (rpmsgHandleWritev.run stack results state), access.InBounds := by
  obtain ⟨last, loop, lengths, _⟩ := fits.loop
  rw [accesses_writev fits.nonneg, List.forall_mem_append, loop, Option.elim_some]
  constructor
  · have allFit : ∀ k < (WritevReq.iovcnt.int state.mem).toNat,
        (results ((state.tick (results state.clock)).clock + k)).pointer ≠ 0 ∧
          (WritevReq.len (0 + k)).nat (state.tick (results state.clock)).mem ≤ maxIovSize := by
      intro k bound
      rw [Nat.zero_add, State.tick_mem]
      exact ⟨fits.allocated k bound, fits.short k bound⟩
    exact ((copyVectors_iff _ _ _).2 allFit).2
  · apply accesses_writevOperation
    intro i bound
    rw [lengths]
    exact fits.short i bound

theorem FitsBlocks.handed : ∃ vectors, rpmsgHandleWritev.handed .writev results state = [vectors] ∧
    vectors.length = (WritevReq.iovcnt.int state.mem).toNat ∧
    vectors.flatten = (List.range (WritevReq.iovcnt.int state.mem).toNat).flatMap fun i =>
      load state.mem (WritevReq.iov i) ((WritevReq.len i).nat state.mem) := by
  obtain ⟨last, loop, lengths, copied⟩ := fits.loop
  refine ⟨_, handed_writev fits.nonneg loop, ?_, ?_⟩
  · rw [List.length_map, List.length_range]
  · rw [List.flatMap_def]
    apply congrArg List.flatten
    apply List.map_congr_left
    intro i member
    rw [lengths, copied i (List.mem_range.1 member)]

theorem FitsBlocks.writes : WritesVectors stack results state := by
  obtain ⟨last, loop, _, _⟩ := fits.loop
  refine ⟨?_, fits.inBounds, fits.handed⟩
  rw [completes_writev_iff fits.nonneg, loop]
  rfl

end Fits

theorem FitsBlocks.valid {state : State} (fits : FitsBlocks results state) :
    WritevReq.Valid state.mem :=
  ⟨fits.nonneg, fits.few, fun i bound => (fits.short i bound).trans (by decide)⟩

theorem not_rejectsVectors {state : State} (invalid : ¬WritevReq.Valid state.mem) :
    ¬RejectsVectors stack results state := by
  intro rejects
  have nonneg := nonneg_of_completes rejects.completes
  have completes := (completes_writev_iff nonneg).1 rejects.completes
  have notCopied := rejects.notCopied
  rw [accesses_writev nonneg, List.forall_mem_append] at notCopied
  rcases count : (WritevReq.iovcnt.int state.mem).toNat with _ | remaining
  · apply invalid
    refine ⟨nonneg, ?_, ?_⟩
    · have size : maxIovSize = 30 := rfl
      omega
    · intro i bound
      omega
  · rw [count, final_copyVectors_succ] at completes
    rw [count, accesses_copyVectors_succ] at notCopied
    split at completes
    · simp at completes
    · rename_i allocated
      rw [if_neg allocated] at notCopied
      exact notCopied.1 _ List.mem_cons_self 0 rfl

end Handler

/-- A valid request is written and any other rejected exactly if the vectors fit the blocks: none is
ever rejected, and a block is shorter than a vector may be. -/
theorem handlesWritev_iff_fitsBlocks (stack : ℕ → UInt8) (results : ℕ → OsResult) (state : State) :
    HandlesWritev stack results state ↔ FitsBlocks results state := by
  constructor
  · intro handles
    by_cases valid : WritevReq.Valid state.mem
    · have writes := handles.valid valid
      have loop := allocated_and_short writes.completes writes.inBounds
      exact ⟨valid.1, valid.2.1, fun i bound => (loop i bound).1, fun i bound => (loop i bound).2⟩
    · exact absurd (handles.invalid valid) (not_rejectsVectors valid)
  · intro fits
    exact ⟨fun _ => fits.writes, fun invalid => absurd fits.valid invalid⟩

/-- A request with so many vectors, the first of them with so many bytes and the others empty. -/
def writevRequest (iovcnt len : ℕ) : State where
  mem := overwrite (overwrite (fun _ => 0) WritevReq.iovcnt (LittleEndian.bytes 4 iovcnt))
    (WritevReq.len 0) (LittleEndian.bytes 8 len)
  errno := 0
  clock := 0

/-- A vector of 40 bytes, which the request has room for, is copied behind the end of its block, and
a request with more vectors than there are in a request is not rejected. -/
theorem not_handlesWritev_requests :
    ¬HandlesWritev (fun _ => 0) (fun _ => { ret := 4096 }) (writevRequest 1 40) ∧
      ¬HandlesWritev (fun _ => 0) (fun _ => { ret := 4096 }) (writevRequest 31 0) := by
  constructor
  · intro handles
    have one : WritevReq.iovcnt.int (writevRequest 1 40).mem = 1 := by decide
    have long : (WritevReq.len 0).nat (writevRequest 1 40).mem = 40 := by decide
    have valid : WritevReq.Valid (writevRequest 1 40).mem := by
      rw [WritevReq.Valid, one]
      refine ⟨by decide, by decide, fun i bound => ?_⟩
      obtain rfl : i = 0 := Nat.lt_one_iff.1 bound
      rw [long]
      decide
    have writes := handles.valid valid
    have short := (allocated_and_short writes.completes writes.inBounds 0 (by rw [one]; decide)).2
    rw [long] at short
    exact absurd short (by decide)
  · intro handles
    have many : WritevReq.iovcnt.int (writevRequest 31 0).mem = 31 := by decide
    have invalid : ¬WritevReq.Valid (writevRequest 31 0).mem := by
      rw [WritevReq.Valid, many]
      exact fun valid => absurd valid.2.1 (by decide)
    exact not_rejectsVectors invalid (handles.invalid invalid)

end Mica.Rpc
