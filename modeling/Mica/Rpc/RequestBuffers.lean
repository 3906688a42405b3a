import Mica.Lib.Run
import Mica.Rpc.MultiWorkers

/-!
# Request buffers of the RPC server with workers

In the build with `MULTI_WORKERS` the callback allocates a copy of each message and
the handler that gets it frees it: `CLEANUP(data)` stands before the last `return`
of the handlers. Two handlers have no `CLEANUP`, the checks at the start of
`getaddrinfo` and `getcwd` return before it, and the callback forgets the copy of a
message that it does not queue.

A buffer is known by the number of its message. The callback and the end of a
handler are single steps. A handler that ends with a fault does not come to its
end: its request stays with the worker.
-/

namespace Mica.Rpc.MultiWorkers

open Errno Cells

variable {workers : ℕ}

/-! ## Handlers -/

/-- A handler whose last statements are `CLEANUP(data)` and `return`: the value it returns and how
often it has freed the buffer. -/
def withCleanup (body : Program ℤ) : Program (ℤ × ℕ) := do
  let ret ← body
  pure (ret, 1)

def withoutCleanup (body : Program ℤ) : Program (ℤ × ℕ) := do
  let ret ← body
  pure (ret, 0)

/-- A handler with a check that returns before `CLEANUP(data)`. -/
def withCheck (rejects : Mem → Bool) (accepted : Program ℤ) : Program (ℤ × ℕ) := do
  let rejected ← test rejects
  if rejected then pure (-einval, 0) else withCleanup accepted

/-- `cb_function` as it is compiled with `MULTI_WORKERS`. -/
def cbFunction : Handler → Program (ℤ × ℕ)
  | .handlePrintf => withoutCleanup rpmsgHandlePrintf
  | .handleFreeaddrinfo => withoutCleanup rpmsgHandleFreeaddrinfo
  | .handleGetaddrinfo => withCheck getaddrinfoRejects getaddrinfoAccepted
  | .handleGetcwd => withCheck getcwdRejects getcwdAccepted
  | handler => withCleanup handler.body

/-- The handler frees a request that is in memory. -/
structure Releases (handler : Handler) (memory : Mem) : Prop where
  notPrintf : handler ≠ .handlePrintf
  notFreeaddrinfo : handler ≠ .handleFreeaddrinfo
  getaddrinfo : handler = .handleGetaddrinfo → getaddrinfoRejects memory = false
  getcwd : handler = .handleGetcwd → getcwdRejects memory = false

section Handlers

variable {results : ℕ → OsResult} {state last : State} {handler : Handler} {ret : ℤ} {freed : ℕ}

/-- The three kinds of handlers: those without `CLEANUP`, those with a check, and the others. -/
theorem cbFunction_cases (handler : Handler) :
    (cbFunction handler = withoutCleanup handler.body ∧
        (∀ memory, ¬Releases handler memory) ∧
        ∀ results state, ((withoutCleanup handler.body).final results state).isSome) ∨
      (∃ rejects accepted, cbFunction handler = withCheck rejects accepted ∧
        handler.body = (do
          let rejected ← test rejects
          if rejected then pure (-einval) else accepted) ∧
        ∀ memory, Releases handler memory ↔ rejects memory = false) ∨
      cbFunction handler = withCleanup handler.body ∧ ∀ memory, Releases handler memory := by
  by_cases isPrintf : handler = .handlePrintf
  · subst isPrintf
    exact .inl ⟨rfl, fun _ releases => releases.notPrintf rfl, fun _ _ => rfl⟩
  by_cases isFreeaddrinfo : handler = .handleFreeaddrinfo
  · subst isFreeaddrinfo
    exact .inl ⟨rfl, fun _ releases => releases.notFreeaddrinfo rfl, fun _ _ => rfl⟩
  right
  by_cases isGetaddrinfo : handler = .handleGetaddrinfo
  · subst isGetaddrinfo
    refine .inl ⟨getaddrinfoRejects, getaddrinfoAccepted, rfl, rfl, fun memory => ?_⟩
    exact ⟨fun releases => releases.getaddrinfo rfl,
      fun accepted => ⟨isPrintf, isFreeaddrinfo, fun _ => accepted, by simp⟩⟩
  by_cases isGetcwd : handler = .handleGetcwd
  · subst isGetcwd
    refine .inl ⟨getcwdRejects, getcwdAccepted, rfl, rfl, fun memory => ?_⟩
    exact ⟨fun releases => releases.getcwd rfl,
      fun accepted => ⟨isPrintf, isFreeaddrinfo, by simp, fun _ => accepted⟩⟩
  refine .inr ⟨?_, fun memory => ⟨isPrintf, isFreeaddrinfo, fun same => absurd same isGetaddrinfo,
    fun same => absurd same isGetcwd⟩⟩
  unfold cbFunction
  split
  · exact absurd rfl isPrintf
  · exact absurd rfl isFreeaddrinfo
  · exact absurd rfl isGetaddrinfo
  · exact absurd rfl isGetcwd
  · rfl

theorem final_withCleanup {body : Program ℤ}
    (ends : (withCleanup body).final results state = some ((ret, freed), last)) : freed = 1 := by
  rw [withCleanup, Program.final_bind] at ends
  rcases Option.bind_eq_some_iff.1 ends with ⟨bodyLast, -, returned⟩
  cases returned
  rfl

theorem final_test_bind {α : Type} (condition : Mem → Bool) (next : Bool → Program α) :
    (test condition >>= next).final results state =
      (next (condition state.mem)).final results state := by
  rw [Program.final_bind, test]
  cases decided : condition state.mem <;> simp [Program.final, decided]

theorem freed_of_releases (releases : Releases handler state.mem)
    (ends : (cbFunction handler).final results state = some ((ret, freed), last)) :
    freed = 1 := by
  rcases cbFunction_cases handler with
    ⟨-, never, -⟩ | ⟨rejects, accepted, isCheck, -, decides⟩ | ⟨isCleanup, -⟩
  · exact absurd releases (never _)
  · rw [isCheck, withCheck, final_test_bind, (decides _).1 releases] at ends
    exact final_withCleanup ends
  · rw [isCleanup] at ends
    exact final_withCleanup ends

theorem final_of_not_releases (lost : ¬Releases handler state.mem) (results : ℕ → OsResult) :
    ∃ ret last, (cbFunction handler).final results state = some ((ret, 0), last) := by
  rcases cbFunction_cases handler with
    ⟨isBare, -, total⟩ | ⟨rejects, accepted, isCheck, -, decides⟩ | ⟨-, always⟩
  · rcases Option.isSome_iff_exists.1 (total results state) with ⟨⟨⟨ret, freed⟩, last⟩, ends⟩
    have none : freed = 0 := by
      have returned := ends
      rw [withoutCleanup, Program.final_bind] at returned
      rcases Option.bind_eq_some_iff.1 returned with ⟨bodyLast, -, returned⟩
      cases returned
      rfl
    exact ⟨ret, last, by rw [isBare, ends, none]⟩
  · rw [isCheck, withCheck, final_test_bind, Bool.eq_true_of_not_eq_false (mt (decides _).2 lost)]
    exact ⟨_, _, rfl⟩
  · exact absurd (always _) lost

/-- Up to the freeing, the handlers are those of the build without workers. -/
theorem fst_cbFunction (handler : Handler) : Prod.fst <$> cbFunction handler = handler.body := by
  have forget : ∀ (body : Program ℤ) (count : ℕ),
      Prod.fst <$> (do let ret ← body; pure (ret, count)) = body := by
    intro body count
    simp
  rcases cbFunction_cases handler with
    ⟨isBare, -⟩ | ⟨rejects, accepted, isCheck, isBody, -⟩ | ⟨isCleanup, -⟩
  · rw [isBare]
    exact forget _ _
  · rw [isCheck, isBody, withCheck, map_bind]
    congr
    funext rejected
    cases rejected
    · exact forget _ _
    · rfl
  · rw [isCleanup]
    exact forget _ _

end Handlers

/-! ## The server with its buffers -/

/-- The server, the messages that have a buffer, and the buffers that were freed, in order. -/
structure Ledger (workers : ℕ) where
  server : Server workers
  allocated : List ℕ
  released : List ℕ

/-- A message, a step of a worker that is not in a handler, or the end of the handler that the
worker executes. A handler finds unspecified memory behind its request, the `errno` of its thread
and the results of its calls. -/
inductive BufferEvent (workers : ℕ) where
  | message (message : Message) (allocation : Allocation) (preferred : Fin workers)
  | dequeue (worker : Fin workers)
  | wakeUp (worker : Fin workers)
  | handle (worker : Fin workers) (before : State) (results : ℕ → OsResult)

/-- The callback allocates a buffer for the message. -/
def Allocates (message : Message) (allocation : Allocation) : Prop :=
  message.len ≤ rpcBufferSize ∧ allocation.buf = true

instance (message : Message) (allocation : Allocation) :
    Decidable (Allocates message allocation) :=
  inferInstanceAs (Decidable (_ ∧ _))

/-- The state in which a handler is called: the request lies in front of unspecified memory. -/
def entered (req : Req) (before : State) : State :=
  { before with mem := overwrite before.mem requestBuffer req.data }

namespace Ledger

def init (previous : ℕ → Option Req) (workers : ℕ) : Ledger workers where
  server := Server.init previous workers
  allocated := []
  released := []

def step (ledger : Ledger workers) : BufferEvent workers → Ledger workers
  | .message message allocation preferred =>
      { ledger with
        server := ledger.server.step (.message message allocation preferred)
        allocated := if Allocates message allocation then
            ledger.allocated ++ [ledger.server.received]
          else ledger.allocated }
  | .dequeue worker => { ledger with server := ledger.server.step (.worker (.dequeue worker)) }
  | .wakeUp worker => { ledger with server := ledger.server.step (.worker (.wakeUp worker)) }
  | .handle worker before results =>
      match ledger.server.pool.phase worker with
      | .executing req =>
          match (cbFunction req.service.cbFunction).final results (entered req before) with
          | some ((_, freed), _) =>
              { ledger with
                server := ledger.server.step (.worker (.finish worker))
                released := ledger.released ++ List.replicate freed req.serial }
          | none => ledger
      | _ => ledger

/-- The message has a request that is queued or being executed. -/
def Holds (ledger : Ledger workers) (serial : ℕ) : Prop :=
  (∃ req, some req ∈ ledger.server.pool.queue.contents ∧ req.serial = serial) ∨
    ∃ worker req, ledger.server.pool.phase worker = .executing req ∧ req.serial = serial

/-- The buffers that are allocated and not released are those of the requests that are queued or
being executed, and no buffer is released twice. -/
structure Accounted (ledger : Ledger workers) : Prop where
  outstanding : ∀ serial, (serial ∈ ledger.allocated ∧ serial ∉ ledger.released) ↔
    ledger.Holds serial
  owned : ∀ serial ∈ ledger.released, serial ∈ ledger.allocated
  once : ledger.released.Nodup

/-- The step gives up no buffer: a message with a buffer is queued, and a handler that comes to its
end frees its request. -/
def Careful (ledger : Ledger workers) : BufferEvent workers → Prop
  | .message message allocation _ => Allocates message allocation →
      (findService (message.id % 2 ^ 32)).isSome ∧ allocation.req = true ∧
        ledger.server.pool.queue.contents.length ≠ maxQueueSize - 1
  | .handle worker before _ => ∀ req, ledger.server.pool.phase worker = .executing req →
      Releases req.service.cbFunction (entered req before).mem
  | _ => True

/-! ## One step -/

section Step

variable {ledger : Ledger workers} {items : List Req}

theorem step_message_queued (stores : ledger.server.pool.Stores maxQueueSize items)
    {message : Message} {allocation : Allocation} (allocates : Allocates message allocation)
    {preferred : Fin workers}
    (careful : ledger.Careful (.message message allocation preferred)) :
    ∃ pool, (∃ later, WorkerPool.Stores pool maxQueueSize later) ∧
      pool.executed = ledger.server.pool.executed ∧
      (∀ serial, pool.occurrences (fun req => req.serial = serial) =
        ledger.server.occurrences serial + (decide (ledger.server.received = serial)).toNat) ∧
      (ledger.server.step (.message message allocation preferred)).pool = pool := by
  rcases careful allocates with ⟨known, built, room⟩
  rcases Option.isSome_iff_exists.1 known with ⟨service, found⟩
  rw [stores.represents.contents_eq, List.length_map] at room
  rw [Server.step_of_found (not_lt.2 allocates.1) allocates.2 found]
  have queued := stores.enqueue room ⟨ledger.server.received, message.bytes, service⟩ preferred
  refine ⟨_, ⟨_, queued.1⟩, ?_, fun serial => queued.2 _, ?_⟩
  · rcases WorkerPool.enqueue_cases stores.represents
      ⟨ledger.server.received, message.bytes, service⟩ preferred with
      ⟨-, refused⟩ | ⟨-, queue, -, -, granted⟩
    · rw [refused]
    · rw [granted]
  · simp only [buildReq, built, if_true, enqueueReq]

theorem step_message_unqueued (stores : ledger.server.pool.Stores maxQueueSize items)
    {message : Message} {allocation : Allocation} {preferred : Fin workers}
    (unqueued : ¬(Allocates message allocation ∧
      ledger.Careful (.message message allocation preferred))) :
    (ledger.server.step (.message message allocation preferred)).pool = ledger.server.pool := by
  by_cases overlong : rpcBufferSize < message.len
  · simp only [Server.step, rpmsgRpcServerCb, if_pos overlong, Server.sendError]
  by_cases copied : allocation.buf = true
  swap
  · simp only [Server.step, rpmsgRpcServerCb, if_neg overlong, if_pos copied, Server.sendError]
  cases found : findService (message.id % 2 ^ 32) with
  | none =>
      simp only [Server.step, rpmsgRpcServerCb, if_neg overlong, copied, found, Server.sendError,
        not_true, if_false]
  | some service =>
      rw [Server.step_of_found overlong copied found]
      cases built : allocation.req with
      | false => simp [buildReq, enqueueReq]
      | true =>
          by_cases full : items.length = maxQueueSize - 1
          · simp [buildReq, enqueueReq, stores.enqueue_full full]
          · refine absurd ⟨⟨not_lt.1 overlong, copied⟩, ?_⟩ unqueued
            intro _
            refine ⟨by rw [found]; rfl, built, ?_⟩
            rwa [stores.represents.contents_eq, List.length_map]

/-- All that a handler can do: nothing, or come to its end. -/
theorem step_handle_cases (ledger : Ledger workers) (worker : Fin workers) (before : State)
    (results : ℕ → OsResult) :
    ledger.step (.handle worker before results) = ledger ∨
      ∃ req ret freed last, ledger.server.pool.phase worker = .executing req ∧
        (cbFunction req.service.cbFunction).final results (entered req before) =
          some ((ret, freed), last) ∧
        ledger.step (.handle worker before results) =
          { ledger with
            server := ledger.server.step (.worker (.finish worker))
            released := ledger.released ++ List.replicate freed req.serial } := by
  cases phase : ledger.server.pool.phase worker with
  | awake => exact Or.inl (by simp only [step, phase])
  | blocked => exact Or.inl (by simp only [step, phase])
  | executing req =>
      cases ends : (cbFunction req.service.cbFunction).final results (entered req before) with
      | none => exact Or.inl (by simp only [step, phase, ends])
      | some last =>
          rcases last with ⟨⟨ret, freed⟩, last⟩
          exact Or.inr ⟨req, ret, freed, last, rfl, ends, by simp only [step, phase, ends]⟩

theorem executed_finish {worker : Fin workers} {req : Req}
    (phase : ledger.server.pool.phase worker = .executing req) :
    (ledger.server.step (.worker (.finish worker))).pool.executed =
      ledger.server.pool.executed ++ [req] := by
  simp only [Server.step, WorkerPool.workerStep, phase]

theorem executed_dequeue (stores : ledger.server.pool.Stores maxQueueSize items)
    (worker : Fin workers) :
    (ledger.server.step (.worker (.dequeue worker))).pool.executed =
      ledger.server.pool.executed := by
  cases phase : ledger.server.pool.phase worker with
  | awake =>
      simp only [Server.step, WorkerPool.workerStep, phase]
      rcases WorkerPool.dequeue_cases stores.represents worker with
        ⟨-, sleeps⟩ | ⟨req, rest, queue, -, -, -, takes⟩
      · rw [sleeps]
      · rw [takes]
  | blocked => simp only [Server.step, WorkerPool.workerStep, phase]
  | executing req => simp only [Server.step, WorkerPool.workerStep, phase]

theorem executed_wakeUp (worker : Fin workers) :
    (ledger.server.step (.worker (.wakeUp worker))).pool.executed =
      ledger.server.pool.executed := by
  cases phase : ledger.server.pool.phase worker <;>
    simp only [Server.step, WorkerPool.workerStep, phase]

end Step

/-! ## Invariants -/

/-- How often the request of a message is queued or being executed. -/
def pending (ledger : Ledger workers) (serial : ℕ) : ℕ :=
  ledger.server.pool.queue.contents.countP (fun req => req.any fun req => req.serial = serial) +
    Crew.headcount (WorkerPhase.executes fun req => req.serial = serial) ledger.server.pool.phase

/-- How often the request of a message has been executed. -/
def done (ledger : Ledger workers) (serial : ℕ) : ℕ :=
  (ledger.server.pool.executed.map Req.serial).count serial

/-- What holds in every run: requests are not duplicated. -/
structure Tracked (ledger : Ledger workers) : Prop where
  consistent : ledger.server.Consistent
  unique : ∀ serial, ledger.server.occurrences serial ≤ 1
  allocated_lt : ∀ serial ∈ ledger.allocated, serial < ledger.server.received

/-- What holds as long as no buffer is given up: the messages with a buffer are those with a
request, and the buffers of the executed requests are released. -/
structure Settled (ledger : Ledger workers) : Prop where
  released_eq : ledger.released = ledger.server.pool.executed.map Req.serial
  allocated_count : ∀ serial, ledger.allocated.count serial = ledger.server.occurrences serial

section Invariants

variable {ledger : Ledger workers}

theorem occurrences_eq_pending_add_done (ledger : Ledger workers) (serial : ℕ) :
    ledger.server.occurrences serial = ledger.pending serial + ledger.done serial := by
  have counted : ledger.done serial =
      ledger.server.pool.executed.countP fun req => req.serial = serial := by
    rw [done, List.count, List.countP_map]
    rfl
  rw [counted]
  rfl

theorem holds_iff_pending_pos {serial : ℕ} : ledger.Holds serial ↔ 0 < ledger.pending serial := by
  have queued : 0 < ledger.server.pool.queue.contents.countP
        (fun req => req.any fun req => req.serial = serial) ↔
      ∃ req, some req ∈ ledger.server.pool.queue.contents ∧ req.serial = serial := by
    rw [List.countP_pos_iff]
    constructor
    · rintro ⟨slot, listed, selected⟩
      cases slot with
      | none => cases selected
      | some req => exact ⟨req, listed, by simpa using selected⟩
    · rintro ⟨req, listed, same⟩
      exact ⟨some req, listed, by simpa using same⟩
  have executing : 0 < Crew.headcount
        (WorkerPhase.executes fun req => req.serial = serial) ledger.server.pool.phase ↔
      ∃ worker req, ledger.server.pool.phase worker = .executing req ∧ req.serial = serial := by
    rw [Crew.headcount_pos_iff]
    constructor
    · rintro ⟨worker, selected⟩
      cases phase : ledger.server.pool.phase worker with
      | executing req =>
          rw [phase] at selected
          exact ⟨worker, req, phase, by simpa [WorkerPhase.executes] using selected⟩
      | _ =>
          rw [phase] at selected
          cases selected
    · rintro ⟨worker, req, phase, same⟩
      exact ⟨worker, by simp [phase, WorkerPhase.executes, same]⟩
  rw [Holds, ← queued, ← executing, pending, Nat.add_pos_iff_pos_or_pos]

theorem Settled.accounted (settled : ledger.Settled) (tracked : ledger.Tracked) :
    ledger.Accounted := by
  have balance : ∀ serial, ledger.allocated.count serial =
      ledger.pending serial + ledger.released.count serial := by
    intro serial
    rw [settled.allocated_count, occurrences_eq_pending_add_done, settled.released_eq, done]
  have atMostOne : ∀ serial, ledger.allocated.count serial ≤ 1 := by
    intro serial
    rw [settled.allocated_count]
    exact tracked.unique serial
  refine ⟨?_, ?_, ?_⟩
  · intro serial
    have sum := balance serial
    have bound := atMostOne serial
    rw [holds_iff_pending_pos, ← List.count_pos_iff, ← List.count_eq_zero]
    omega
  · intro serial freed
    have sum := balance serial
    rw [← List.count_pos_iff] at freed ⊢
    omega
  · rw [List.nodup_iff_count_le_one]
    intro serial
    have sum := balance serial
    have bound := atMostOne serial
    omega

theorem tracked_init (previous : ℕ → Option Req) : (init previous workers).Tracked where
  consistent := Server.consistent_init previous
  unique serial :=
    ((Server.consistent_init previous).fresh serial (Nat.zero_le _)).trans_le (Nat.zero_le 1)
  allocated_lt serial listed := by simp [init] at listed

theorem settled_init (previous : ℕ → Option Req) : (init previous workers).Settled where
  released_eq := rfl
  allocated_count serial := ((Server.consistent_init previous).fresh serial (Nat.zero_le _)).symm

theorem Tracked.worker (tracked : ledger.Tracked) (event : WorkerEvent workers)
    (released : List ℕ) :
    Tracked { ledger with server := ledger.server.step (.worker event), released := released } := by
  rcases tracked.consistent.stores with ⟨items, stores⟩
  rcases stores.workerStep event with ⟨-, -, counts⟩
  refine ⟨tracked.consistent.step (.worker event), ?_, tracked.allocated_lt⟩
  intro serial
  exact (counts _).trans_le (tracked.unique serial)

theorem Tracked.message (tracked : ledger.Tracked) (message : Message) (allocation : Allocation)
    (preferred : Fin workers) :
    (ledger.step (.message message allocation preferred)).Tracked := by
  rcases tracked.consistent.stores with ⟨items, stores⟩
  refine ⟨tracked.consistent.step (.message message allocation preferred), ?_, ?_⟩
  · intro serial
    have old := tracked.unique serial
    by_cases queued : Allocates message allocation ∧
        ledger.Careful (.message message allocation preferred)
    · rcases step_message_queued stores queued.1 queued.2 with ⟨pool, -, -, counts, next⟩
      have count := counts serial
      rw [← next] at count
      rcases eq_or_ne ledger.server.received serial with rfl | differs
      · rw [tracked.consistent.fresh _ le_rfl, decide_eq_true rfl] at count
        exact count.le
      · rw [decide_eq_false differs] at count
        exact count.trans_le old
    · have next := step_message_unqueued stores queued
      exact (congrArg (fun pool => pool.occurrences fun req => req.serial = serial)
        next).trans_le old
  · intro serial listed
    have old : serial ∈ ledger.allocated → serial < ledger.server.received + 1 :=
      fun member => Nat.lt_succ_of_lt (tracked.allocated_lt serial member)
    by_cases allocates : Allocates message allocation
    · simp only [step, if_pos allocates] at listed
      rcases List.mem_append.1 listed with member | new
      · exact old member
      · rw [List.mem_singleton.1 new]
        exact Nat.lt_succ_self _
    · simp only [step, if_neg allocates] at listed
      exact old listed

theorem Tracked.step (tracked : ledger.Tracked) (event : BufferEvent workers) :
    (ledger.step event).Tracked := by
  cases event with
  | message message allocation preferred => exact tracked.message message allocation preferred
  | dequeue worker => exact tracked.worker _ _
  | wakeUp worker => exact tracked.worker _ _
  | handle worker before results =>
      rcases step_handle_cases ledger worker before results with
        unchanged | ⟨req, ret, freed, last, -, -, ended⟩
      · rw [unchanged]
        exact tracked
      · rw [ended]
        exact tracked.worker _ _

theorem Settled.message (settled : ledger.Settled) (tracked : ledger.Tracked) {message : Message}
    {allocation : Allocation} {preferred : Fin workers}
    (careful : ledger.Careful (.message message allocation preferred)) :
    (ledger.step (.message message allocation preferred)).Settled := by
  rcases tracked.consistent.stores with ⟨items, stores⟩
  by_cases allocates : Allocates message allocation
  · rcases step_message_queued stores allocates careful with ⟨pool, -, executed, counts, next⟩
    refine ⟨?_, ?_⟩
    · simp only [step, next, executed]
      exact settled.released_eq
    · intro serial
      have count := counts serial
      rw [← next] at count
      simp only [step, if_pos allocates]
      refine Eq.trans ?_ count.symm
      rw [List.count_append, settled.allocated_count, List.count_singleton]
      rcases eq_or_ne ledger.server.received serial with rfl | differs
      · simp
      · simp [differs]
  · have unqueued : ¬(Allocates message allocation ∧
        ledger.Careful (.message message allocation preferred)) :=
      fun queued => allocates queued.1
    have next := step_message_unqueued stores unqueued
    refine ⟨?_, ?_⟩
    · simp only [step, next]
      exact settled.released_eq
    · intro serial
      simp only [step, if_neg allocates]
      rw [settled.allocated_count, Server.occurrences, Server.occurrences, next]

theorem Settled.worker (settled : ledger.Settled) (tracked : ledger.Tracked)
    {event : WorkerEvent workers} {added : List Req}
    (executed : (ledger.server.step (.worker event)).pool.executed =
      ledger.server.pool.executed ++ added) :
    Settled { ledger with
      server := ledger.server.step (.worker event)
      released := ledger.released ++ added.map Req.serial } := by
  rcases tracked.consistent.stores with ⟨items, stores⟩
  rcases stores.workerStep event with ⟨-, -, counts⟩
  refine ⟨?_, ?_⟩
  · dsimp only
    rw [executed, List.map_append, settled.released_eq]
  · intro serial
    exact (settled.allocated_count serial).trans (counts _).symm

theorem Settled.step (settled : ledger.Settled) (tracked : ledger.Tracked)
    {event : BufferEvent workers} (careful : ledger.Careful event) :
    (ledger.step event).Settled := by
  rcases tracked.consistent.stores with ⟨items, stores⟩
  cases event with
  | message message allocation preferred => exact settled.message tracked careful
  | dequeue worker =>
      have executed := (executed_dequeue stores worker).trans (List.append_nil _).symm
      have next := settled.worker tracked executed
      rwa [List.map_nil, List.append_nil] at next
  | wakeUp worker =>
      have executed := (@executed_wakeUp workers ledger worker).trans (List.append_nil _).symm
      have next := settled.worker tracked executed
      rwa [List.map_nil, List.append_nil] at next
  | handle worker before results =>
      rcases step_handle_cases ledger worker before results with
        unchanged | ⟨req, ret, freed, last, phase, ends, ended⟩
      · rw [unchanged]
        exact settled
      · rw [ended, freed_of_releases (careful req phase) ends]
        exact settled.worker tracked (executed_finish phase)

theorem not_accounted_of_unqueued (tracked : ledger.Tracked) (accounted : ledger.Accounted)
    {message : Message} {allocation : Allocation} {preferred : Fin workers}
    (careless : ¬ledger.Careful (.message message allocation preferred)) :
    ¬(ledger.step (.message message allocation preferred)).Accounted := by
  rcases tracked.consistent.stores with ⟨items, stores⟩
  have allocates : Allocates message allocation := by
    by_contra none
    exact careless fun allocates => absurd allocates none
  have next := step_message_unqueued stores fun queued => careless queued.2
  intro later
  have fresh : ledger.server.received ∉ ledger.released := by
    intro freed
    exact absurd (tracked.allocated_lt _ (accounted.owned _ freed)) (lt_irrefl _)
  have listed : ledger.server.received ∈
      (ledger.step (.message message allocation preferred)).allocated := by
    simp only [step, if_pos allocates]
    exact List.mem_append_right _ (List.mem_singleton_self _)
  have held := holds_iff_pending_pos.1 ((later.outstanding _).1 ⟨listed, fresh⟩)
  have unused := occurrences_eq_pending_add_done ledger ledger.server.received
  rw [tracked.consistent.fresh _ le_rfl] at unused
  simp only [pending, step, next] at held
  simp only [pending] at unused
  omega

theorem not_accounted_of_not_releases (tracked : ledger.Tracked) (accounted : ledger.Accounted)
    {worker : Fin workers} {before : State} {results : ℕ → OsResult} {req : Req}
    (phase : ledger.server.pool.phase worker = .executing req)
    (lost : ¬Releases req.service.cbFunction (entered req before).mem) :
    ¬(ledger.step (.handle worker before results)).Accounted := by
  rcases final_of_not_releases lost results with ⟨ret, last, ends⟩
  have ended : ledger.step (.handle worker before results) =
      { ledger with server := ledger.server.step (.worker (.finish worker)) } := by
    simp only [step, phase, ends, List.replicate_zero, List.append_nil]
  have outstanding := (accounted.outstanding req.serial).2 (Or.inr ⟨worker, req, phase, rfl⟩)
  have unique := (tracked.step (.handle worker before results)).unique req.serial
  rw [occurrences_eq_pending_add_done] at unique
  intro later
  rw [ended] at later unique
  have held := holds_iff_pending_pos.1 ((later.outstanding req.serial).1 outstanding)
  have executed : 0 < done { ledger with
      server := ledger.server.step (.worker (.finish worker)) } req.serial := by
    rw [done, executed_finish phase, List.count_pos_iff, List.map_append]
    exact List.mem_append_right _ (List.mem_singleton_self _)
  omega

theorem careful_of_accounted (tracked : ledger.Tracked) (accounted : ledger.Accounted)
    {event : BufferEvent workers} (later : (ledger.step event).Accounted) :
    ledger.Careful event := by
  by_contra careless
  cases event with
  | message message allocation preferred =>
      exact not_accounted_of_unqueued tracked accounted careless later
  | dequeue worker => exact careless trivial
  | wakeUp worker => exact careless trivial
  | handle worker before results =>
      apply careless
      intro req phase
      by_contra lost
      exact not_accounted_of_not_releases tracked accounted phase lost later

end Invariants

end Ledger

/-! ## Runs -/

section Runs

variable {start : Ledger workers} {events : List (BufferEvent workers)}

theorem allAccounted_of_allCareful (tracked : start.Tracked) (settled : start.Settled)
    (careful : Run.AllSteps Ledger.step start Ledger.Careful events) :
    Run.AllStates Ledger.step start Ledger.Accounted events := by
  have states : Run.AllStates Ledger.step start
      (fun ledger => ledger.Tracked ∧ ledger.Settled) events := by
    refine careful.allStates ⟨tracked, settled⟩ ?_
    rintro ledger event ⟨tracked, settled⟩ careful
    exact ⟨tracked.step event, settled.step tracked careful⟩
  intro before isPrefix
  rcases states before isPrefix with ⟨tracked, settled⟩
  exact settled.accounted tracked

theorem allCareful_of_allAccounted (tracked : start.Tracked)
    (accounted : Run.AllStates Ledger.step start Ledger.Accounted events) :
    Run.AllSteps Ledger.step start Ledger.Careful events := by
  intro before event isPrefix
  have now := accounted before ((List.prefix_append before [event]).trans isPrefix)
  have later := accounted (before ++ [event]) isPrefix
  rw [Run.foldl_concat] at later
  have reached := Run.invariant_foldl tracked (fun _ event tracked => tracked.step event) before
  exact Ledger.careful_of_accounted reached now later

/-- The buffers are accounted for in every state of a run exactly if every message with a buffer
has an id in the table, gets memory for its request and finds a queue that is not full, and no
handler is that of `printf` or `freeaddrinfo` or rejects its request as `getaddrinfo` and `getcwd`
do. -/
theorem allAccounted_iff (previous : ℕ → Option Req) (events : List (BufferEvent workers)) :
    Run.AllStates Ledger.step (Ledger.init previous workers) Ledger.Accounted events ↔
      Run.AllSteps Ledger.step (Ledger.init previous workers) Ledger.Careful events := by
  have tracked := @Ledger.tracked_init workers previous
  exact ⟨allCareful_of_allAccounted tracked,
    allAccounted_of_allCareful tracked (Ledger.settled_init previous)⟩

/-- A request for `printf` that consists of its id. -/
def printfMessage : Message where
  data index := if index = 0 then 44 else if index = 1 then 1 else 0
  len := 8
  src := 0

theorem findService_printfMessage :
    findService (printfMessage.id % 2 ^ 32) = some ⟨printfId, .handlePrintf⟩ := by
  decide

/-- A request for `printf` that the worker has taken from the queue. -/
def printfTaken (worker : Fin workers) : List (BufferEvent workers) :=
  [.message printfMessage ⟨true, true⟩ worker, .dequeue worker]

theorem phase_printfTaken (previous : ℕ → Option Req) :
    ((printfTaken 0).foldl Ledger.step (Ledger.init previous 5)).server.pool.phase 0 =
      .executing ⟨0, printfMessage.bytes, printfId, .handlePrintf⟩ := by
  simp only [printfTaken, List.foldl_cons, List.foldl_nil, Ledger.step]
  rw [Server.step_of_found (by decide) rfl findService_printfMessage]
  rfl

/-- The buffer of a request for `printf` is never released. -/
theorem not_allAccounted_printf :
    ¬Run.AllStates Ledger.step (Ledger.init (fun _ => none) 5) Ledger.Accounted
      (printfTaken 0 ++ [.handle 0 ⟨fun _ => 0, 0, 0⟩ fun _ => {}]) := by
  intro accounted
  have careful := allCareful_of_allAccounted (Ledger.tracked_init _) accounted (printfTaken 0) _
    (List.prefix_refl _)
  exact (careful _ (phase_printfTaken _)).notPrintf rfl

end Runs

end Mica.Rpc.MultiWorkers
