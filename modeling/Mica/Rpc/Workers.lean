import Mica.Lib.Run
import Mica.Rpc.WorkerQueue

/-!
# The RPC workers

`enqueue`, `dequeue` and `worker_thread` of `services/rpc/rpc_workers.c`. A worker
takes a request from the queue or waits for the condition of the queue. A worker
that is woken does not take a request: `dequeue` returns -1 and the worker calls
it again, so that another worker may have taken the request by then.

The sections under the lock are atomic. `pthread_cond_signal` unblocks one blocked
worker if there is any, and a blocked worker may also wake up on its own.
-/

namespace Mica.Rpc

universe u

variable {α : Type u} {workers : ℕ}

/-- What a worker does: it is about to call `dequeue`, it is blocked in `pthread_cond_wait`, or it
executes the handler of a request. -/
inductive WorkerPhase (α : Type u) where
  | awake
  | blocked
  | executing (req : α)

namespace WorkerPhase

def isAwake : WorkerPhase α → Bool
  | .awake => true
  | _ => false

def isBlocked : WorkerPhase α → Bool
  | .blocked => true
  | _ => false

/-- The worker executes a selected request. -/
def executes (select : α → Bool) : WorkerPhase α → Bool
  | .executing req => select req
  | _ => false

theorem isBlocked_iff {phase : WorkerPhase α} : phase.isBlocked = true ↔ phase = .blocked := by
  cases phase <;> simp [isBlocked]

end WorkerPhase

/-- The queue, the workers, and the requests whose handler has returned, in order. -/
structure WorkerPool (workers : ℕ) (α : Type u) where
  queue : RpcQueue α
  phase : Fin workers → WorkerPhase α
  executed : List α

/-- What a worker does, or has done to it. -/
inductive WorkerEvent (workers : ℕ) where
  | dequeue (worker : Fin workers)
  | wakeUp (worker : Fin workers)
  | finish (worker : Fin workers)

/-- What happens in the pool. The signal for a request goes to the preferred worker, or if that
one is not blocked to the first that is. -/
inductive PoolEvent (workers : ℕ) (α : Type u) where
  | enqueue (req : α) (preferred : Fin workers)
  | worker (event : WorkerEvent workers)

namespace WorkerPool

/-- `workers_init`, with a queue of any size. -/
def workersInit (previous : ℕ → Option α) (size workers : ℕ) : WorkerPool workers α where
  queue := RpcQueue.rqInit previous size
  phase _ := .awake
  executed := []

/-- `pthread_cond_signal` -/
def condSignal (phase : Fin workers → WorkerPhase α) (preferred : Fin workers) :
    Fin workers → WorkerPhase α :=
  match (preferred :: List.finRange workers).find? fun worker => (phase worker).isBlocked with
  | some worker => Function.update phase worker .awake
  | none => phase

/-- `enqueue`: the value returned and the pool. -/
def enqueue (pool : WorkerPool workers α) (req : α) (preferred : Fin workers) :
    Int × WorkerPool workers α :=
  let (err, queue) := pool.queue.lockedEnqueue req
  if err = 0 then
    (err, { pool with queue := queue, phase := condSignal pool.phase preferred })
  else (err, { pool with queue := queue })

/-- `dequeue` and what `worker_thread` does with the result. -/
def dequeue (pool : WorkerPool workers α) (worker : Fin workers) : WorkerPool workers α :=
  let (err, req, queue) := pool.queue.lockedDequeue
  if err = -1 then
    { pool with queue := queue, phase := Function.update pool.phase worker .blocked }
  else
    match req with
    | none => { pool with queue := queue }
    | some req =>
        { pool with queue := queue, phase := Function.update pool.phase worker (.executing req) }

/-- An event of a worker; one that the worker cannot take part in changes nothing. -/
def workerStep (pool : WorkerPool workers α) : WorkerEvent workers → WorkerPool workers α
  | .dequeue worker =>
      match pool.phase worker with
      | .awake => pool.dequeue worker
      | _ => pool
  | .wakeUp worker =>
      match pool.phase worker with
      | .blocked => { pool with phase := Function.update pool.phase worker .awake }
      | _ => pool
  | .finish worker =>
      match pool.phase worker with
      | .executing req =>
          { pool with
            phase := Function.update pool.phase worker .awake
            executed := pool.executed ++ [req] }
      | _ => pool

def step (pool : WorkerPool workers α) : PoolEvent workers α → WorkerPool workers α
  | .enqueue req preferred => (pool.enqueue req preferred).2
  | .worker event => pool.workerStep event

def after (pool : WorkerPool workers α) (events : List (PoolEvent workers α)) :
    WorkerPool workers α :=
  events.foldl step pool

/-- The workers that are awake and do not execute a handler. -/
def awake (pool : WorkerPool workers α) : ℕ := Crew.headcount WorkerPhase.isAwake pool.phase

/-- The number of times a selected request is queued, being executed or has been executed. -/
def occurrences (pool : WorkerPool workers α) (select : α → Bool) : ℕ :=
  pool.queue.contents.countP (fun req => req.any select) +
    Crew.headcount (WorkerPhase.executes select) pool.phase + pool.executed.countP select

/-! ## Wakeups -/

theorem condSignal_cases (phase : Fin workers → WorkerPhase α) (preferred : Fin workers) :
    (∃ worker, phase worker = .blocked ∧
        condSignal phase preferred = Function.update phase worker .awake) ∨
      (∀ worker, phase worker ≠ .blocked) ∧ condSignal phase preferred = phase := by
  rw [condSignal]
  split
  · rename_i worker found
    have blocked := List.find?_some found
    exact Or.inl ⟨worker, WorkerPhase.isBlocked_iff.1 blocked, rfl⟩
  · rename_i nobody
    refine Or.inr ⟨?_, rfl⟩
    intro worker blocked
    have listed : worker ∈ preferred :: List.finRange workers :=
      List.mem_cons_of_mem _ (List.mem_finRange worker)
    exact List.find?_eq_none.1 nobody worker listed (WorkerPhase.isBlocked_iff.2 blocked)

/-- The pool stores the items, and a worker only sleeps if every item has a worker that is
awake. -/
structure Attended (pool : WorkerPool workers α) (items : List α) : Prop where
  represents : pool.queue.Represents items
  attended : ∀ worker, pool.phase worker = .blocked → items.length ≤ pool.awake

section Step

variable {pool : WorkerPool workers α} {items : List α}

/-- All that `enqueue` can do. -/
theorem enqueue_cases (represents : pool.queue.Represents items) (req : α)
    (preferred : Fin workers) :
    (items.length = pool.queue.size - 1 ∧ pool.enqueue req preferred = (-1, pool)) ∨
      (items.length ≠ pool.queue.size - 1 ∧ ∃ queue, queue.Represents (items ++ [req]) ∧
        queue.size = pool.queue.size ∧
        pool.enqueue req preferred =
          (0, { pool with queue := queue, phase := condSignal pool.phase preferred })) := by
  by_cases full : items.length = pool.queue.size - 1
  · refine Or.inl ⟨full, ?_⟩
    simp [enqueue, represents.lockedEnqueue_full full]
  · rcases represents.lockedEnqueue full req with ⟨queue, granted, represents, size⟩
    refine Or.inr ⟨full, queue, represents, size, ?_⟩
    simp [enqueue, granted]

/-- All that `dequeue` can do. -/
theorem dequeue_cases (represents : pool.queue.Represents items) (worker : Fin workers) :
    (items = [] ∧ pool.dequeue worker =
        { pool with phase := Function.update pool.phase worker .blocked }) ∨
      ∃ req rest queue, items = req :: rest ∧ queue.Represents rest ∧
        queue.size = pool.queue.size ∧
        pool.dequeue worker =
          { pool with
            queue := queue
            phase := Function.update pool.phase worker (.executing req) } := by
  cases items with
  | nil =>
      refine Or.inl ⟨rfl, ?_⟩
      simp [dequeue, represents.lockedDequeue_empty]
  | cons req rest =>
      rcases represents.lockedDequeue with ⟨queue, handed, restRepresents, size⟩
      refine Or.inr ⟨req, rest, queue, rfl, restRepresents, size, ?_⟩
      simp [dequeue, handed]

theorem countP_cons_toNat (select : α → Bool) (req : α) (rest : List α) :
    (req :: rest).countP select = rest.countP select + (select req).toNat := by
  rw [List.countP_cons, Bool.toNat, Bool.cond_eq_ite]

/-- All that an event of a worker can do: nothing, a call of `dequeue`, or the end of waiting or of
executing. -/
theorem workerStep_cases (pool : WorkerPool workers α) (event : WorkerEvent workers) :
    pool.workerStep event = pool ∨
      (∃ worker, pool.phase worker = .awake ∧ pool.workerStep event = pool.dequeue worker) ∨
      ∃ worker done, (pool.phase worker).isAwake = false ∧
        (∀ select, ((pool.phase worker).executes select).toNat = done.countP select) ∧
        pool.workerStep event =
          { pool with
            phase := Function.update pool.phase worker .awake
            executed := pool.executed ++ done } := by
  cases event with
  | dequeue worker =>
      cases phase : pool.phase worker with
      | awake => exact Or.inr (Or.inl ⟨worker, phase, by rw [workerStep, phase]⟩)
      | blocked => exact Or.inl (by rw [workerStep, phase])
      | executing req => exact Or.inl (by rw [workerStep, phase])
  | wakeUp worker =>
      cases phase : pool.phase worker with
      | awake => exact Or.inl (by rw [workerStep, phase])
      | blocked =>
          refine Or.inr (Or.inr ⟨worker, [], by rw [phase]; rfl, ?_, ?_⟩)
          · intro select
            rw [phase]
            rfl
          · rw [workerStep, phase, List.append_nil]
      | executing req => exact Or.inl (by rw [workerStep, phase])
  | finish worker =>
      cases phase : pool.phase worker with
      | awake => exact Or.inl (by rw [workerStep, phase])
      | blocked => exact Or.inl (by rw [workerStep, phase])
      | executing req =>
          refine Or.inr (Or.inr ⟨worker, [req], by rw [phase]; rfl, ?_, ?_⟩)
          · intro select
            rw [phase, countP_cons_toNat, List.countP_nil, Nat.zero_add]
            rfl
          · rw [workerStep, phase]

theorem blocked_of_update {phase : Fin workers → WorkerPhase α} {worker other : Fin workers}
    {next : WorkerPhase α} (awakened : next ≠ .blocked)
    (blocked : Function.update phase worker next other = .blocked) : phase other = .blocked := by
  rcases eq_or_ne other worker with rfl | differs
  · rw [Function.update_self] at blocked
    exact absurd blocked awakened
  · rwa [Function.update_of_ne differs] at blocked

namespace Attended

theorem wake (sound : pool.Attended items) {worker : Fin workers}
    (notAwake : (pool.phase worker).isAwake = false) (executed : List α) :
    Attended { pool with
      phase := Function.update pool.phase worker .awake, executed := executed } items := by
  refine ⟨sound.represents, ?_⟩
  intro other blocked
  have before := sound.attended other (blocked_of_update (by simp) blocked)
  have count := Crew.headcount_update WorkerPhase.isAwake pool.phase worker .awake
  rw [notAwake] at count
  simp only [awake] at before ⊢
  simp only [WorkerPhase.isAwake, Bool.toNat_true, Bool.toNat_false] at count
  omega

theorem enqueue (sound : pool.Attended items) (req : α) (preferred : Fin workers) :
    ∃ later, Attended (pool.enqueue req preferred).2 later := by
  rcases enqueue_cases sound.represents req preferred with
    ⟨-, refused⟩ | ⟨-, queue, represents, -, granted⟩
  · rw [refused]
    exact ⟨items, sound⟩
  · rw [granted]
    refine ⟨items ++ [req], represents, ?_⟩
    dsimp only
    rcases condSignal_cases pool.phase preferred with ⟨woken, wasBlocked, signal⟩ | ⟨nobody, signal⟩
    · -- the request and the worker that the signal wakes up balance each other
      intro other _
      have before := sound.attended woken wasBlocked
      have count := Crew.headcount_update WorkerPhase.isAwake pool.phase woken .awake
      simp only [awake, signal, wasBlocked, WorkerPhase.isAwake, Bool.toNat_true,
        Bool.toNat_false] at before count ⊢
      rw [List.length_append, List.length_singleton]
      omega
    · intro other blocked
      rw [signal] at blocked
      exact absurd blocked (nobody other)

theorem dequeue (sound : pool.Attended items) {worker : Fin workers}
    (isAwake : pool.phase worker = .awake) : ∃ later, Attended (pool.dequeue worker) later := by
  rcases dequeue_cases sound.represents worker with
    ⟨rfl, sleeps⟩ | ⟨req, rest, queue, rfl, represents, -, takes⟩
  · rw [sleeps]
    exact ⟨[], sound.represents, fun _ _ => Nat.zero_le _⟩
  · rw [takes]
    refine ⟨rest, represents, ?_⟩
    intro other blocked
    have before := sound.attended other (blocked_of_update (by simp) blocked)
    have count := Crew.headcount_update WorkerPhase.isAwake pool.phase worker (.executing req)
    simp only [awake, isAwake, WorkerPhase.isAwake, Bool.toNat_true, Bool.toNat_false,
      List.length_cons] at before count ⊢
    omega

theorem workerStep (sound : pool.Attended items) (event : WorkerEvent workers) :
    ∃ later, Attended (pool.workerStep event) later := by
  rcases workerStep_cases pool event with
    unchanged | ⟨worker, isAwake, calls⟩ | ⟨worker, done, notAwake, -, wakes⟩
  · rw [unchanged]
    exact ⟨items, sound⟩
  · rw [calls]
    exact sound.dequeue isAwake
  · rw [wakes]
    exact ⟨items, sound.wake notAwake _⟩

theorem step (sound : pool.Attended items) (event : PoolEvent workers α) :
    ∃ later, Attended (pool.step event) later := by
  cases event with
  | enqueue req preferred => exact sound.enqueue req preferred
  | worker event => exact sound.workerStep event

theorem after (sound : pool.Attended items) (events : List (PoolEvent workers α)) :
    ∃ later, Attended (pool.after events) later := by
  induction events generalizing pool items with
  | nil => exact ⟨items, sound⟩
  | cons event rest ih =>
      rcases sound.step event with ⟨later, soundLater⟩
      exact ih soundLater

theorem workersInit (previous : ℕ → Option α) {size : ℕ} (positive : 1 ≤ size) :
    Attended (WorkerPool.workersInit previous size workers) [] :=
  ⟨RpcQueue.Represents.rqInit previous positive, by simp [WorkerPool.workersInit]⟩

end Attended

end Step

/-- In no state of the pool is a worker blocked while more requests are queued than workers are
awake and do not execute a handler; so if all workers sleep, the queue is empty. -/
theorem no_lost_wakeup (previous : ℕ → Option α) (size workers : ℕ) (sizePos : 1 ≤ size)
    (workersPos : 1 ≤ workers) (events : List (PoolEvent workers α)) :
    let pool := (workersInit previous size workers).after events
    (∀ worker, pool.phase worker = .blocked → pool.queue.contents.length ≤ pool.awake) ∧
      ((∀ worker, pool.phase worker = .blocked) → pool.queue.contents = []) := by
  intro pool
  rcases (Attended.workersInit previous sizePos).after events with ⟨items, sound⟩
  have attended : ∀ worker, pool.phase worker = .blocked →
      pool.queue.contents.length ≤ pool.awake := by
    intro worker blocked
    rw [sound.represents.contents_eq, List.length_map]
    exact sound.attended worker blocked
  refine ⟨attended, ?_⟩
  intro asleep
  have nobody : pool.awake = 0 := by
    apply Crew.headcount_eq_zero
    intro worker
    rw [asleep worker]
    rfl
  have bound := attended ⟨0, workersPos⟩ (asleep _)
  rw [nobody] at bound
  exact List.length_eq_zero_iff.1 (Nat.le_zero.1 bound)

/-- Two of five workers find the queue empty and a request arrives: one is woken, the other goes
on sleeping. -/
theorem no_lost_wakeup_five_workers :
    let pool := (workersInit (fun _ => none) 256 5).after
      [.worker (.dequeue 0), .worker (.dequeue 1), .enqueue 7 0]
    pool.phase 1 = .blocked ∧ pool.queue.contents.length ≤ pool.awake :=
  ⟨rfl, (no_lost_wakeup (fun _ => none) 256 5 (by decide) (by decide)
    [.worker (.dequeue 0), .worker (.dequeue 1), .enqueue 7 0]).1 1 rfl⟩

/-! ## Requests are in one place -/

section Occurrences

variable {pool : WorkerPool workers α} {items : List α} {size : ℕ}

/-- The pool stores the items in a queue of the size. -/
structure Stores (pool : WorkerPool workers α) (size : ℕ) (items : List α) : Prop where
  represents : pool.queue.Represents items
  size_eq : pool.queue.size = size

theorem occurrences_eq (represents : pool.queue.Represents items) (select : α → Bool) :
    pool.occurrences select = items.countP select +
      Crew.headcount (WorkerPhase.executes select) pool.phase + pool.executed.countP select := by
  rw [occurrences, represents.contents_eq, List.countP_map]
  rfl

theorem occurrences_update (pool : WorkerPool workers α) (worker : Fin workers)
    (next : WorkerPhase α) (added : List α) (select : α → Bool) :
    occurrences { pool with
        phase := Function.update pool.phase worker next
        executed := pool.executed ++ added } select +
        ((pool.phase worker).executes select).toNat =
      pool.occurrences select + (next.executes select).toNat + added.countP select := by
  have count := Crew.headcount_update (WorkerPhase.executes select) pool.phase worker next
  simp only [occurrences, List.countP_append]
  omega

theorem executing_condSignal (phase : Fin workers → WorkerPhase α) (preferred : Fin workers)
    (select : α → Bool) :
    Crew.headcount (WorkerPhase.executes select) (condSignal phase preferred) =
      Crew.headcount (WorkerPhase.executes select) phase := by
  rcases condSignal_cases phase preferred with ⟨woken, blocked, signal⟩ | ⟨-, signal⟩
  · have count := Crew.headcount_update (WorkerPhase.executes select) phase woken .awake
    rw [blocked] at count
    rw [signal]
    exact count
  · rw [signal]

namespace Stores

theorem workersInit (previous : ℕ → Option α) (positive : 1 ≤ size) :
    Stores (WorkerPool.workersInit previous size workers) size [] :=
  ⟨RpcQueue.Represents.rqInit previous positive, rfl⟩

theorem enqueue_full (stores : pool.Stores size items) (full : items.length = size - 1)
    (req : α) (preferred : Fin workers) : (pool.enqueue req preferred).2 = pool := by
  rcases enqueue_cases stores.represents req preferred with ⟨-, refused⟩ | ⟨room, -⟩
  · rw [refused]
  · rw [stores.size_eq] at room
    exact absurd full room

theorem enqueue (stores : pool.Stores size items) (room : items.length ≠ size - 1) (req : α)
    (preferred : Fin workers) :
    Stores (pool.enqueue req preferred).2 size (items ++ [req]) ∧
      ∀ select, (pool.enqueue req preferred).2.occurrences select =
        pool.occurrences select + (select req).toNat := by
  rcases enqueue_cases stores.represents req preferred with
    ⟨full, -⟩ | ⟨-, queue, represents, sizeEq, granted⟩
  · rw [stores.size_eq] at full
    exact absurd full room
  · rw [granted]
    refine ⟨⟨represents, sizeEq.trans stores.size_eq⟩, ?_⟩
    intro select
    rw [occurrences_eq represents, occurrences_eq stores.represents, executing_condSignal,
      List.countP_append, countP_cons_toNat, List.countP_nil]
    dsimp only
    omega

theorem dequeue (stores : pool.Stores size items) {worker : Fin workers}
    (isAwake : pool.phase worker = .awake) :
    ∃ later, Stores (pool.dequeue worker) size later ∧
      ∀ select, (pool.dequeue worker).occurrences select = pool.occurrences select := by
  rcases dequeue_cases stores.represents worker with
    ⟨rfl, sleeps⟩ | ⟨req, rest, queue, rfl, represents, sizeEq, takes⟩
  · rw [sleeps]
    refine ⟨[], ⟨stores.represents, stores.size_eq⟩, ?_⟩
    intro select
    have moved := occurrences_update pool worker .blocked [] select
    rw [isAwake, List.append_nil] at moved
    exact moved
  · rw [takes]
    refine ⟨rest, ⟨represents, sizeEq.trans stores.size_eq⟩, ?_⟩
    intro select
    have count :=
      Crew.headcount_update (WorkerPhase.executes select) pool.phase worker (.executing req)
    rw [isAwake] at count
    simp only [WorkerPhase.executes, Bool.toNat_false, Nat.add_zero] at count
    rw [occurrences_eq represents, occurrences_eq stores.represents, count, countP_cons_toNat]
    dsimp only
    omega

theorem workerStep (stores : pool.Stores size items) (event : WorkerEvent workers) :
    ∃ later, Stores (pool.workerStep event) size later ∧
      ∀ select, (pool.workerStep event).occurrences select = pool.occurrences select := by
  rcases workerStep_cases pool event with
    unchanged | ⟨worker, isAwake, calls⟩ | ⟨worker, done, -, executed, wakes⟩
  · rw [unchanged]
    exact ⟨items, stores, fun _ => rfl⟩
  · rw [calls]
    exact stores.dequeue isAwake
  · rw [wakes]
    refine ⟨items, ⟨stores.represents, stores.size_eq⟩, ?_⟩
    intro select
    have moved := occurrences_update pool worker .awake done select
    rw [executed select] at moved
    exact Nat.add_right_cancel moved

end Stores

end Occurrences

end WorkerPool

end Mica.Rpc
