import Mica.Lib.BoundedFifo
import Mica.Lib.Circular

/-!
# The queue of the RPC workers

`rq_init`, `__dequeue` and `__enqueue` of `services/rpc/rpc_workers.c`: a circular
array of request pointers that keeps one slot empty. Both functions only run
under the lock of the queue, so whatever the threads do, the queue sees a sequence
of sections, one `__enqueue` or `__dequeue` each.

A request pointer is `none` for `NULL`. The indices are `int`s in the source and
stay below the size; the line that `__enqueue` logs for a full queue is left out.
-/

namespace Mica.Rpc

universe u

variable {α : Type u}

/-- `rpc_queue_t` without the lock and the condition -/
structure RpcQueue (α : Type u) where
  q : ℕ → Option α
  head : ℕ
  tail : ℕ
  size : ℕ

namespace RpcQueue

/-- `rq_init` on a queue with the given contents. -/
def rqInit (previous : ℕ → Option α) (size : ℕ) : RpcQueue α where
  q index := if index < size then none else previous index
  head := 0
  tail := 0
  size := size

/-- An index that has been incremented, set to 0 at the end of the array. -/
def wrap (rq : RpcQueue α) (index : ℕ) : ℕ := if index = rq.size then 0 else index

/-- `__dequeue`: the value returned, the request and the queue. -/
def lockedDequeue (rq : RpcQueue α) : Int × Option α × RpcQueue α :=
  if rq.head = rq.tail then (-1, none, rq)
  else (0, rq.q rq.head, { rq with head := rq.wrap (rq.head + 1) })

/-- `__enqueue`: the value returned and the queue. -/
def lockedEnqueue (rq : RpcQueue α) (req : α) : Int × RpcQueue α :=
  if (rq.tail + 1) % rq.size = rq.head then (-1, rq)
  else (0, { rq with
    q := Function.update rq.q rq.tail (some req)
    tail := rq.wrap (rq.tail + 1) })

/-- The slots from `head` up to `tail`, in order. -/
def contents (rq : RpcQueue α) : List (Option α) :=
  (List.range ((rq.tail + rq.size - rq.head) % rq.size)).map fun index =>
    rq.q ((rq.head + index) % rq.size)

end RpcQueue

/-- What a thread does with the queue while it has the lock. -/
inductive QueueSection (α : Type u) where
  | enqueue (req : α)
  | dequeue

/-- A queue with the requests it has accepted and those it has handed out. -/
structure QueueRun (α : Type u) where
  queue : RpcQueue α
  accepted : List α
  handedOut : List (Option α)

namespace QueueRun

def start (previous : ℕ → Option α) (size : ℕ) : QueueRun α where
  queue := RpcQueue.rqInit previous size
  accepted := []
  handedOut := []

def step (run : QueueRun α) : QueueSection α → QueueRun α
  | .enqueue req =>
      let (ret, queue) := run.queue.lockedEnqueue req
      { run with
        queue := queue
        accepted := if ret = 0 then run.accepted ++ [req] else run.accepted }
  | .dequeue =>
      let (ret, req, queue) := run.queue.lockedDequeue
      { run with
        queue := queue
        handedOut := if ret = 0 then run.handedOut ++ [req] else run.handedOut }

def after (run : QueueRun α) (sections : List (QueueSection α)) : QueueRun α :=
  sections.foldl step run

end QueueRun

/-! ## The queue as a bounded queue -/

/-- The queue stores the items from `head` on and leaves at least one slot empty. -/
structure RpcQueue.Represents (rq : RpcQueue α) (items : List α) : Prop where
  head_lt : rq.head < rq.size
  tail_eq : rq.tail = (rq.head + items.length) % rq.size
  length_lt : items.length < rq.size
  holds : Circular.Holds rq.size rq.q rq.head (items.map some)

namespace RpcQueue.Represents

variable {rq : RpcQueue α} {items : List α}

theorem size_pos (represents : rq.Represents items) : 0 < rq.size :=
  lt_of_le_of_lt (Nat.zero_le _) represents.length_lt

theorem tail_lt (represents : rq.Represents items) : rq.tail < rq.size := by
  rw [represents.tail_eq]
  exact Nat.mod_lt _ represents.size_pos

theorem wrap_eq_mod {index : ℕ} (inside : index < rq.size) :
    rq.wrap (index + 1) = (index + 1) % rq.size := by
  rw [wrap]
  split_ifs with atEnd
  · rw [atEnd, Nat.mod_self]
  · rw [Nat.mod_eq_of_lt]
    omega

theorem next_tail (represents : rq.Represents items) :
    (rq.tail + 1) % rq.size = (rq.head + (items.length + 1)) % rq.size := by
  rw [represents.tail_eq, Nat.mod_add_mod, Nat.add_assoc]

theorem add_mod_eq_head_iff (represents : rq.Represents items) {count : ℕ}
    (revolution : count ≤ rq.size) :
    (rq.head + count) % rq.size = rq.head ↔ count = 0 ∨ count = rq.size := by
  have headLt := represents.head_lt
  rcases lt_or_ge (rq.head + count) rq.size with inside | wraps
  · rw [Nat.mod_eq_of_lt inside]
    omega
  · rw [Nat.mod_eq_sub_mod wraps, Nat.mod_eq_of_lt (by omega)]
    omega

theorem full_iff (represents : rq.Represents items) :
    (rq.tail + 1) % rq.size = rq.head ↔ items.length = rq.size - 1 := by
  have lengthLt := represents.length_lt
  rw [represents.next_tail, represents.add_mod_eq_head_iff lengthLt]
  omega

theorem empty_iff (represents : rq.Represents items) : rq.head = rq.tail ↔ items = [] := by
  have lengthLt := represents.length_lt
  rw [eq_comm, represents.tail_eq, represents.add_mod_eq_head_iff lengthLt.le,
    List.length_eq_zero_iff]
  constructor
  · rintro (empty | full)
    · exact empty
    · omega
  · exact Or.inl

theorem distance_eq (represents : rq.Represents items) :
    (rq.tail + rq.size - rq.head) % rq.size = items.length := by
  have headLt := represents.head_lt
  have lengthLt := represents.length_lt
  rcases lt_or_ge (rq.head + items.length) rq.size with inside | wraps
  · have distance : rq.tail + rq.size - rq.head = items.length + rq.size := by
      rw [represents.tail_eq, Nat.mod_eq_of_lt inside]
      omega
    rw [distance, Nat.add_mod_right, Nat.mod_eq_of_lt lengthLt]
  · have distance : rq.tail + rq.size - rq.head = items.length := by
      rw [represents.tail_eq, Nat.mod_eq_sub_mod wraps, Nat.mod_eq_of_lt (by omega)]
      omega
    rw [distance, Nat.mod_eq_of_lt lengthLt]

theorem contents_eq (represents : rq.Represents items) : rq.contents = items.map some := by
  apply List.ext_getElem
  · simp [contents, represents.distance_eq]
  · intro index inContents inItems
    simp only [contents, List.getElem_map, List.getElem_range]
    rw [represents.holds index inItems, List.getElem_map]

theorem rqInit (previous : ℕ → Option α) {size : ℕ} (positive : 0 < size) :
    (RpcQueue.rqInit previous size).Represents [] where
  head_lt := positive
  tail_eq := by simp [RpcQueue.rqInit]
  length_lt := positive
  holds := Circular.holds_nil _ _ _

theorem lockedEnqueue_full (represents : rq.Represents items)
    (full : items.length = rq.size - 1) (req : α) : rq.lockedEnqueue req = (-1, rq) := by
  rw [lockedEnqueue, if_pos (represents.full_iff.2 full)]

theorem lockedEnqueue (represents : rq.Represents items) (room : items.length ≠ rq.size - 1)
    (req : α) : ∃ rest : RpcQueue α, rq.lockedEnqueue req = (0, rest) ∧
      rest.Represents (items ++ [req]) ∧ rest.size = rq.size := by
  have lengthLt := represents.length_lt
  have notFull : ¬(rq.tail + 1) % rq.size = rq.head := fun full =>
    room (represents.full_iff.1 full)
  refine ⟨_, if_neg notFull, ⟨represents.head_lt, ?_, ?_, ?_⟩, rfl⟩
  · dsimp only
    rw [wrap_eq_mod represents.tail_lt, List.length_append, List.length_singleton]
    exact represents.next_tail
  · dsimp only
    rw [List.length_append, List.length_singleton]
    omega
  · have stored := represents.holds.push (by simpa using lengthLt) (some req)
    rw [List.length_map, ← represents.tail_eq] at stored
    rw [List.map_append]
    exact stored

theorem lockedDequeue_empty (represents : rq.Represents []) :
    rq.lockedDequeue = (-1, none, rq) := by
  rw [lockedDequeue, if_pos (represents.empty_iff.2 rfl)]

theorem lockedDequeue {req : α} (represents : rq.Represents (req :: items)) :
    ∃ rest : RpcQueue α, rq.lockedDequeue = (0, some req, rest) ∧ rest.Represents items ∧
      rest.size = rq.size := by
  have lengthLt := represents.length_lt
  have notEmpty : ¬rq.head = rq.tail := fun empty => by
    cases represents.empty_iff.1 empty
  have first : rq.q rq.head = some req := by
    have held := represents.holds 0 (by simp)
    rw [Nat.add_zero, Nat.mod_eq_of_lt represents.head_lt] at held
    exact held
  refine ⟨{ rq with head := rq.wrap (rq.head + 1) }, ?_, ⟨?_, ?_, ?_, ?_⟩, rfl⟩
  · rw [RpcQueue.lockedDequeue, if_neg notEmpty, first]
  · dsimp only
    rw [wrap_eq_mod represents.head_lt]
    exact Nat.mod_lt _ represents.size_pos
  · dsimp only
    rw [wrap_eq_mod represents.head_lt, Nat.mod_add_mod, represents.tail_eq, List.length_cons,
      Nat.add_assoc, Nat.add_comm 1]
  · exact lt_of_le_of_lt (Nat.le_succ _) lengthLt
  · have later := represents.holds.drop 1
    intro index inItems
    dsimp only
    rw [wrap_eq_mod represents.head_lt, Nat.mod_add_mod]
    exact later index inItems

end RpcQueue.Represents

/-- The request to a bounded queue that a section amounts to. -/
def QueueSection.request : QueueSection α → BoundedFifo.Request α
  | .enqueue req => .push [req]
  | .dequeue => .pop 1

open BoundedFifo (History)

/-- The run is one of a bounded queue with room for all slots but one. -/
structure QueueRun.Refines {capacity : ℕ} (run : QueueRun α) (history : History α capacity) :
    Prop where
  size_eq : run.queue.size = capacity + 1
  represents : run.queue.Represents history.queue.items
  accepted : run.accepted = history.accepted
  handedOut : run.handedOut = history.returned.map some

namespace QueueRun.Refines

variable {capacity : ℕ} {run : QueueRun α} {history : History α capacity}

theorem start (previous : ℕ → Option α) (capacity : ℕ) :
    (QueueRun.start previous (capacity + 1)).Refines (History.start : History α capacity) where
  size_eq := rfl
  represents := RpcQueue.Represents.rqInit previous (Nat.succ_pos capacity)
  accepted := rfl
  handedOut := rfl

theorem capacity_eq (refines : run.Refines history) : run.queue.size - 1 = capacity := by
  rw [refines.size_eq, Nat.add_sub_cancel]

theorem step_enqueue (refines : run.Refines history) (req : α) :
    (run.step (.enqueue req)).Refines (history.step (.push [req])) := by
  have capacityEq := refines.capacity_eq
  by_cases full : history.queue.items.length = run.queue.size - 1
  · have refused := refines.represents.lockedEnqueue_full full req
    have accepts : history.queue.accepts [req] = [] := by
      rw [BoundedFifo.Queue.accepts, full, capacityEq, Nat.sub_self, List.take_zero]
    have unchanged : run.step (.enqueue req) = run := by
      simp [QueueRun.step, refused]
    rw [unchanged]
    refine ⟨refines.size_eq, ?_, ?_, refines.handedOut⟩
    · simpa [History.step, BoundedFifo.Queue.push, accepts] using refines.represents
    · simpa [History.step, accepts] using refines.accepted
  · rcases refines.represents.lockedEnqueue full req with ⟨rest, granted, represents, size⟩
    have accepts : history.queue.accepts [req] = [req] := by
      have fits := history.queue.fits
      apply List.take_of_length_le
      rw [List.length_singleton]
      omega
    simp only [QueueRun.step, granted, if_true]
    refine ⟨size.trans refines.size_eq, ?_, ?_, refines.handedOut⟩
    · simpa [History.step, BoundedFifo.Queue.push, accepts] using represents
    · simp [History.step, accepts, refines.accepted]

theorem step_dequeue (refines : run.Refines history) :
    (run.step .dequeue).Refines (history.step (.pop 1)) := by
  have represents := refines.represents
  cases items : history.queue.items with
  | nil =>
      rw [items] at represents
      have unchanged : run.step .dequeue = run := by
        simp [QueueRun.step, represents.lockedDequeue_empty]
      rw [unchanged]
      refine ⟨refines.size_eq, ?_, refines.accepted, ?_⟩
      · simpa [History.step, BoundedFifo.Queue.pop, items] using represents
      · simpa [History.step, items] using refines.handedOut
  | cons req later =>
      rw [items] at represents
      rcases represents.lockedDequeue with ⟨rest, handed, restRepresents, size⟩
      simp only [QueueRun.step, handed, if_true]
      refine ⟨size.trans refines.size_eq, ?_, refines.accepted, ?_⟩
      · simpa [History.step, BoundedFifo.Queue.pop, items] using restRepresents
      · simp [History.step, items, refines.handedOut]

theorem step (refines : run.Refines history) (queueSection : QueueSection α) :
    (run.step queueSection).Refines (history.step queueSection.request) := by
  cases queueSection with
  | enqueue req => exact refines.step_enqueue req
  | dequeue => exact refines.step_dequeue

theorem after (refines : run.Refines history) (sections : List (QueueSection α)) :
    (run.after sections).Refines (history.run (sections.map QueueSection.request)) := by
  induction sections generalizing run history with
  | nil => exact refines
  | cons queueSection rest ih => exact ih (refines.step queueSection)

theorem length_contents (refines : run.Refines history) :
    run.queue.contents.length = history.queue.items.length := by
  rw [refines.represents.contents_eq, List.length_map]

theorem refuses_iff (refines : run.Refines history) (req : α) :
    (run.queue.lockedEnqueue req).1 = -1 ↔ run.queue.contents.length = capacity := by
  have capacityEq := refines.capacity_eq
  rw [refines.length_contents]
  constructor
  · intro refused
    by_contra room
    have notFull : history.queue.items.length ≠ run.queue.size - 1 := by
      rwa [capacityEq]
    rcases refines.represents.lockedEnqueue notFull req with ⟨rest, granted, -⟩
    rw [granted] at refused
    cases refused
  · intro full
    rw [refines.represents.lockedEnqueue_full (full.trans capacityEq.symm)]

theorem findsNothing_iff (refines : run.Refines history) :
    run.queue.lockedDequeue.1 = -1 ↔ run.queue.contents = [] := by
  have represents := refines.represents
  rw [represents.contents_eq, List.map_eq_nil_iff]
  cases items : history.queue.items with
  | nil =>
      rw [items] at represents
      rw [represents.lockedDequeue_empty]
      exact iff_of_true rfl rfl
  | cons req later =>
      rw [items] at represents
      rcases represents.lockedDequeue with ⟨rest, handed, -, -⟩
      rw [handed]
      exact iff_of_false (show (0 : Int) ≠ -1 by decide) (List.cons_ne_nil _ _)

theorem conserved (refines : run.Refines history) (conserved : history.Conserved) :
    run.handedOut ++ run.queue.contents = run.accepted.map some := by
  rw [refines.handedOut, refines.represents.contents_eq, refines.accepted, ← List.map_append]
  exact congrArg (List.map some) (Eq.symm conserved)

end QueueRun.Refines

/-- In every interleaving of the sections of any threads the indices stay in the array, at most
`size - 1` requests are queued, `__enqueue` refuses exactly when that many are, `__dequeue` exactly
when none is, and the requests handed out followed by the contents are the requests accepted. -/
theorem workerQueue_fifo (previous : ℕ → Option α) (size : ℕ) (positive : 1 ≤ size)
    (sections : List (QueueSection α)) :
    let run := (QueueRun.start previous size).after sections
    run.queue.head < size ∧ run.queue.tail < size ∧ run.queue.contents.length ≤ size - 1 ∧
      (∀ req, (run.queue.lockedEnqueue req).1 = -1 ↔ run.queue.contents.length = size - 1) ∧
      (run.queue.lockedDequeue.1 = -1 ↔ run.queue.contents = []) ∧
      run.handedOut ++ run.queue.contents = run.accepted.map some := by
  rcases Nat.exists_eq_add_of_le' positive with ⟨capacity, rfl⟩
  have refines := (QueueRun.Refines.start previous capacity).after sections
  have sizeEq := refines.size_eq
  refine ⟨?_, ?_, ?_, refines.refuses_iff, refines.findsNothing_iff, ?_⟩
  · exact lt_of_lt_of_eq refines.represents.head_lt sizeEq
  · exact lt_of_lt_of_eq refines.represents.tail_lt sizeEq
  · rw [refines.length_contents]
    exact BoundedFifo.Queue.fits _
  · exact refines.conserved (BoundedFifo.History.conserved_start.run _)

/-- Two requests through a queue of two slots, with a refused one in between. -/
theorem workerQueue_fifo_two_slots :
    let run := (QueueRun.start (fun _ => none) 2).after
      [.enqueue 7, .enqueue 8, .dequeue, .enqueue 9]
    run.queue.head < 2 ∧ run.queue.tail < 2 ∧ run.queue.contents.length ≤ 2 - 1 ∧
      (∀ req, (run.queue.lockedEnqueue req).1 = -1 ↔ run.queue.contents.length = 2 - 1) ∧
      (run.queue.lockedDequeue.1 = -1 ↔ run.queue.contents = []) ∧
      run.handedOut ++ run.queue.contents = run.accepted.map some :=
  workerQueue_fifo (fun _ => none) 2 (by decide) [.enqueue 7, .enqueue 8, .dequeue, .enqueue 9]

end Mica.Rpc
