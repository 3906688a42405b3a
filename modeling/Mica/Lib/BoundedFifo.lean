import Mathlib.Data.List.Basic

/-!
# Bounded first-in first-out queues

The abstract object behind a ring buffer: a list of at most `capacity` items.
A push appends as many of the offered items as fit, a pop hands out the front.
`run` keeps the histories of both sides, and `run_accepted` is the conservation
law of the queue: what was accepted is what was handed out followed by what is
still queued.
-/

namespace BoundedFifo

universe u

variable {α : Type u} {capacity : ℕ}

/-- A queue that never holds more than `capacity` items. -/
structure Queue (α : Type u) (capacity : ℕ) where
  items : List α
  fits : items.length ≤ capacity

/-- What a user of the queue can ask for. -/
inductive Request (α : Type u) where
  | push (offered : List α)
  | pop (count : ℕ)

namespace Queue

def empty : Queue α capacity where
  items := []
  fits := by simp

/-- The part of an offer that fits into the queue. -/
def accepts (queue : Queue α capacity) (offered : List α) : List α :=
  offered.take (capacity - queue.items.length)

def push (queue : Queue α capacity) (offered : List α) : Queue α capacity where
  items := queue.items ++ queue.accepts offered
  fits := by
    have := queue.fits
    simp only [accepts, List.length_append, List.length_take]
    omega

def pop (queue : Queue α capacity) (count : ℕ) : Queue α capacity where
  items := queue.items.drop count
  fits := by
    have := queue.fits
    simp only [List.length_drop]
    omega

end Queue

/-- A queue together with everything it accepted and handed out so far. -/
structure History (α : Type u) (capacity : ℕ) where
  queue : Queue α capacity
  accepted : List α
  returned : List α

namespace History

def start : History α capacity where
  queue := Queue.empty
  accepted := []
  returned := []

def step (history : History α capacity) : Request α → History α capacity
  | .push offered =>
      { history with
        queue := history.queue.push offered
        accepted := history.accepted ++ history.queue.accepts offered }
  | .pop count =>
      { history with
        queue := history.queue.pop count
        returned := history.returned ++ history.queue.items.take count }

def run (history : History α capacity) (requests : List (Request α)) : History α capacity :=
  requests.foldl step history

/-- Nothing is lost, duplicated or reordered between acceptance and hand-out. -/
def Conserved (history : History α capacity) : Prop :=
  history.accepted = history.returned ++ history.queue.items

theorem conserved_start : (start : History α capacity).Conserved := by
  simp [Conserved, start, Queue.empty]

theorem Conserved.step {history : History α capacity} (conserved : history.Conserved)
    (request : Request α) : (history.step request).Conserved := by
  unfold Conserved at conserved ⊢
  cases request with
  | push offered => simp [History.step, Queue.push, conserved]
  | pop count => simp [History.step, Queue.pop, conserved]

theorem Conserved.run {history : History α capacity} (conserved : history.Conserved)
    (requests : List (Request α)) : (history.run requests).Conserved := by
  induction requests generalizing history with
  | nil => exact conserved
  | cons request rest ih => exact ih (conserved.step request)

end History

end BoundedFifo
