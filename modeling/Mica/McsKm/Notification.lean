import Mathlib.Data.Int.Notation
import Mathlib.Logic.Function.Basic
import Mica.Lib.Run
import Mica.Micad.Listener

/-!
# Interrupts of the remote and their notifications

`handle_clientos_ipi` of the kernel module notes an interrupt in `irq_ack` and wakes the threads
in `mcs_wait_queue`; `mcs_poll` consumes the note, and `rproc_wait_event` of
`remoteproc/baremetal_rproc.c` then passes a notification to every running client. Several
interrupts may share a notification; none may go without.

The handler runs on any CPU, also several times at once, between any two steps of the
polling threads. `poll` puts a thread on the wait queue before it looks at the device, lets
it sleep unless it has been triggered since, and looks again when it wakes up. The walk of
`rproc_notify_all` over the clients is one step.
-/

namespace Mica.McsKm

open Endpoint (RprocState)
open Micad (PedestalType)

structure ListedClient where
  id : ℕ
  ped : PedestalType
  state : RprocState
deriving DecidableEq

def rprocNotifyAll (clients : List ListedClient) : List ℕ :=
  (clients.filter fun client => client.ped = .bareMetal ∧ client.state = .running).map
    ListedClient.id

/-- Where a thread is in the loop of `rproc_wait_event`. -/
inductive PollPhase where
  | absent
  /-- About to call `poll`. -/
  | calling
  /-- On the wait queue, about to look at `irq_ack`. -/
  | queued
  | sleeping
  /-- `poll` has reported `POLLIN`. -/
  | notifying
deriving DecidableEq

def PollPhase.onQueue : PollPhase → Bool
  | queued | sleeping => true
  | absent | calling | notifying => false

structure Attention (Poller : Type) where
  irqAck : ℤ
  /-- The handlers that have set `irq_ack` and are about to wake the queue. -/
  waking : ℕ
  phase : Poller → PollPhase
  /-- A wakeup since the thread looked last. -/
  triggered : Poller → Bool
  clientList : List ListedClient
  /-- The clients that run since the last interrupt and have not been notified of it; the threads
  do not know of them. -/
  due : List ℕ

namespace Attention

variable {Poller : Type}

/-- The module has just been loaded. -/
def initial (clientList : List ListedClient) : Attention Poller where
  irqAck := 0
  waking := 0
  phase := fun _ => .absent
  triggered := fun _ => false
  clientList := clientList
  due := []

/-- The first half of `handle_clientos_ipi`: `atomic_set(&irq_ack, 1)` -/
def setAck (attention : Attention Poller) : Attention Poller :=
  { attention with
    irqAck := 1
    waking := attention.waking + 1
    due := rprocNotifyAll attention.clientList }

/-- The second half of `handle_clientos_ipi`: `wake_up_interruptible(&mcs_wait_queue)` -/
def wakeUp (attention : Attention Poller) : Attention Poller :=
  match attention.waking with
  | 0 => attention
  | waking + 1 =>
      { attention with
        waking := waking
        triggered := fun poller =>
          attention.triggered poller || (attention.phase poller).onQueue }

variable [DecidableEq Poller]

def enter (attention : Attention Poller) (poller : Poller) (phase : PollPhase) :
    Attention Poller :=
  { attention with phase := Function.update attention.phase poller phase }

/-- `atomic_cmpxchg(&irq_ack, 1, 0)` of `mcs_poll`, and what `poll` makes of the mask. -/
def mcsPoll (attention : Attention Poller) (poller : Poller) : Attention Poller :=
  if attention.irqAck = 1 then { attention.enter poller .notifying with irqAck := 0 }
  else attention.enter poller .sleeping

/-- The next step of a thread. -/
def pollStep (attention : Attention Poller) (poller : Poller) : Attention Poller :=
  match attention.phase poller with
  | .absent => attention
  | .calling =>
      { attention.enter poller .queued with
        triggered := Function.update attention.triggered poller false }
  | .queued => attention.mcsPoll poller
  | .sleeping =>
      if attention.triggered poller then
        { attention.enter poller .queued with
          triggered := Function.update attention.triggered poller false }
      else attention
  | .notifying =>
      { attention.enter poller .calling with
        due := attention.due.filter fun id => id ∉ rprocNotifyAll attention.clientList }

end Attention

inductive AttentionEvent (Poller : Type) where
  | setAck
  | wakeUp
  | start (poller : Poller)
  | step (poller : Poller)
  /-- `poll` returns because of the other descriptor, the pipe. -/
  | piped (poller : Poller)
  /-- The loop ends, because `notifier` is false or because `poll` has failed. -/
  | leave (poller : Poller)
  /-- micad changes the list of clients. -/
  | change (clientList : List ListedClient)

namespace Attention

variable {Poller : Type}

def step [DecidableEq Poller] (attention : Attention Poller) :
    AttentionEvent Poller → Attention Poller
  | .setAck => attention.setAck
  | .wakeUp => attention.wakeUp
  | .start poller =>
      if attention.phase poller = .absent then attention.enter poller .calling else attention
  | .step poller => attention.pollStep poller
  | .piped poller =>
      if attention.phase poller = .sleeping then attention.enter poller .calling else attention
  | .leave poller =>
      if attention.phase poller = .sleeping ∨ attention.phase poller = .calling then
        attention.enter poller .absent
      else attention
  | .change clientList =>
      { attention with
        clientList := clientList
        due := attention.due.filter fun id => id ∈ rprocNotifyAll clientList }

/-- No handler is at work, and every thread sleeps with nothing to wake it up. -/
structure Quiescent (attention : Attention Poller) : Prop where
  handled : attention.waking = 0
  served : ∃ poller, attention.phase poller ≠ .absent
  asleep : ∀ poller, attention.phase poller ≠ .absent →
    attention.phase poller = .sleeping ∧ attention.triggered poller = false

/-- A client that is due is on the list, what is due is noted or about to be passed on, and a noted
interrupt leaves no thread asleep. -/
structure Attentive (attention : Attention Poller) : Prop where
  listed : ∀ id ∈ attention.due, id ∈ rprocNotifyAll attention.clientList
  noted : attention.due ≠ [] →
    attention.irqAck = 1 ∨ ∃ poller, attention.phase poller = .notifying
  awake : attention.irqAck = 1 → attention.waking = 0 →
    ∀ poller, attention.phase poller = .sleeping → attention.triggered poller = true

variable {attention : Attention Poller} {poller : Poller}

namespace Attentive

theorem initial (clientList : List ListedClient) :
    (Attention.initial clientList : Attention Poller).Attentive where
  listed := by
    intro id member
    cases member
  noted := fun nonempty => absurd rfl nonempty
  awake := by
    intro noted
    cases noted

theorem setAck (attention : Attention Poller) : attention.setAck.Attentive where
  listed := fun _ member => member
  noted := fun _ => Or.inl rfl
  awake := by
    intro _ handled
    cases handled

theorem wakeUp (attentive : attention.Attentive) : attention.wakeUp.Attentive := by
  unfold Attention.wakeUp
  split
  next => exact attentive
  next =>
    refine ⟨attentive.listed, attentive.noted, ?_⟩
    intro _ _ poller asleep
    simp only at asleep
    simp [asleep, PollPhase.onQueue]

theorem filter_due_eq_nil (attentive : attention.Attentive) :
    attention.due.filter (fun id => id ∉ rprocNotifyAll attention.clientList) = [] := by
  rw [List.filter_eq_nil_iff]
  intro id member
  simpa using attentive.listed id member

theorem change (attentive : attention.Attentive) (clientList : List ListedClient) :
    Attentive { attention with
      clientList := clientList
      due := attention.due.filter fun id => id ∈ rprocNotifyAll clientList } where
  listed := by
    intro id member
    simpa using (List.mem_filter.1 member).2
  noted := by
    intro nonempty
    apply attentive.noted
    rintro empty
    rw [empty] at nonempty
    exact nonempty rfl
  awake := attentive.awake

theorem due_eq_nil (attentive : attention.Attentive) (quiescent : attention.Quiescent) :
    attention.due = [] := by
  by_contra nonempty
  rcases attentive.noted nonempty with noted | ⟨poller, notifies⟩
  · rcases quiescent.served with ⟨poller, present⟩
    rcases quiescent.asleep poller present with ⟨asleep, untriggered⟩
    have triggered := attentive.awake noted quiescent.handled poller asleep
    rw [untriggered] at triggered
    cases triggered
  · have present : attention.phase poller ≠ .absent := by
      rw [notifies]
      decide
    have asleep := (quiescent.asleep poller present).1
    rw [notifies] at asleep
    cases asleep

end Attentive

variable [DecidableEq Poller]

theorem phase_enter_self (phase : PollPhase) :
    (attention.enter poller phase).phase poller = phase :=
  Function.update_self ..

theorem phase_enter_of_ne {other : Poller} (phase : PollPhase) (differs : other ≠ poller) :
    (attention.enter poller phase).phase other = attention.phase other :=
  Function.update_of_ne differs ..

namespace Attentive

theorem noted_enter (attentive : attention.Attentive) (phase : PollPhase)
    (before : attention.phase poller ≠ .notifying) (nonempty : attention.due ≠ []) :
    attention.irqAck = 1 ∨ ∃ other, (attention.enter poller phase).phase other = .notifying := by
  rcases attentive.noted nonempty with noted | ⟨other, notifies⟩
  · exact Or.inl noted
  · have differs : other ≠ poller := by
      rintro rfl
      exact before notifies
    exact Or.inr ⟨other, (phase_enter_of_ne phase differs).trans notifies⟩

theorem awake_enter (attentive : attention.Attentive) {phase : PollPhase}
    (after : phase ≠ .sleeping) (noted : attention.irqAck = 1) (handled : attention.waking = 0)
    {other : Poller} (asleep : (attention.enter poller phase).phase other = .sleeping) :
    other ≠ poller ∧ attention.triggered other = true := by
  rcases eq_or_ne other poller with rfl | differs
  · rw [phase_enter_self] at asleep
    exact absurd asleep after
  · rw [phase_enter_of_ne phase differs] at asleep
    exact ⟨differs, attentive.awake noted handled other asleep⟩

theorem enter (attentive : attention.Attentive) {phase : PollPhase}
    (before : attention.phase poller ≠ .notifying) (after : phase ≠ .sleeping) :
    (attention.enter poller phase).Attentive where
  listed := attentive.listed
  noted := attentive.noted_enter phase before
  awake := fun noted handled _ asleep => (attentive.awake_enter after noted handled asleep).2

theorem queue (attentive : attention.Attentive) (before : attention.phase poller ≠ .notifying) :
    Attentive { attention.enter poller .queued with
      triggered := Function.update attention.triggered poller false } where
  listed := attentive.listed
  noted := attentive.noted_enter .queued before
  awake := by
    intro noted handled other asleep
    rcases attentive.awake_enter (by decide) noted handled asleep with ⟨differs, triggered⟩
    simp only [Function.update_of_ne differs, triggered]

theorem mcsPoll (attentive : attention.Attentive) (queued : attention.phase poller = .queued) :
    (attention.mcsPoll poller).Attentive := by
  unfold Attention.mcsPoll
  split
  next noted =>
    refine ⟨attentive.listed, fun _ => Or.inr ⟨poller, phase_enter_self _⟩, ?_⟩
    intro stillNoted
    cases stillNoted
  next unnoted =>
    have before : attention.phase poller ≠ .notifying := by
      rw [queued]
      decide
    exact ⟨attentive.listed, attentive.noted_enter .sleeping before,
      fun noted => absurd noted unnoted⟩

theorem notify (attentive : attention.Attentive) :
    Attentive { attention.enter poller .calling with
      due := attention.due.filter fun id => id ∉ rprocNotifyAll attention.clientList } := by
  rw [attentive.filter_due_eq_nil]
  refine ⟨?_, fun nonempty => absurd rfl nonempty, ?_⟩
  · intro id member
    cases member
  · intro noted handled other asleep
    exact (attentive.awake_enter (by decide) noted handled asleep).2

theorem pollStep (attentive : attention.Attentive) (poller : Poller) :
    (attention.pollStep poller).Attentive := by
  unfold Attention.pollStep
  split
  next => exact attentive
  next calling =>
    apply attentive.queue
    rw [calling]
    decide
  next queued => exact attentive.mcsPoll queued
  next sleeping =>
    split
    · apply attentive.queue
      rw [sleeping]
      decide
    · exact attentive
  next => exact attentive.notify

theorem enter_if (attentive : attention.Attentive) {condition : Prop} [Decidable condition]
    {phase : PollPhase} (before : condition → attention.phase poller ≠ .notifying)
    (after : phase ≠ .sleeping) :
    Attentive (if condition then attention.enter poller phase else attention) := by
  split
  next holds => exact attentive.enter (before holds) after
  next => exact attentive

theorem step (attentive : attention.Attentive) (event : AttentionEvent Poller) :
    (attention.step event).Attentive := by
  cases event with
  | setAck => exact setAck attention
  | wakeUp => exact attentive.wakeUp
  | step poller => exact attentive.pollStep poller
  | start poller | piped poller =>
      refine attentive.enter_if ?_ (by decide)
      intro idle
      rw [idle]
      decide
  | leave poller =>
      refine attentive.enter_if ?_ (by decide)
      rintro (waits | waits)
      all_goals
        rw [waits]
        decide
  | change clientList => exact attentive.change clientList

end Attentive

theorem attentive_foldl (clientList : List ListedClient) (events : List (AttentionEvent Poller)) :
    (events.foldl step (initial clientList)).Attentive :=
  Run.invariant_foldl (Attentive.initial clientList) (fun _ event attentive => attentive.step event)
    events

/-- In every interleaving of interrupts, threads and changes of the clients, once everything is
quiet no client is left without its notification. -/
theorem every_interrupt_notified (clientList : List ListedClient)
    (events : List (AttentionEvent Poller))
    (quiescent : (events.foldl step (initial clientList)).Quiescent) :
    (events.foldl step (initial clientList)).due = [] :=
  (attentive_foldl clientList events).due_eq_nil quiescent

def oneRunning : List ListedClient := [⟨7, .bareMetal, .running⟩, ⟨8, .jailhouse, .running⟩]

/-- An interrupt finds one thread asleep and another one about to go to sleep. -/
def interruptedAsleep : List (AttentionEvent Bool) :=
  [.start true, .step true, .step true, .start false, .step false, .setAck, .wakeUp]

def servedAsleep : List (AttentionEvent Bool) :=
  interruptedAsleep ++ List.replicate 5 (.step true) ++ List.replicate 3 (.step false)

theorem quiescent_servedAsleep : (servedAsleep.foldl step (initial oneRunning)).Quiescent where
  handled := by decide
  served := by decide
  asleep := by decide

theorem every_interrupt_notified_servedAsleep :
    (servedAsleep.foldl step (initial oneRunning)).due = [] :=
  every_interrupt_notified oneRunning servedAsleep quiescent_servedAsleep

/-! ## A single thread is enough -/

theorem due_pollStep_of_nil (none : attention.due = []) (poller : Poller) :
    (attention.pollStep poller).due = [] := by
  unfold pollStep
  split
  · exact none
  · exact none
  · unfold mcsPoll
    split
    · exact none
    · exact none
  · split
    · exact none
    · exact none
  · simp only [none, List.filter_nil]

namespace Attentive

theorem due_of_notifying (attentive : attention.Attentive)
    (notifying : attention.phase poller = .notifying) : (attention.pollStep poller).due = [] := by
  simp only [Attention.pollStep, notifying]
  exact attentive.filter_due_eq_nil

theorem due_of_queued (attentive : attention.Attentive)
    (queued : attention.phase poller = .queued) (noted : attention.irqAck = 1) :
    ((attention.pollStep poller).pollStep poller).due = [] := by
  have notifying : (attention.pollStep poller).phase poller = .notifying := by
    simp only [Attention.pollStep, queued, Attention.mcsPoll, noted, if_true, phase_enter_self]
  exact (attentive.pollStep poller).due_of_notifying notifying

theorem due_of_present (attentive : attention.Attentive) (handled : attention.waking = 0)
    (present : attention.phase poller ≠ .absent)
    (others : ∀ other, other ≠ poller → attention.phase other ≠ .notifying) :
    (((attention.pollStep poller).pollStep poller).pollStep poller).due = [] := by
  have after {attention : Attention Poller} (none : attention.due = []) :=
    due_pollStep_of_nil none poller
  by_cases none : attention.due = []
  · exact after (after (after none))
  have noted : attention.phase poller ≠ .notifying → attention.irqAck = 1 := by
    intro idle
    rcases attentive.noted none with noted | ⟨other, notifies⟩
    · exact noted
    · rcases eq_or_ne other poller with rfl | differs
      · exact absurd notifies idle
      · exact absurd notifies (others other differs)
  have later := attentive.pollStep poller
  cases here : attention.phase poller with
  | absent => exact absurd here present
  | notifying => exact after (after (attentive.due_of_notifying here))
  | queued => exact after (attentive.due_of_queued here (noted (by rw [here]; decide)))
  | calling =>
      apply later.due_of_queued
      · simp only [Attention.pollStep, here, phase_enter_self]
      · simp only [Attention.pollStep, here, Attention.enter]
        exact noted (by rw [here]; decide)
  | sleeping =>
      have isNoted : attention.irqAck = 1 := noted (by rw [here]; decide)
      have triggered := attentive.awake isNoted handled poller here
      apply later.due_of_queued
      · simp only [Attention.pollStep, here, triggered, if_true, phase_enter_self]
      · simp only [Attention.pollStep, here, triggered, if_true, Attention.enter]
        exact isNoted

end Attentive

/-- After every run, three steps of any one thread are enough to notify every client that is due,
unless another thread is already about to do so. -/
theorem notified_within_three_steps (clientList : List ListedClient)
    (events : List (AttentionEvent Poller)) (poller : Poller)
    (handled : (events.foldl step (initial clientList)).waking = 0)
    (present : (events.foldl step (initial clientList)).phase poller ≠ .absent)
    (others : ∀ other, other ≠ poller →
      (events.foldl step (initial clientList)).phase other ≠ .notifying) :
    ((events ++ List.replicate 3 (AttentionEvent.step poller)).foldl step
      (initial clientList)).due = [] := by
  rw [List.foldl_append]
  exact (attentive_foldl clientList events).due_of_present handled present others

theorem notified_within_three_steps_interruptedAsleep :
    (interruptedAsleep.foldl step (initial oneRunning)).due = [7] ∧
      ((interruptedAsleep ++ List.replicate 3 (AttentionEvent.step true)).foldl step
        (initial oneRunning)).due = [] :=
  ⟨by decide, notified_within_three_steps oneRunning interruptedAsleep true (by decide) (by decide)
    (by decide)⟩

end Attention

end Mica.McsKm
