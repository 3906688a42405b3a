import Mica.Lib.Run
import Mica.Lib.SpinLock
import Mica.UserMsg.Basic

/-!
# Exclusive use of the copy window

The lock of the callers lies in the shared memory that every `umt_service_init`
initialises. As long as no caller holds the lock when micad clears it, at most one
caller uses the copy window; a micad that is started again while a caller waits for
its reply lets a second one in.
-/

namespace Mica.UserMsg

namespace State

variable {Caller : Type}

/-- The lock protects the window. -/
def Guarded (state : State Caller) : Prop :=
  SpinLock.Held Phase.isInside state.phase (state.shared.lock ≠ 0)

/-- At most one caller is inside. -/
def Exclusive (state : State Caller) : Prop :=
  ∀ caller other, (state.phase caller).isInside = true → (state.phase other).isInside = true →
    caller = other

/-- micad does not clear the lock while a caller is inside. -/
def Considerate (state : State Caller) (event : Event Caller) : Prop :=
  event = .boot → state.daemon = .mapped → ∀ caller, (state.phase caller).isInside = false

instance [Fintype Caller] (state : State Caller) :
    (event : Event Caller) → Decidable (state.Considerate event)
  | .boot => decidable_of_iff
      (state.daemon = .mapped → ∀ caller, (state.phase caller).isInside = false)
      ⟨fun outside _ => outside, fun considerate => considerate rfl⟩
  | .call _ _ | .caller _ | .fail _ | .tx | .rx | .rtos _ | .kill => isTrue (by simp [Considerate])

theorem guarded_fresh (memory : ℕ → UInt8) : (fresh memory : State Caller).Guarded :=
  SpinLock.held_of_empty fun _ => rfl

section Steps

variable {state next : State Caller}

theorem Guarded.congr (guarded : state.Guarded) (phase : next.phase = state.phase)
    (lock : next.shared.lock = state.shared.lock) : next.Guarded := by
  rw [Guarded, phase, lock]
  exact guarded

theorem Guarded.txStep (guarded : state.Guarded) : state.txStep.Guarded := by
  rcases state.txStep_frame with ⟨posts, tx, toRtos, next⟩
  rw [next]
  exact guarded.congr rfl rfl

theorem Guarded.rxStep (guarded : state.Guarded) : state.rxStep.Guarded := by
  rcases state.rxStep_frame with ⟨replies, rx, length, ready, next⟩
  rw [next]
  exact guarded.congr rfl rfl

theorem Guarded.rtosStep (guarded : state.Guarded) (reply : List UInt8) :
    (state.rtosStep reply).Guarded := by
  rcases state.rtosStep_frame reply with ⟨toRtos, rtos, fromRtos, memory, answered, -, next⟩
  rw [next]
  exact guarded.congr rfl rfl

theorem Guarded.bootStep (guarded : state.Guarded) (considerate : state.Considerate .boot) :
    state.bootStep.Guarded := by
  unfold State.bootStep
  cases stage : state.daemon with
  | mapped => exact SpinLock.held_of_empty (considerate rfl stage)
  | down | created | greeted | unlocked | identified | opened | running =>
      exact guarded.congr rfl rfl

variable [DecidableEq Caller]

/-- What a step does to a caller and the lock: it sets the lock once more, it takes it, it releases
it, or it leaves it alone. -/
inductive Moves (state next : State Caller) (caller : Caller) : Prop where
  | spin (isSet : state.shared.lock ≠ 0) (phase : next.phase = state.phase)
      (lock : next.shared.lock = 1)
  | enter (isClear : state.shared.lock = 0) {data : List UInt8}
      (phase : next.phase = Function.update state.phase caller (.locked ⟨data, state.turns⟩))
      (lock : next.shared.lock = 1)
  | leave (inside : (state.phase caller).isInside = true) {turn : Turn} {received : List UInt8}
      {length : ℕ}
      (phase : next.phase = Function.update state.phase caller (.released turn received length))
  | move {after : Phase} (phase : next.phase = Function.update state.phase caller after)
      (stays : after.isInside = true → (state.phase caller).isInside = true)
      (lock : next.shared.lock = state.shared.lock)

theorem moves_callerStep (device : Device) (state : State Caller) (caller : Caller) :
    Moves state (state.callerStep device caller) caller := by
  have stays : ∀ after : Phase, after.isInside = false →
      (after.isInside = true → (state.phase caller).isInside = true) := by
    intro after outside inside
    rw [outside] at inside
    cases inside
  cases here : state.phase caller with
  | idle =>
      simp only [callerStep, here]
      exact .move (Function.update_eq_self caller state.phase).symm id rfl
  | entered data =>
      simp only [callerStep, here]
      split
      · exact .move rfl (stays _ rfl) rfl
      · exact .move rfl (stays _ rfl) rfl
  | mapped data =>
      simp only [callerStep, here]
      split
      · exact .move rfl (stays _ rfl) rfl
      · exact .move rfl (stays _ rfl) rfl
  | checked data =>
      simp only [callerStep, here]
      exact .move rfl (stays _ rfl) rfl
  | spinning data =>
      simp only [callerStep, here]
      split
      next isSet => exact .spin isSet rfl rfl
      next isClear => exact .enter (not_not.1 isClear) rfl rfl
  | released turn received length =>
      simp only [callerStep, here]
      exact .move rfl (stays _ rfl) rfl
  | copying turn count =>
      have inside : (state.phase caller).isInside = true := by rw [here]; rfl
      simp only [callerStep, here]
      split
      · exact .move rfl (fun _ => inside) rfl
      · exact .move rfl (fun _ => inside) rfl
  | waiting turn =>
      have inside : (state.phase caller).isInside = true := by rw [here]; rfl
      simp only [callerStep, here]
      split
      · exact .move (Function.update_eq_self caller state.phase).symm id rfl
      · exact .move rfl (fun _ => inside) rfl
  | receiving turn length received =>
      have inside : (state.phase caller).isInside = true := by rw [here]; rfl
      simp only [callerStep, here]
      split
      · exact .move rfl (fun _ => inside) rfl
      · exact .move rfl (fun _ => inside) rfl
  | reported turn received length =>
      have inside : (state.phase caller).isInside = true := by rw [here]; rfl
      simp only [callerStep, here]
      exact .leave inside rfl
  | locked turn | copied turn | addressed turn | filled turn | woken turn
  | received turn received =>
      have inside : (state.phase caller).isInside = true := by rw [here]; rfl
      simp only [callerStep, here]
      exact .move rfl (fun _ => inside) rfl

theorem Guarded.moves (guarded : state.Guarded) {caller : Caller}
    (moves : Moves state next caller) : next.Guarded := by
  unfold Guarded
  cases moves with
  | spin isSet phase lock =>
      rw [phase, lock]
      exact guarded.mono fun _ => one_ne_zero
  | enter isClear phase lock =>
      rw [phase, lock]
      exact guarded.enter (not_not.2 isClear) one_ne_zero
  | leave inside phase =>
      rw [phase]
      exact SpinLock.held_of_empty (guarded.leave_empty inside rfl)
  | move phase stays lock =>
      rw [phase, lock]
      exact guarded.move stays

theorem Guarded.step (guarded : state.Guarded) (device : Device) {event : Event Caller}
    (considerate : state.Considerate event) : (state.step device event).Guarded := by
  cases event with
  | call caller data =>
      simp only [State.step]
      split
      · exact guarded.move fun inside => by cases inside
      · exact guarded
  | caller caller => exact guarded.moves (moves_callerStep device state caller)
  | fail caller =>
      simp only [State.step]
      split
      · exact guarded.move fun inside => by cases inside
      · exact guarded
  | tx =>
      simp only [State.step]
      split
      · exact guarded.txStep
      · exact guarded
  | rx =>
      simp only [State.step]
      split
      · exact guarded.rxStep
      · exact guarded
  | rtos reply => exact guarded.rtosStep reply
  | kill => exact guarded
  | boot => exact guarded.bootStep considerate

theorem after_append (device : Device) (state : State Caller) (before later : List (Event Caller)) :
    state.after device (before ++ later) = (state.after device before).after device later :=
  List.foldl_append ..

/-- As long as micad clears the lock only while nobody is inside, at most one caller is. -/
theorem exclusive_of_allConsiderate (device : Device) (memory : ℕ → UInt8)
    (events : List (Event Caller))
    (considerate : Run.AllSteps (State.step device) (fresh memory) State.Considerate events) :
    Run.AllStates (State.step device) (fresh memory) State.Exclusive events := by
  have states : Run.AllStates (State.step device) (fresh memory) State.Guarded events := by
    refine considerate.allStates (guarded_fresh memory) ?_
    intro state event guarded considerate
    exact guarded.step device considerate
  intro before isPrefix
  exact (states before isPrefix).unique

end Steps

/-- A device with pages of 4 KiB. -/
def exampleDevice : Device where
  region := ⟨0x70000000, 0x30000000⟩
  pagesize := 0x1000
  unwrapped := by decide
  pagePos := by decide
  smallPage := by decide
  window := 0x70d00000
  window_eq := by decide

/-- A call is answered, micad is killed and started again, and a second caller takes the lock. -/
def restartBetween : List (Event Bool) :=
  List.replicate 7 .boot ++ .call false [1] :: List.replicate 11 (.caller false) ++
    List.replicate 4 .tx ++ List.replicate 4 (.rtos [2]) ++ List.replicate 3 .rx ++
    List.replicate 7 (.caller false) ++ .kill :: List.replicate 7 .boot ++
    .call true [] :: List.replicate 4 (.caller true)

theorem exclusive_restartBetween :
    Run.AllStates (State.step exampleDevice) (fresh fun _ => 0) State.Exclusive restartBetween ∧
      let state := (fresh fun _ => 0 : State Bool).after exampleDevice restartBetween
      (state.phase true).isInside = true ∧ state.returned = [⟨⟨[1], 0⟩, [2], 1⟩] :=
  ⟨exclusive_of_allConsiderate exampleDevice _ _ (by decide +kernel), by decide +kernel⟩

/-- A caller waits for its reply while micad is killed and started again: the lock is cleared, and
a second caller comes in. -/
def restartInside : List (Event Bool) :=
  List.replicate 7 .boot ++ .call false [] :: List.replicate 10 (.caller false) ++
    .kill :: List.replicate 4 .boot ++ .call true [] :: List.replicate 4 (.caller true)

theorem not_exclusive_restartInside :
    ¬∀ before, before <+: restartInside →
      ((fresh fun _ => 0 : State Bool).after exampleDevice before).Exclusive := by
  intro exclusive
  have same : false = true := exclusive restartInside (List.prefix_refl _) false true rfl rfl
  cases same

end State

end Mica.UserMsg
