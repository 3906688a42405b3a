import Mica.Lib.Run
import Mica.UserMsg.Call

/-!
# The lock of the user-message library

Any number of processes make calls, interleaved action by action. A call that has
taken the lock in the shared memory gives it back only at the end of its path of
success: it returns with the lock held if `init_core_shared_memory` fails, and it dies
with the lock held where the process faults. From then on every call of every process
spins forever.
-/

namespace Mica.UserMsg

namespace LockRelease

open McsKm RingBuffer

/-- What a process is doing: the actions that are left of its call, how the call ends, and whether
it has taken the lock and not released it. -/
inductive Stage where
  | idle
  | running (rest : List Action) (ending : Ending) (holds : Bool)
  | dead
deriving DecidableEq

def Stage.holdsLock : Stage → Bool
  | .idle | .dead => false
  | .running _ _ holds => holds

variable {Process : Type}

/-- The lock in the shared memory and the processes. -/
structure System (Process : Type) where
  lock : ℤ
  stage : Process → Stage

inductive Event (Process : Type) where
  /-- A process that is not in a call makes one. -/
  | call (process : Process) (call : SendCall)
  /-- The next action of a call, or its end. -/
  | go (process : Process)

def fresh : System Process := ⟨0, fun _ => .idle⟩

section Step

variable [DecidableEq Process]

def System.goTo (system : System Process) (process : Process) (lock : ℤ) (stage : Stage) :
    System Process :=
  ⟨lock, Function.update system.stage process stage⟩

/-- One action of a process. -/
def go (system : System Process) (process : Process) : System Process :=
  match system.stage process with
  | .idle | .dead => system
  | .running [] (.returns _) _ => system.goTo process system.lock .idle
  | .running [] .faults _ => system.goTo process system.lock .dead
  | .running (.lock :: rest) ending holds =>
      if system.lock ≠ 0 then system.goTo process 1 (.running (.lock :: rest) ending holds)
      else system.goTo process 1 (.running rest ending true)
  | .running (.unlock :: rest) ending _ => system.goTo process 0 (.running rest ending false)
  | .running (_ :: rest) ending holds =>
      system.goTo process system.lock (.running rest ending holds)

def step (pagesize : UInt64) (region : McsRprocMem) (system : System Process) :
    Event Process → System Process
  | .call process call =>
      match system.stage process with
      | .idle =>
          let (actions, ending) := sendDataToRtosAndWaitRcv pagesize region call
          system.goTo process system.lock (.running actions ending false)
      | .running _ _ _ | .dead => system
  | .go process => go system process

end Step

/-- A lock that is set is held by a call that is still under way. -/
def Available (system : System Process) : Prop :=
  system.lock ≠ 0 → ∃ process, (system.stage process).holdsLock = true

/-- A call that returns has released the lock if it has taken it. -/
def ReturnsUnlocked (system : System Process) (event : Event Process) : Prop :=
  ∀ process ret, event = .go process → system.stage process ≠ .running [] (.returns ret) true

/-- The lock is released on every path of the run. -/
structure LockReleased [DecidableEq Process] (pagesize : UInt64) (region : McsRprocMem)
    (events : List (Event Process)) : Prop where
  available : Run.AllStates (step pagesize region) fresh Available events
  returnsUnlocked : Run.AllSteps (step pagesize region) fresh ReturnsUnlocked events

/-- The run makes only calls of a kind. -/
def OnlyCalls (allowed : SendCall → Prop) (events : List (Event Process)) : Prop :=
  ∀ process call, Event.call process call ∈ events → allowed call

/-- What a call needs to get to the release: the copy window, the semaphores, and lengths for which
both copies, as `size_t`, stay in what is mapped. -/
def ReachesRelease (pagesize : UInt64) (region : McsRprocMem) (call : SendCall) : Prop :=
  ∃ info, call.initCoreSharedMemory pagesize region = some info ∧ call.createSem ∧
    toSizeT call.dataLen ≤ info.mappedLength ∧
    openampShmCopySize + toSizeT call.rcvDataLen ≤ info.mappedLength

/-! ## The actions of a call -/

/-- The actions from here on take the lock at most once and release it before the end. -/
def Clean : Bool → List Action → Prop
  | holds, [] => holds = false
  | holds, .lock :: rest => holds = false ∧ Clean true rest
  | holds, .unlock :: rest => holds = true ∧ Clean false rest
  | holds, .copyIn _ :: rest | holds, .copyOut _ :: rest | holds, .fill _ _ :: rest
  | holds, .post :: rest | holds, .wait :: rest => Clean holds rest

/-- The action does not touch the lock. -/
def Action.IsNeutral (action : Action) : Prop := action ≠ .lock ∧ action ≠ .unlock

section Calls

variable {pagesize : UInt64} {region : McsRprocMem} {call : SendCall}

theorem clean_of_reachesRelease
    (reaches : TakesLock call → ReachesRelease pagesize region call) :
    Clean false (sendDataToRtosAndWaitRcv pagesize region call).1 := by
  by_cases takes : TakesLock call
  · rcases reaches takes with ⟨info, found, usable, sendable, receivable⟩
    rw [sendDataToRtosAndWaitRcv_of_takesLock takes, found]
    simp [exchange, not_lt.2 sendable, not_lt.2 receivable, usable, Clean]
  · rw [sendDataToRtosAndWaitRcv_of_not_takesLock takes]
    rfl

theorem keeps_lock_of_not_reachesRelease (takes : TakesLock call)
    (misses : ¬ReachesRelease pagesize region call) :
    ∃ rest ending, sendDataToRtosAndWaitRcv pagesize region call = (.lock :: rest, ending) ∧
      ∀ action ∈ rest, Action.IsNeutral action := by
  rw [sendDataToRtosAndWaitRcv_of_takesLock takes]
  cases found : call.initCoreSharedMemory pagesize region with
  | none => exact ⟨[], _, rfl, by simp⟩
  | some info =>
      refine ⟨_, _, rfl, ?_⟩
      unfold exchange
      dsimp only
      split_ifs with outside usable beyond
      · simp [Action.IsNeutral]
      · simp [Action.IsNeutral]
      · exact absurd ⟨info, found, usable, not_lt.1 outside, not_lt.1 beyond⟩ misses
      · simp [Action.IsNeutral]

end Calls

/-! ## Runs of clean calls -/

def Stage.IsClean : Stage → Prop
  | .idle | .dead => True
  | .running rest _ holds => Clean holds rest

section Runs

variable [DecidableEq Process] {system : System Process} {process : Process}

/-- All that an action of a clean call can do: it leaves the lock clear, it leaves the process with
the lock, or it finds the lock set and the process does not lose it. -/
theorem go_spec (clean : (system.stage process).IsClean) :
    ∃ lock stage, go system process = system.goTo process lock stage ∧ stage.IsClean ∧
      (lock = 0 ∨ stage.holdsLock = true ∨
        system.lock ≠ 0 ∧ ((system.stage process).holdsLock = true → stage.holdsLock = true)) := by
  have same : system = system.goTo process system.lock (system.stage process) := by
    simp [System.goTo]
  have clearOrSet : system.lock = 0 ∨ system.lock ≠ 0 := eq_or_ne _ _
  cases here : system.stage process with
  | idle =>
      refine ⟨system.lock, .idle, ?_, trivial, ?_⟩
      · simp only [go, here]
        rw [← here]
        exact same
      · exact clearOrSet.imp_right fun isSet => Or.inr ⟨isSet, id⟩
  | dead =>
      refine ⟨system.lock, .dead, ?_, trivial, ?_⟩
      · simp only [go, here]
        rw [← here]
        exact same
      · exact clearOrSet.imp_right fun isSet => Or.inr ⟨isSet, id⟩
  | running rest ending holds =>
      rw [here] at clean
      cases rest with
      | nil =>
          have released : holds = false := clean
          subst released
          cases ending with
          | returns ret =>
              refine ⟨system.lock, .idle, by simp only [go, here], trivial, ?_⟩
              exact clearOrSet.imp_right fun isSet => Or.inr ⟨isSet, id⟩
          | faults =>
              refine ⟨system.lock, .dead, by simp only [go, here], trivial, ?_⟩
              exact clearOrSet.imp_right fun isSet => Or.inr ⟨isSet, id⟩
      | cons action rest =>
          cases action with
          | lock =>
              by_cases isSet : system.lock ≠ 0
              · refine ⟨1, .running (.lock :: rest) ending holds, ?_, clean, ?_⟩
                · simp only [go, here, if_pos isSet]
                · exact Or.inr (Or.inr ⟨isSet, id⟩)
              · refine ⟨1, .running rest ending true, ?_, clean.2, Or.inr (Or.inl rfl)⟩
                simp only [go, here, if_neg isSet]
          | unlock =>
              exact ⟨0, .running rest ending false, by simp only [go, here], clean.2, Or.inl rfl⟩
          | copyIn length | copyOut length | fill phyAddr dataLen | post | wait =>
              refine ⟨system.lock, .running rest ending holds, by simp only [go, here], clean, ?_⟩
              exact clearOrSet.imp_right fun isSet => Or.inr ⟨isSet, id⟩

theorem Available.goTo {lock : ℤ} {stage : Stage} (available : Available system)
    (outcome : lock = 0 ∨ stage.holdsLock = true ∨
      system.lock ≠ 0 ∧ ((system.stage process).holdsLock = true → stage.holdsLock = true)) :
    Available (system.goTo process lock stage) := by
  intro isSet
  rcases outcome with clear | holds | ⟨wasSet, keeps⟩
  · exact absurd clear isSet
  · refine ⟨process, ?_⟩
    simp only [System.goTo, Function.update_self]
    exact holds
  · rcases available wasSet with ⟨holder, holds⟩
    refine ⟨holder, ?_⟩
    by_cases isProcess : holder = process
    · subst isProcess
      simp only [System.goTo, Function.update_self]
      exact keeps holds
    · simp only [System.goTo, Function.update_of_ne isProcess]
      exact holds

/-- Every call under way releases the lock, and a lock that is set has a call to release it. -/
structure Disciplined (system : System Process) : Prop where
  clean : ∀ process, (system.stage process).IsClean
  available : Available system

theorem Disciplined.goTo {lock : ℤ} {stage : Stage} (disciplined : Disciplined system)
    (clean : stage.IsClean)
    (outcome : lock = 0 ∨ stage.holdsLock = true ∨
      system.lock ≠ 0 ∧ ((system.stage process).holdsLock = true → stage.holdsLock = true)) :
    Disciplined (system.goTo process lock stage) := by
  refine ⟨?_, disciplined.available.goTo outcome⟩
  intro other
  by_cases isProcess : other = process
  · subst isProcess
    simp only [System.goTo, Function.update_self]
    exact clean
  · simp only [System.goTo, Function.update_of_ne isProcess]
    exact disciplined.clean other

variable {pagesize : UInt64} {region : McsRprocMem}

/-- Every call of the event gets to the release if it takes the lock. -/
def Releasing (pagesize : UInt64) (region : McsRprocMem) (event : Event Process) : Prop :=
  ∀ process call, event = .call process call → TakesLock call → ReachesRelease pagesize region call

theorem Disciplined.step (disciplined : Disciplined system) {event : Event Process}
    (releasing : Releasing pagesize region event) :
    Disciplined (step pagesize region system event) := by
  cases event with
  | call process call =>
      simp only [LockRelease.step]
      cases here : system.stage process with
      | idle =>
          apply disciplined.goTo
          · exact clean_of_reachesRelease (releasing process call rfl)
          · rw [here]
            exact (eq_or_ne _ _).imp_right fun isSet => Or.inr ⟨isSet, fun holds => nomatch holds⟩
      | running rest ending holds => exact disciplined
      | dead => exact disciplined
  | go process =>
      rcases go_spec (disciplined.clean process) with ⟨lock, stage, next, clean, outcome⟩
      simp only [LockRelease.step, next]
      exact disciplined.goTo clean outcome

omit [DecidableEq Process] in
theorem disciplined_fresh : Disciplined (fresh : System Process) :=
  ⟨fun _ => trivial, fun isSet => absurd rfl isSet⟩

omit [DecidableEq Process] in
theorem Disciplined.returnsUnlocked (disciplined : Disciplined system) (event : Event Process) :
    ReturnsUnlocked system event := by
  intro process ret _ here
  have clean := disciplined.clean process
  rw [here] at clean
  cases clean

theorem lockReleased_of_releasing {events : List (Event Process)}
    (releasing : ∀ event ∈ events, Releasing pagesize region event) :
    LockReleased pagesize region events := by
  have steps : Run.AllSteps (LockRelease.step pagesize region) fresh
      (fun _ event => Releasing pagesize region event) events := by
    intro before event isPrefix
    apply releasing event
    exact isPrefix.subset (List.mem_append_right _ (List.mem_singleton_self _))
  have states : Run.AllStates (LockRelease.step pagesize region) fresh Disciplined events := by
    refine steps.allStates disciplined_fresh ?_
    intro system event disciplined releasing
    exact disciplined.step releasing
  refine ⟨?_, ?_⟩
  · intro before isPrefix
    exact (states before isPrefix).available
  · intro before event isPrefix
    have reached := states before ((List.prefix_append _ _).trans isPrefix)
    exact reached.returnsUnlocked event

/-! ## A call that keeps the lock -/

theorem go_neutral {action : Action} {rest : List Action} {ending : Ending} {lock : ℤ}
    (neutral : Action.IsNeutral action) :
    go (system.goTo process lock (.running (action :: rest) ending true)) process =
      system.goTo process lock (.running rest ending true) := by
  cases action with
  | lock => exact absurd rfl neutral.1
  | unlock => exact absurd rfl neutral.2
  | copyIn length | copyOut length | fill phyAddr dataLen | post | wait =>
      simp [go, System.goTo]

theorem foldl_go_neutral {rest : List Action} {ending : Ending} {lock : ℤ}
    (neutral : ∀ action ∈ rest, Action.IsNeutral action) :
    (List.replicate rest.length (Event.go process)).foldl (LockRelease.step pagesize region)
        (system.goTo process lock (.running rest ending true)) =
      system.goTo process lock (.running [] ending true) := by
  induction rest with
  | nil => rfl
  | cons action rest ih =>
      rw [List.length_cons, List.replicate_succ, List.foldl_cons, LockRelease.step,
        go_neutral (neutral action List.mem_cons_self)]
      exact ih fun other listed => neutral other (List.mem_cons_of_mem _ listed)

theorem not_available_of_ended {ending : Ending} :
    ¬Available
      (go ((fresh : System Process).goTo process 1 (.running [] ending true)) process) := by
  intro available
  have left : ∃ stage, stage.holdsLock = false ∧
      go ((fresh : System Process).goTo process 1 (.running [] ending true)) process =
        fresh.goTo process 1 stage := by
    cases ending with
    | returns ret => exact ⟨.idle, rfl, by simp [go, System.goTo]⟩
    | faults => exact ⟨.dead, rfl, by simp [go, System.goTo]⟩
  rcases left with ⟨stage, released, next⟩
  rw [next] at available
  rcases available one_ne_zero with ⟨holder, holds⟩
  by_cases isProcess : holder = process
  · subst isProcess
    simp only [System.goTo, Function.update_self] at holds
    rw [released] at holds
    cases holds
  · simp only [System.goTo, Function.update_of_ne isProcess] at holds
    cases holds

/-- A process makes the call and runs it to its end. -/
def alone (process : Process) (call : SendCall) (length : ℕ) : List (Event Process) :=
  .call process call :: .go process :: (List.replicate length (.go process) ++ [.go process])

theorem not_lockReleased_alone {call : SendCall} (takes : TakesLock call)
    (misses : ¬ReachesRelease pagesize region call) (process : Process) :
    ∃ length, ¬LockReleased pagesize region (alone process call length) := by
  rcases keeps_lock_of_not_reachesRelease takes misses with ⟨rest, ending, actions, neutral⟩
  refine ⟨rest.length, ?_⟩
  intro released
  have available := released.available _ (List.prefix_refl _)
  have called : LockRelease.step pagesize region fresh (.call process call) =
      fresh.goTo process 0 (.running (.lock :: rest) ending false) := by
    simp only [LockRelease.step, fresh, actions]
  have taken : LockRelease.step pagesize region
      (fresh.goTo process 0 (.running (.lock :: rest) ending false)) (.go process) =
      fresh.goTo process 1 (.running rest ending true) := by
    simp [LockRelease.step, go, System.goTo]
  rw [alone, List.foldl_cons, List.foldl_cons, called, taken, Run.foldl_concat,
    foldl_go_neutral neutral] at available
  exact not_available_of_ended available

/-- In all runs of calls of a kind the lock is released on every path exactly if every call of the
kind that takes the lock gets to the release. -/
theorem lockReleased_iff_reachesRelease [Inhabited Process] (pagesize : UInt64)
    (region : McsRprocMem) (allowed : SendCall → Prop) :
    (∀ events : List (Event Process), OnlyCalls allowed events →
        LockReleased pagesize region events) ↔
      ∀ call, allowed call → TakesLock call → ReachesRelease pagesize region call := by
  constructor
  · intro released call isAllowed takes
    by_contra misses
    rcases not_lockReleased_alone takes misses (default : Process) with ⟨length, kept⟩
    apply kept
    apply released
    intro process other listed
    simp only [alone, List.mem_cons, List.mem_append, List.mem_replicate, List.not_mem_nil,
      Event.call.injEq, reduceCtorEq, or_false, and_false] at listed
    rw [listed.2]
    exact isAllowed
  · intro reaches events onlyCalls
    apply lockReleased_of_releasing
    intro event listed process call isCall takes
    rw [isCall] at listed
    exact reaches call (onlyCalls process call listed) takes

end Runs

/-- A call for which `/dev/mcs` cannot be opened. -/
def unopenedCall : SendCall := { successfulCall 8 [0, 0, 0, 0] with core := ⟨-1, true, none⟩ }

/-- The call returns -1, the lock is still set, and a second process spins. -/
theorem not_lockReleased_unopenedCall :
    ¬LockReleased 0x1000 ⟨0x70000000, 0x10000000⟩
      [.call false unopenedCall, .go false, .go false] ∧
    ([.call false unopenedCall, .go false, .go false,
        .call true (successfulCall 8 [0, 0, 0, 0]), .go true].foldl
      (step 0x1000 ⟨0x70000000, 0x10000000⟩) (fresh : System Bool)).stage true =
        .running (sendDataToRtosAndWaitRcv 0x1000 ⟨0x70000000, 0x10000000⟩
          (successfulCall 8 [0, 0, 0, 0])).1 (.returns 0) false := by
  refine ⟨?_, by decide⟩
  intro released
  have unlocked := released.returnsUnlocked [.call false unopenedCall, .go false] (.go false)
    (List.prefix_refl _) false (-1) rfl
  exact unlocked (by decide)

end LockRelease

end Mica.UserMsg
