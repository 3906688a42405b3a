import Mica.Lib.Align
import Mica.McsKm.CopyMsg
import Mathlib.Logic.Function.Basic

/-!
# User messages

`send_data_to_rtos_and_wait_rcv` of `library/user_msg`, and the service of micad
that passes its messages on (`services/umt/rpmsg_umt.c`). A caller copies its data
into a window of physical memory, tells micad through a named shared memory and a
semaphore, and waits for a second semaphore; the RTOS finds the data in the window
and leaves its reply behind them.

Callers, the task and the callback of micad, and the RTOS take turns in any order.
A statement that touches shared memory is one step, and `memcpy` takes a step for
each byte. The semaphores and the shared memory have names and outlive micad, which
may be killed and started again.
-/

namespace Mica.UserMsg

/-! ## Memory -/

/-- The bytes at an address. -/
def peek (memory : ℕ → UInt8) (addr count : ℕ) : List UInt8 :=
  (List.range count).map fun i => memory (addr + i)

/-- Stores bytes at an address. -/
def poke (memory : ℕ → UInt8) (addr : ℕ) (bytes : List UInt8) : ℕ → UInt8 := fun other =>
  if addr ≤ other then (bytes[other - addr]?).getD (memory other) else memory other

/-- Where the kernel module has its memory, and what `init_core_shared_memory` leaves in `phy_addr`
for instance 0: the start of the copy window, rounded down to a page. -/
structure Device where
  region : McsKm.McsRprocMem
  pagesize : UInt64
  unwrapped : region.phyAddr.toNat + McsKm.windowOffset 0 < 2 ^ 64
  pagePos : 0 < pagesize.toNat
  smallPage : pagesize.toNat ≤ McsKm.windowOffset 0
  window : ℕ
  window_eq : window = (McsKm.copyMsgAddr region 0 &&& ~~~(pagesize - 1)).toNat

theorem Device.window_ne_zero (device : Device) : device.window ≠ 0 := by
  have zeroSmall : (0 : UInt32).toNat ≤ McsKm.rprocMemMax := by decide
  rcases McsKm.copyMsgAddr_eq device.region zeroSmall with ⟨offset, address, offsetEq⟩
  have addressNat : (McsKm.copyMsgAddr device.region 0).toNat =
      device.region.phyAddr.toNat + McsKm.windowOffset 0 := by
    rw [address, UInt64.toNat_add, offsetEq]
    exact Nat.mod_eq_of_lt device.unwrapped
  have mask := Align.toNat_sub_one device.pagePos
  intro zero
  rw [device.window_eq] at zero
  have le : (McsKm.copyMsgAddr device.region 0).toNat ≤ (device.pagesize - 1).toNat :=
    Align.le_of_and_not_eq_zero zero
  have pagePos := device.pagePos
  have smallPage := device.smallPage
  omega

/-- `process_shared_data_t` -/
structure ProcessSharedData where
  phyAddr : ℕ
  dataLen : ℕ
  instanceId : ℤ
  rcvDataLen : ℕ
  lock : ℤ

/-- `umt_send_msg_t` -/
structure UmtSendMsg where
  phyAddr : ℕ
  dataLen : ℕ
deriving DecidableEq

/-! ## Callers -/

/-- A call that has taken the lock: its data, and how many calls have taken the lock before. -/
structure Turn where
  data : List UInt8
  number : ℕ
deriving DecidableEq

/-- What a caller does next in `send_data_to_rtos_and_wait_rcv`. -/
inductive Phase where
  | idle
  /-- The check of the length -/
  | entered (data : List UInt8)
  /-- The check of the instance -/
  | mapped (data : List UInt8)
  /-- `create_sem` -/
  | checked (data : List UInt8)
  /-- `__sync_lock_test_and_set` -/
  | spinning (data : List UInt8)
  /-- `init_core_shared_memory` -/
  | locked (turn : Turn)
  /-- `memcpy` to the window -/
  | copying (turn : Turn) (count : ℕ)
  /-- `phy_addr` -/
  | copied (turn : Turn)
  /-- `data_len` -/
  | addressed (turn : Turn)
  /-- `sem_post` -/
  | filled (turn : Turn)
  /-- `sem_wait` -/
  | waiting (turn : Turn)
  /-- The first look at `rcv_data_len` -/
  | woken (turn : Turn)
  /-- `memcpy` from the window -/
  | receiving (turn : Turn) (length : ℕ) (received : List UInt8)
  /-- The second look at `rcv_data_len` -/
  | received (turn : Turn) (received : List UInt8)
  /-- `__sync_lock_release` -/
  | reported (turn : Turn) (received : List UInt8) (length : ℕ)
  /-- `return 0` -/
  | released (turn : Turn) (received : List UInt8) (length : ℕ)

/-- The caller is between its `__sync_lock_test_and_set` and its `__sync_lock_release`. -/
def Phase.isInside : Phase → Bool
  | .locked _ | .copying _ _ | .copied _ | .addressed _ | .filled _ | .waiting _ | .woken _
  | .receiving _ _ _ | .received _ _ | .reported _ _ _ => true
  | .idle | .entered _ | .mapped _ | .checked _ | .spinning _ | .released _ _ _ => false

/-- A call that has returned 0. -/
structure Call where
  turn : Turn
  received : List UInt8
  length : ℕ
deriving DecidableEq

/-! ## The service and the RTOS -/

/-- What `umt_service_init` does next, or that it has returned. -/
inductive Daemon where
  | down
  /-- The first message -/
  | created
  /-- `init_process_shared_memory` -/
  | greeted
  /-- `lock` -/
  | mapped
  /-- `instance_id` -/
  | unlocked
  /-- `create_sem` -/
  | identified
  /-- `pthread_create` -/
  | opened
  | running
deriving DecidableEq

/-- What `rpmsg_umt_tx_task` does next. -/
inductive TxPhase where
  /-- `sem_wait` -/
  | waiting
  /-- `phy_addr` -/
  | woken
  /-- `data_len` -/
  | addressed (phyAddr : ℕ)
  /-- `rpmsg_send` -/
  | composed (msg : UmtSendMsg)

/-- What `rpmsg_rx_umt_callback` does next. -/
inductive RxPhase where
  | idle
  /-- `rcv_data_len` -/
  | called (length : ℕ)
  /-- `sem_post` -/
  | stored

/-- What the RTOS does next: it has read the data of a message, or written a reply that it is about
to announce. -/
inductive RtosPhase where
  | idle
  | working (msg : UmtSendMsg) (data : List UInt8)
  | written (length : ℕ)

/-- What the RTOS has answered. -/
structure Exchange where
  data : List UInt8
  reply : List UInt8

structure State (Caller : Type) where
  phase : Caller → Phase
  shared : ProcessSharedData
  memory : ℕ → UInt8
  userToMicad : ℕ
  micadToUser : ℕ
  daemon : Daemon
  tx : TxPhase
  toRtos : List UmtSendMsg
  rtos : RtosPhase
  fromRtos : List ℕ
  rx : RxPhase
  /-- The number of calls that have taken the lock -/
  turns : ℕ
  answered : List Exchange
  returned : List Call

/-- What happens next. A step of a party that is blocked or has nothing to do changes nothing. -/
inductive Event (Caller : Type) where
  | call (caller : Caller) (data : List UInt8)
  | caller (caller : Caller)
  /-- `init_core_shared_memory` fails and the call returns -1. -/
  | fail (caller : Caller)
  | tx
  | rx
  /-- The RTOS, with the reply that it writes if it has one to write. -/
  | rtos (reply : List UInt8)
  | kill
  | boot

namespace State

variable {Caller : Type}

/-- Before micad runs for the first time. -/
def fresh (memory : ℕ → UInt8) : State Caller where
  phase _ := .idle
  shared := ⟨0, 0, 0, 0, 0⟩
  memory := memory
  userToMicad := 0
  micadToUser := 0
  daemon := .down
  tx := .waiting
  toRtos := []
  rtos := .idle
  fromRtos := []
  rx := .idle
  turns := 0
  answered := []
  returned := []

/-- `rpmsg_umt_tx_task` -/
def txStep (state : State Caller) : State Caller :=
  match state.tx with
  | .waiting =>
      if state.userToMicad = 0 then state
      else { state with userToMicad := state.userToMicad - 1, tx := .woken }
  | .woken => { state with tx := .addressed state.shared.phyAddr }
  | .addressed phyAddr => { state with tx := .composed ⟨phyAddr, state.shared.dataLen⟩ }
  | .composed msg => { state with toRtos := state.toRtos ++ [msg], tx := .waiting }

/-- `rpmsg_rx_umt_callback` -/
def rxStep (state : State Caller) : State Caller :=
  match state.rx with
  | .idle =>
      match state.fromRtos with
      | [] => state
      | length :: rest => { state with fromRtos := rest, rx := .called length }
  | .called length =>
      { state with shared := { state.shared with rcvDataLen := length }, rx := .stored }
  | .stored => { state with micadToUser := state.micadToUser + 1, rx := .idle }

/-- The RTOS answers every message but those with address 0, and the reply fits the window. -/
def rtosStep (state : State Caller) (reply : List UInt8) : State Caller :=
  match state.rtos with
  | .idle =>
      match state.toRtos with
      | [] => state
      | msg :: rest =>
          if msg.phyAddr = 0 then { state with toRtos := rest }
          else
            { state with
              toRtos := rest
              rtos := .working msg (peek state.memory msg.phyAddr msg.dataLen) }
  | .working msg data =>
      if reply.length ≤ openampShmCopySize then
        { state with
          memory := poke state.memory (msg.phyAddr + openampShmCopySize) reply
          answered := state.answered ++ [⟨data, reply⟩]
          rtos := .written reply.length }
      else state
  | .written length => { state with fromRtos := state.fromRtos ++ [length], rtos := .idle }

/-- `umt_service_init` -/
def bootStep (state : State Caller) : State Caller :=
  match state.daemon with
  | .down => { state with daemon := .created }
  | .created => { state with toRtos := state.toRtos ++ [⟨0, 32⟩], daemon := .greeted }
  | .greeted => { state with daemon := .mapped }
  | .mapped => { state with shared := { state.shared with lock := 0 }, daemon := .unlocked }
  | .unlocked =>
      { state with shared := { state.shared with instanceId := 0 }, daemon := .identified }
  | .identified => { state with daemon := .opened }
  | .opened => { state with tx := .waiting, daemon := .running }
  | .running => state

section Callers

variable [DecidableEq Caller]

/-- The caller goes on. -/
def goTo (state : State Caller) (caller : Caller) (phase : Phase) : State Caller :=
  { state with phase := Function.update state.phase caller phase }

/-- `send_data_to_rtos_and_wait_rcv` for instance 0, one statement of a caller. -/
def callerStep (device : Device) (state : State Caller) (caller : Caller) : State Caller :=
  match state.phase caller with
  | .idle => state
  | .entered data =>
      if openampShmCopySize < data.length then state.goTo caller .idle
      else state.goTo caller (.mapped data)
  | .mapped data =>
      if state.shared.instanceId ≠ 0 then state.goTo caller .idle
      else state.goTo caller (.checked data)
  | .checked data => state.goTo caller (.spinning data)
  | .spinning data =>
      if state.shared.lock ≠ 0 then { state with shared := { state.shared with lock := 1 } }
      else
        { state.goTo caller (.locked ⟨data, state.turns⟩) with
          shared := { state.shared with lock := 1 }
          turns := state.turns + 1 }
  | .locked turn => state.goTo caller (.copying turn 0)
  | .copying turn count =>
      match turn.data[count]? with
      | some byte =>
          { state.goTo caller (.copying turn (count + 1)) with
            memory := Function.update state.memory (device.window + count) byte }
      | none => state.goTo caller (.copied turn)
  | .copied turn =>
      { state.goTo caller (.addressed turn) with
        shared := { state.shared with phyAddr := device.window } }
  | .addressed turn =>
      { state.goTo caller (.filled turn) with
        shared := { state.shared with dataLen := turn.data.length } }
  | .filled turn =>
      { state.goTo caller (.waiting turn) with userToMicad := state.userToMicad + 1 }
  | .waiting turn =>
      if state.micadToUser = 0 then state
      else { state.goTo caller (.woken turn) with micadToUser := state.micadToUser - 1 }
  | .woken turn => state.goTo caller (.receiving turn state.shared.rcvDataLen [])
  | .receiving turn length received =>
      if received.length < length then
        state.goTo caller (.receiving turn length (received ++
          [state.memory (device.window + openampShmCopySize + received.length)]))
      else state.goTo caller (.received turn received)
  | .received turn received =>
      state.goTo caller (.reported turn received state.shared.rcvDataLen)
  | .reported turn received length =>
      { state.goTo caller (.released turn received length) with
        shared := { state.shared with lock := 0 } }
  | .released turn received length =>
      { state.goTo caller .idle with
        returned := state.returned ++ [⟨turn, received, length⟩] }

/-- The threads of micad only run while it is up. -/
def step (device : Device) (state : State Caller) : Event Caller → State Caller
  | .call caller data =>
      match state.phase caller with
      | .idle => state.goTo caller (.entered data)
      | _ => state
  | .caller caller => state.callerStep device caller
  | .fail caller =>
      match state.phase caller with
      | .locked _ => state.goTo caller .idle
      | _ => state
  | .tx => if state.daemon = .running then state.txStep else state
  | .rx => if state.daemon = .running then state.rxStep else state
  | .rtos reply => state.rtosStep reply
  | .kill => { state with daemon := .down, tx := .waiting, rx := .idle }
  | .boot => state.bootStep

def after (device : Device) (state : State Caller) (events : List (Event Caller)) : State Caller :=
  events.foldl (step device) state

end Callers

/-! ## What each party leaves alone -/

theorem txStep_frame (state : State Caller) : ∃ posts tx toRtos,
    state.txStep = { state with userToMicad := posts, tx := tx, toRtos := toRtos } := by
  unfold txStep
  split
  · split
    · exact ⟨_, _, _, rfl⟩
    · exact ⟨_, _, _, rfl⟩
  · exact ⟨_, _, _, rfl⟩
  · exact ⟨_, _, _, rfl⟩
  · exact ⟨_, _, _, rfl⟩

theorem rxStep_frame (state : State Caller) : ∃ replies rx length ready,
    state.rxStep = { state with
      fromRtos := replies
      rx := rx
      shared := { state.shared with rcvDataLen := length }
      micadToUser := ready } := by
  unfold rxStep
  split
  · split
    · exact ⟨_, _, _, _, rfl⟩
    · exact ⟨_, _, _, _, rfl⟩
  · exact ⟨_, _, _, _, rfl⟩
  · exact ⟨_, _, _, _, rfl⟩

theorem rtosStep_frame (state : State Caller) (reply : List UInt8) :
    ∃ toRtos rtos fromRtos memory answered, state.answered <+: answered ∧
      state.rtosStep reply = { state with
        toRtos := toRtos
        rtos := rtos
        fromRtos := fromRtos
        memory := memory
        answered := answered } := by
  unfold rtosStep
  split
  · split
    · exact ⟨_, _, _, _, _, List.prefix_refl _, rfl⟩
    · split
      · exact ⟨_, _, _, _, _, List.prefix_refl _, rfl⟩
      · exact ⟨_, _, _, _, _, List.prefix_refl _, rfl⟩
  · split
    · exact ⟨_, _, _, _, _, List.prefix_append _ _, rfl⟩
    · exact ⟨_, _, _, _, _, List.prefix_refl _, rfl⟩
  · exact ⟨_, _, _, _, _, List.prefix_refl _, rfl⟩

/-- After one `umt_service_init` that has returned. -/
def initialised (memory : ℕ → UInt8) : State Caller :=
  { (fresh memory : State Caller) with toRtos := [⟨0, 32⟩], daemon := .running }

theorem after_boot [DecidableEq Caller] (device : Device) (memory : ℕ → UInt8) :
    (fresh memory : State Caller).after device (List.replicate 7 .boot) = initialised memory := rfl

end State

end Mica.UserMsg
