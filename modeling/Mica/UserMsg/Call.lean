import Mica.Lib.LittleEndian
import Mica.RingBuffer.Basic
import Mica.UserMsg.CoreMemory

/-!
# One call of the user-message library

`send_data_to_rtos_and_wait_rcv` of `library/user_msg/user_msg.c` with every outcome
of what it calls, as the list of what it does to memory that others share, and how it
ends. Both lengths are C `int`s that become a `size_t` at `memcpy`: the length to send
is compared with the size of a window from above only, and the length of the reply is
whatever the RTOS has put into its message.

The semaphores come from `create_sem`, whose result is overwritten before anyone
looks at it; using them after a failure, and copying beyond what is mapped, ends the
process. The buffers of the caller are as large as the comment of the function asks.
-/

namespace Mica.UserMsg

open McsKm RingBuffer

/-- What a call does to shared memory, the lock and the semaphores. -/
inductive Action where
  /-- `__sync_lock_test_and_set` until it returns 0 -/
  | lock
  /-- `memcpy` of so many bytes to the start of the window -/
  | copyIn (length : ℕ)
  /-- `phy_addr` and `data_len` -/
  | fill (phyAddr : UInt64) (dataLen : Int32)
  /-- `sem_post` -/
  | post
  /-- `sem_wait` -/
  | wait
  /-- `memcpy` of so many bytes from offset `OPENAMP_SHM_COPY_SIZE` of the window -/
  | copyOut (length : ℕ)
  /-- `__sync_lock_release` -/
  | unlock
deriving DecidableEq

/-- How a call ends. -/
inductive Ending where
  | returns (ret : ℤ)
  | faults
deriving DecidableEq

/-- A call: its arguments `data_len` and `target_instance`, and what the world answers.
`init_process_shared_memory` calls `shm_open`, `ftruncate` and `mmap`, `create_sem` calls `sem_open`
twice; `instanceId` is what the shared memory holds when it is checked, and `reply` is the buffer
with the message that ends the wait. -/
structure SendCall where
  dataLen : Int32
  targetInstance : Int32
  shmFd : ℤ
  ftruncate : ℤ
  sharedMapped : Bool
  instanceId : Int32
  semUserToMicad : Bool
  semMicadToUser : Bool
  core : CoreResults
  reply : List UInt8
deriving DecidableEq

namespace SendCall

variable (call : SendCall)

/-- `init_process_shared_memory` does not return NULL. -/
def initProcessSharedMemory : Bool :=
  call.shmFd ≠ -1 ∧ call.ftruncate ≠ -1 ∧ call.sharedMapped

/-- `create_sem` returns 0. -/
def createSem : Bool := call.semUserToMicad ∧ call.semMicadToUser

/-- `init_core_shared_memory` on a request that is cleared but for the instance. -/
def initCoreSharedMemory (pagesize : UInt64) (region : McsRprocMem) : Option CoreMsgMemInfo :=
  UserMsg.initCoreSharedMemory pagesize region call.core
    { instanceId := call.targetInstance.toUInt32, phyAddr := 0, virAddr := 0, size := 0
      alignSize := 0 }

/-- What `rpmsg_rx_umt_callback` stores as `rcv_data_len`: the first four bytes of the message, read
as an `int`. -/
def rcvDataLen : Int32 := Int32.ofNat (LittleEndian.value (call.reply.take 4))

end SendCall

/-- `send_data_to_rtos_and_wait_rcv` from the copy of the data on. -/
def exchange (call : SendCall) (info : CoreMsgMemInfo) : List Action × Ending :=
  let sent := toSizeT call.dataLen
  let received := toSizeT call.rcvDataLen
  if info.mappedLength < sent then ([.copyIn sent], .faults)
  else
    let filled : List Action := [.copyIn sent, .fill info.phyAddr call.dataLen]
    -- `ret` of `create_sem` has been overwritten
    if ¬call.createSem then (filled, .faults)
    else if info.mappedLength < openampShmCopySize + received then
      (filled ++ [.post, .wait, .copyOut received], .faults)
    else (filled ++ [.post, .wait, .copyOut received, .unlock], .returns 0)

def sendDataToRtosAndWaitRcv (pagesize : UInt64) (region : McsRprocMem) (call : SendCall) :
    List Action × Ending :=
  if (openampShmCopySize : ℤ) < call.dataLen.toInt then ([], .returns (-1))
  else if ¬call.initProcessSharedMemory then ([], .returns (-1))
  else if call.instanceId ≠ call.targetInstance then ([], .returns (-1))
  else
    match call.initCoreSharedMemory pagesize region with
    -- the lock is not released behind `err`
    | none => ([.lock], .returns (-1))
    | some info =>
        let (actions, ending) := exchange call info
        (.lock :: actions, ending)

/-- The offsets from the start of the window that an action reads or writes. -/
def Action.offsets : Action → Set ℕ
  | .copyIn length => Set.Ico 0 length
  | .copyOut length =>
      Set.Ico openampShmCopySize (openampShmCopySize + length)
  | .lock | .fill _ _ | .post | .wait | .unlock => ∅

/-- An action stays in its half of the window: the first one to send, the second one to receive. -/
def Action.InWindow (action : Action) : Prop :=
  match action with
  | .copyIn _ => action.offsets ⊆ Set.Ico 0 openampShmCopySize
  | .copyOut _ =>
      action.offsets ⊆ Set.Ico openampShmCopySize (2 * openampShmCopySize)
  | .lock | .fill _ _ | .post | .wait | .unlock => True

/-- The call takes the lock. -/
def TakesLock (call : SendCall) : Prop :=
  call.dataLen.toInt ≤ openampShmCopySize ∧ call.initProcessSharedMemory ∧
    call.instanceId = call.targetInstance

instance (call : SendCall) : Decidable (TakesLock call) :=
  inferInstanceAs (Decidable (_ ∧ _ ∧ _))

/-- The length to send is not negative, and if the message can be sent, the length of the reply is
neither negative nor more than its half of the window. -/
def LengthsFit (call : SendCall) : Prop :=
  0 ≤ call.dataLen.toInt ∧
    (call.createSem → 0 ≤ call.rcvDataLen.toInt ∧
      call.rcvDataLen.toInt ≤ openampShmCopySize)

section Windows

theorem copyIn_inWindow_iff {length : ℕ} :
    (Action.copyIn length).InWindow ↔ length ≤ openampShmCopySize := by
  simp only [Action.InWindow, Action.offsets]
  rcases Nat.eq_zero_or_pos length with rfl | positive
  · simp
  · rw [Set.Ico_subset_Ico_iff positive]
    omega

theorem copyOut_inWindow_iff {length : ℕ} :
    (Action.copyOut length).InWindow ↔ length ≤ openampShmCopySize := by
  simp only [Action.InWindow, Action.offsets]
  rcases Nat.eq_zero_or_pos length with rfl | positive
  · simp
  · rw [Set.Ico_subset_Ico_iff (by omega)]
    omega

theorem toSizeT_le_iff {length : Int32} :
    toSizeT length ≤ openampShmCopySize ↔
      0 ≤ length.toInt ∧ length.toInt ≤ openampShmCopySize := by
  have lower := length.le_toInt
  have upper := length.toInt_lt
  have size : openampShmCopySize = 0x100000 := rfl
  rw [toSizeT, size]
  omega

theorem le_mappedLength {pagesize : UInt64} {region : McsRprocMem} {call : SendCall}
    {info : CoreMsgMemInfo} (mapped : call.initCoreSharedMemory pagesize region = some info) :
    2 * openampShmCopySize ≤ info.mappedLength := by
  rcases initCoreSharedMemory_eq_some mapped with ⟨window, accepted, _, _, size⟩
  have twoMiB := (toNat_phyAddr accepted).2.1
  rw [← size] at twoMiB
  exact twoMiB.symm.trans_le (le_max_left _ _)

theorem sendDataToRtosAndWaitRcv_of_takesLock {pagesize : UInt64} {region : McsRprocMem}
    {call : SendCall} (takes : TakesLock call) :
    sendDataToRtosAndWaitRcv pagesize region call =
      match call.initCoreSharedMemory pagesize region with
      | none => ([.lock], .returns (-1))
      | some info => (.lock :: (exchange call info).1, (exchange call info).2) := by
  rcases takes with ⟨short, mapped, created⟩
  simp only [sendDataToRtosAndWaitRcv, not_lt.2 short, mapped, created, not_true, ne_eq, if_false]

theorem sendDataToRtosAndWaitRcv_of_not_takesLock {pagesize : UInt64} {region : McsRprocMem}
    {call : SendCall} (refused : ¬TakesLock call) :
    sendDataToRtosAndWaitRcv pagesize region call = ([], .returns (-1)) := by
  unfold sendDataToRtosAndWaitRcv
  split_ifs with long mapped other
  · rfl
  · rfl
  · exact absurd ⟨not_lt.1 long, mapped, not_not.1 other⟩ refused
  · rfl

theorem exchange_inWindow_iff {call : SendCall} {info : CoreMsgMemInfo}
    (mapped : 2 * openampShmCopySize ≤ info.mappedLength)
    (short : call.dataLen.toInt ≤ openampShmCopySize) :
    (∀ action ∈ (exchange call info).1, action.InWindow) ↔ LengthsFit call := by
  have sent : 0 ≤ call.dataLen.toInt ↔ toSizeT call.dataLen ≤ openampShmCopySize := by
    rw [toSizeT_le_iff]
    exact (and_iff_left short).symm
  have others : (Action.fill info.phyAddr call.dataLen).InWindow ∧ Action.post.InWindow ∧
      Action.wait.InWindow ∧ Action.unlock.InWindow := ⟨trivial, trivial, trivial, trivial⟩
  unfold exchange LengthsFit
  dsimp only
  rw [sent, ← toSizeT_le_iff]
  split_ifs with outside usable beyond
  · rw [List.forall_mem_singleton, copyIn_inWindow_iff]
    omega
  · simp [copyIn_inWindow_iff, copyOut_inWindow_iff, others, usable]
  · simp [copyIn_inWindow_iff, copyOut_inWindow_iff, others, usable]
  · simp [copyIn_inWindow_iff, others, usable]

/-- The copies of a call stay in their windows exactly if the lengths fit or nothing is copied. -/
theorem inWindow_iff_lengthsFit (pagesize : UInt64) (region : McsRprocMem) (call : SendCall) :
    (∀ action ∈ (sendDataToRtosAndWaitRcv pagesize region call).1, action.InWindow) ↔
      (TakesLock call → (call.initCoreSharedMemory pagesize region).isSome → LengthsFit call) := by
  by_cases takes : TakesLock call
  · rw [sendDataToRtosAndWaitRcv_of_takesLock takes]
    cases found : call.initCoreSharedMemory pagesize region with
    | none => simp [Action.InWindow]
    | some info =>
        rw [List.forall_mem_cons, exchange_inWindow_iff (le_mappedLength found) takes.1]
        simp [takes, Action.InWindow]
  · rw [sendDataToRtosAndWaitRcv_of_not_takesLock takes]
    simp [takes]

/-- A call for instance 0 in which everything succeeds. -/
def successfulCall (dataLen : Int32) (reply : List UInt8) : SendCall where
  dataLen := dataLen
  targetInstance := 0
  shmFd := 3
  ftruncate := 0
  sharedMapped := true
  instanceId := 0
  semUserToMicad := true
  semMicadToUser := true
  core := ⟨4, true, some 0x400000⟩
  reply := reply

/-- A length of -1 copies `2 ^ 64 - 1` bytes into the window, and a reply of `0x7fffffff` bytes is
copied out. -/
theorem not_inWindow_negative_and_longReply :
    (¬∀ action ∈ (sendDataToRtosAndWaitRcv 0x1000 ⟨0x70000000, 0x10000000⟩
        (successfulCall (-1) [0, 0, 0, 0])).1, action.InWindow) ∧
      ¬∀ action ∈ (sendDataToRtosAndWaitRcv 0x1000 ⟨0x70000000, 0x10000000⟩
        (successfulCall 8 [0xff, 0xff, 0xff, 0x7f])).1, action.InWindow := by
  constructor
  · intro inside
    have copied : Action.copyIn (2 ^ 64 - 1) ∈ (sendDataToRtosAndWaitRcv 0x1000
        ⟨0x70000000, 0x10000000⟩ (successfulCall (-1) [0, 0, 0, 0])).1 := by decide
    exact absurd (copyIn_inWindow_iff.1 (inside _ copied)) (by decide)
  · intro inside
    have copied : Action.copyOut 0x7fffffff ∈ (sendDataToRtosAndWaitRcv 0x1000
        ⟨0x70000000, 0x10000000⟩ (successfulCall 8 [0xff, 0xff, 0xff, 0x7f])).1 := by decide
    exact absurd (copyOut_inWindow_iff.1 (inside _ copied)) (by decide)

end Windows

end Mica.UserMsg
