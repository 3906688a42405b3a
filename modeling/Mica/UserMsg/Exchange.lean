import Mica.UserMsg.Exclusion

/-!
# Replies to user messages

With one micad and no failing step, a call gets the reply to its own data. The
lock lets one caller at a time place a request; the request is then at exactly one
place on its way (`Channel`): a semaphore, the task, the message to the RTOS, the
RTOS, its answer, the callback, and the other semaphore. The window and the shared
memory keep what the next party will read until it has read it.
-/

namespace Mica.UserMsg

/-! ## Bytes in the window -/

/-- The bytes stand at the address. -/
def Holds (memory : ℕ → UInt8) (addr : ℕ) (bytes : List UInt8) : Prop :=
  ∀ i byte, bytes[i]? = some byte → memory (addr + i) = byte

theorem peek_of_holds {memory : ℕ → UInt8} {addr : ℕ} {bytes : List UInt8}
    (holds : Holds memory addr bytes) : peek memory addr bytes.length = bytes := by
  apply List.ext_getElem
  · simp [peek]
  · intro i inside insideBytes
    simpa [peek] using holds i _ (List.getElem?_eq_getElem insideBytes)

theorem holds_poke (memory : ℕ → UInt8) (addr : ℕ) (bytes : List UInt8) :
    Holds (poke memory addr bytes) addr bytes := by
  intro i byte here
  simp [poke, here]

theorem holds_nil (memory : ℕ → UInt8) (addr : ℕ) : Holds memory addr [] := by
  intro i byte here
  cases here

theorem Holds.copy {memory : ℕ → UInt8} {addr count : ℕ} {bytes : List UInt8} {byte : UInt8}
    (holds : Holds memory addr (bytes.take count)) (here : bytes[count]? = some byte) :
    Holds (Function.update memory (addr + count) byte) addr (bytes.take (count + 1)) := by
  intro i other there
  rw [List.getElem?_take] at there
  split at there
  next before =>
    rcases eq_or_ne i count with rfl | differs
    · rw [Function.update_self]
      exact Option.some.inj (here.symm.trans there)
    · rw [Function.update_of_ne (by omega)]
      apply holds
      rw [List.getElem?_take, if_pos (by omega)]
      exact there
  next => cases there

theorem Holds.receive {memory : ℕ → UInt8} {addr : ℕ} {bytes received : List UInt8}
    (holds : Holds memory addr bytes) (copied : received = bytes.take received.length)
    (more : received.length < bytes.length) :
    received ++ [memory (addr + received.length)] =
      bytes.take (received ++ [memory (addr + received.length)]).length := by
  have byte := holds received.length _ (List.getElem?_eq_getElem more)
  rw [byte, List.length_append, List.length_singleton, List.take_add_one,
    List.getElem?_eq_getElem more, Option.toList_some, ← copied]

/-! ## Where a request is -/

/-- The places that a request and its reply pass, except for greetings. -/
structure Channel where
  userToMicad : ℕ
  tx : TxPhase
  requests : List UmtSendMsg
  rtos : RtosPhase
  replies : List ℕ
  rx : RxPhase
  micadToUser : ℕ

def Channel.quiet : Channel := ⟨0, .waiting, [], .idle, [], .idle, 0⟩

/-- The number of requests and replies on their way. -/
def Channel.outstanding (channel : Channel) : ℕ :=
  channel.userToMicad +
    (match channel.tx with | .waiting => 0 | _ => 1) + channel.requests.length +
    (match channel.rtos with | .idle => 0 | _ => 1) + channel.replies.length +
    (match channel.rx with | .idle => 0 | _ => 1) + channel.micadToUser

/-- A request on its way to the RTOS, with what has been read of it. -/
inductive AskStage where
  | posted
  | woken
  | addressed
  | composed
  | sent
  | working

def AskStage.channel (window : ℕ) (data : List UInt8) : AskStage → Channel
  | .posted => { Channel.quiet with userToMicad := 1 }
  | .woken => { Channel.quiet with tx := .woken }
  | .addressed => { Channel.quiet with tx := .addressed window }
  | .composed => { Channel.quiet with tx := .composed ⟨window, data.length⟩ }
  | .sent => { Channel.quiet with requests := [⟨window, data.length⟩] }
  | .working => { Channel.quiet with rtos := .working ⟨window, data.length⟩ data }

/-- A reply on its way back. -/
inductive ReplyStage where
  | written
  | replied
  | called
  | stored
  | ready

def ReplyStage.channel (length : ℕ) : ReplyStage → Channel
  | .written => { Channel.quiet with rtos := .written length }
  | .replied => { Channel.quiet with replies := [length] }
  | .called => { Channel.quiet with rx := .called length }
  | .stored => { Channel.quiet with rx := .stored }
  | .ready => { Channel.quiet with micadToUser := 1 }

/-- The callback has stored the length. -/
def ReplyStage.isStored : ReplyStage → Bool
  | .stored | .ready => true
  | .written | .replied | .called => false

namespace State

variable {Caller : Type}

def channel (state : State Caller) : Channel where
  userToMicad := state.userToMicad
  tx := state.tx
  requests := state.toRtos.filter fun msg => msg.phyAddr ≠ 0
  rtos := state.rtos
  replies := state.fromRtos
  rx := state.rx
  micadToUser := state.micadToUser

/-- Both states have the same answers, the same bytes in the window, and the same in the shared
memory apart from the lock. -/
structure SameDesk (state next : State Caller) : Prop where
  answered : next.answered = state.answered
  memory : next.memory = state.memory
  phyAddr : next.shared.phyAddr = state.shared.phyAddr
  dataLen : next.shared.dataLen = state.shared.dataLen
  rcvDataLen : next.shared.rcvDataLen = state.shared.rcvDataLen

/-- The window and the shared memory have the request. -/
structure Asks (device : Device) (state : State Caller) (turn : Turn) : Prop where
  unanswered : state.answered.length = turn.number
  phyAddr : state.shared.phyAddr = device.window
  dataLen : state.shared.dataLen = turn.data.length
  holds : Holds state.memory device.window turn.data

/-- The RTOS has answered the request last, and the window has the reply. -/
structure Replied (device : Device) (state : State Caller) (turn : Turn) (reply : List UInt8) :
    Prop where
  last : state.answered.length = turn.number + 1
  exchange : state.answered[turn.number]? = some ⟨turn.data, reply⟩
  holds : Holds state.memory (device.window + openampShmCopySize) reply

/-- The request of a caller that waits is at one place on its way. -/
inductive Awaits (device : Device) (state : State Caller) (turn : Turn) : Prop where
  | ask (stage : AskStage) (channel : state.channel = stage.channel device.window turn.data)
      (asks : state.Asks device turn)
  | reply (reply : List UInt8) (stage : ReplyStage)
      (channel : state.channel = stage.channel reply.length)
      (replied : state.Replied device turn reply)
      (stored : stage.isStored = true → state.shared.rcvDataLen = reply.length)

section Steps

variable {device : Device} {state : State Caller} {turn : Turn}

theorem txStep_eq_self (waits : state.tx = .waiting) (none : state.userToMicad = 0) :
    state.txStep = state := by
  simp only [txStep, waits, if_pos none]

theorem rxStep_eq_self (waits : state.rx = .idle) (none : state.fromRtos = []) :
    state.rxStep = state := by
  simp only [rxStep, waits, none]

theorem Asks.congr {next : State Caller} (asks : state.Asks device turn)
    (same : SameDesk state next) : next.Asks device turn := by
  constructor
  · rw [same.answered]; exact asks.unanswered
  · rw [same.phyAddr]; exact asks.phyAddr
  · rw [same.dataLen]; exact asks.dataLen
  · rw [same.memory]; exact asks.holds

theorem Replied.congr {next : State Caller} {reply : List UInt8}
    (replied : state.Replied device turn reply) (answered : next.answered = state.answered)
    (memory : next.memory = state.memory) : next.Replied device turn reply := by
  constructor
  · rw [answered]; exact replied.last
  · rw [answered]; exact replied.exchange
  · rw [memory]; exact replied.holds

theorem Awaits.txStep (awaits : state.Awaits device turn) : state.txStep.Awaits device turn := by
  cases awaits with
  | reply reply stage channel replied stored =>
      have waits : state.tx = .waiting := by
        cases stage <;> exact congrArg Channel.tx channel
      have none : state.userToMicad = 0 := by
        cases stage <;> exact congrArg Channel.userToMicad channel
      rw [txStep_eq_self waits none]
      exact .reply reply stage channel replied stored
  | ask stage channel asks =>
      have tx := congrArg Channel.tx channel
      have posts := congrArg Channel.userToMicad channel
      cases stage with
      | posted =>
          have next : state.txStep = { state with userToMicad := 0, tx := .woken } := by
            simp only [State.txStep, show state.tx = .waiting from tx,
              show state.userToMicad = 1 from posts]
            rfl
          rw [next]
          exact .ask .woken
            (congrArg (fun on : Channel => { on with userToMicad := 0, tx := .woken }) channel)
            (asks.congr ⟨rfl, rfl, rfl, rfl, rfl⟩)
      | woken =>
          have next : state.txStep = { state with tx := .addressed device.window } := by
            simp only [State.txStep, show state.tx = .woken from tx, asks.phyAddr]
          rw [next]
          exact .ask .addressed
            (congrArg (fun on : Channel => { on with tx := .addressed device.window }) channel)
            (asks.congr ⟨rfl, rfl, rfl, rfl, rfl⟩)
      | addressed =>
          have next : state.txStep =
              { state with tx := .composed ⟨device.window, turn.data.length⟩ } := by
            simp only [State.txStep, show state.tx = .addressed device.window from tx, asks.dataLen]
          rw [next]
          exact .ask .composed
            (congrArg (fun on : Channel =>
              { on with tx := .composed ⟨device.window, turn.data.length⟩ }) channel)
            (asks.congr ⟨rfl, rfl, rfl, rfl, rfl⟩)
      | composed =>
          have next : state.txStep =
              { state with
                toRtos := state.toRtos ++ [⟨device.window, turn.data.length⟩]
                tx := .waiting } := by
            simp only [State.txStep,
              show state.tx = .composed ⟨device.window, turn.data.length⟩ from tx]
          have requests : state.toRtos.filter (fun msg => msg.phyAddr ≠ 0) = [] :=
            congrArg Channel.requests channel
          rw [next]
          refine .ask .sent ?_ (asks.congr ⟨rfl, rfl, rfl, rfl, rfl⟩)
          have kept : (state.toRtos ++ [(⟨device.window, turn.data.length⟩ : UmtSendMsg)]).filter
              (fun msg => msg.phyAddr ≠ 0) = [⟨device.window, turn.data.length⟩] := by
            rw [List.filter_append, requests]
            simp [device.window_ne_zero]
          rw [State.channel, kept]
          exact congrArg (fun on : Channel =>
            { on with tx := .waiting, requests := [⟨device.window, turn.data.length⟩] }) channel
      | sent | working =>
          rw [txStep_eq_self tx posts]
          exact .ask _ channel asks

theorem rtosStep_idle (idle : state.rtos = .idle) (reply : List UInt8) :
    (∃ greetings, state.rtosStep reply = { state with toRtos := greetings } ∧
        (state.rtosStep reply).channel = state.channel) ∨
      ∃ msg greetings, state.channel.requests =
        msg :: greetings.filter (fun msg => msg.phyAddr ≠ 0) ∧
        state.rtosStep reply = { state with
          toRtos := greetings
          rtos := .working msg (peek state.memory msg.phyAddr msg.dataLen) } := by
  cases waiting : state.toRtos with
  | nil =>
      have next : state.rtosStep reply = state := by simp only [rtosStep, idle, waiting]
      rw [next]
      refine Or.inl ⟨[], ?_, rfl⟩
      rw [← waiting]
  | cons msg rest =>
      by_cases greets : msg.phyAddr = 0
      · have next : state.rtosStep reply = { state with toRtos := rest } := by
          simp only [rtosStep, idle, waiting, if_pos greets]
        refine Or.inl ⟨rest, next, ?_⟩
        rw [next]
        simp [State.channel, waiting, greets]
      · refine Or.inr ⟨msg, rest, ?_, ?_⟩
        · simp [State.channel, waiting, greets]
        · simp only [rtosStep, idle, waiting, if_neg greets]

theorem Awaits.rtosStep (awaits : state.Awaits device turn) (reply : List UInt8) :
    (state.rtosStep reply).Awaits device turn := by
  cases awaits with
  | ask stage channel asks =>
      have rtos := congrArg Channel.rtos channel
      have requests := congrArg Channel.requests channel
      cases stage with
      | posted | woken | addressed | composed =>
          rcases rtosStep_idle rtos reply with ⟨greetings, next, same⟩ | ⟨msg, greetings, some, -⟩
          · rw [next] at same ⊢
            exact .ask _ (same.trans channel) (asks.congr ⟨rfl, rfl, rfl, rfl, rfl⟩)
          · cases requests.symm.trans some
      | sent =>
          rcases rtosStep_idle rtos reply with
            ⟨greetings, next, same⟩ | ⟨msg, greetings, some, next⟩
          · rw [next] at same ⊢
            exact .ask .sent (same.trans channel) (asks.congr ⟨rfl, rfl, rfl, rfl, rfl⟩)
          · obtain ⟨rfl, none⟩ := List.cons.inj (requests.symm.trans some)
            have data : peek state.memory device.window turn.data.length = turn.data :=
              peek_of_holds asks.holds
            rw [next]
            refine .ask .working ?_ (asks.congr ⟨rfl, rfl, rfl, rfl, rfl⟩)
            rw [State.channel]
            dsimp only
            rw [data, ← none]
            exact congrArg (fun on : Channel =>
              { on with
                requests := []
                rtos := .working ⟨device.window, turn.data.length⟩ turn.data }) channel
      | working =>
          have working : state.rtos = .working ⟨device.window, turn.data.length⟩ turn.data := rtos
          by_cases fits : reply.length ≤ openampShmCopySize
          · have next : state.rtosStep reply =
                { state with
                  memory := poke state.memory (device.window + openampShmCopySize) reply
                  answered := state.answered ++ [⟨turn.data, reply⟩]
                  rtos := .written reply.length } := by
              simp only [State.rtosStep, working, if_pos fits]
            rw [next]
            refine .reply reply .written
              (congrArg (fun on : Channel => { on with rtos := .written reply.length }) channel)
              ⟨?_, ?_, holds_poke _ _ _⟩ nofun
            · rw [List.length_append, asks.unanswered]
              rfl
            · rw [← asks.unanswered]
              exact List.getElem?_concat_length
          · have next : state.rtosStep reply = state := by
              simp only [State.rtosStep, working, if_neg fits]
            rw [next]
            exact .ask .working channel asks
  | reply written stage channel replied stored =>
      have rtos := congrArg Channel.rtos channel
      have requests := congrArg Channel.requests channel
      cases stage with
      | written =>
          have replies : state.fromRtos = [] := congrArg Channel.replies channel
          have next : state.rtosStep reply =
              { state with fromRtos := [written.length], rtos := .idle } := by
            simp only [State.rtosStep, show state.rtos = .written written.length from rtos, replies]
            rfl
          rw [next]
          exact .reply written .replied
            (congrArg (fun on : Channel =>
              { on with replies := [written.length], rtos := .idle }) channel)
            (replied.congr rfl rfl) nofun
      | replied | called | stored | ready =>
          rcases rtosStep_idle rtos reply with ⟨greetings, next, same⟩ | ⟨msg, greetings, some, -⟩
          · rw [next] at same ⊢
            exact .reply written _ (same.trans channel) (replied.congr rfl rfl) stored
          · cases requests.symm.trans some

theorem Awaits.rxStep (awaits : state.Awaits device turn) : state.rxStep.Awaits device turn := by
  cases awaits with
  | ask stage channel asks =>
      have idle : state.rx = .idle := by
        cases stage <;> exact congrArg Channel.rx channel
      have none : state.fromRtos = [] := by
        cases stage <;> exact congrArg Channel.replies channel
      rw [rxStep_eq_self idle none]
      exact .ask stage channel asks
  | reply reply stage channel replied stored =>
      have rx := congrArg Channel.rx channel
      have replies := congrArg Channel.replies channel
      have ready := congrArg Channel.micadToUser channel
      cases stage with
      | replied =>
          have next : state.rxStep = { state with fromRtos := [], rx := .called reply.length } := by
            simp only [State.rxStep, show state.rx = .idle from rx,
              show state.fromRtos = [reply.length] from replies]
          rw [next]
          exact .reply reply .called
            (congrArg (fun on : Channel =>
              { on with replies := [], rx := .called reply.length }) channel)
            (replied.congr rfl rfl) nofun
      | called =>
          have next : state.rxStep =
              { state with
                shared := { state.shared with rcvDataLen := reply.length }
                rx := .stored } := by
            simp only [State.rxStep, show state.rx = .called reply.length from rx]
          rw [next]
          exact .reply reply .stored
            (congrArg (fun on : Channel => { on with rx := .stored }) channel)
            (replied.congr rfl rfl) fun _ => rfl
      | stored =>
          have next : state.rxStep = { state with micadToUser := 1, rx := .idle } := by
            simp only [State.rxStep, show state.rx = .stored from rx,
              show state.micadToUser = 0 from ready]
          rw [next]
          exact .reply reply .ready
            (congrArg (fun on : Channel => { on with micadToUser := 1, rx := .idle }) channel)
            (replied.congr rfl rfl) fun _ => stored rfl
      | written | ready =>
          rw [rxStep_eq_self rx replies]
          exact .reply reply _ channel replied stored

end Steps

/-! ## The invariant -/

/-- The call has what the RTOS has replied in its turn to its own data. -/
def Own (state : State Caller) (call : Call) : Prop :=
  state.answered[call.turn.number]? = some ⟨call.turn.data, call.received⟩ ∧
    call.length = call.received.length

/-- What a caller relies on. -/
def Serves (device : Device) (state : State Caller) : Phase → Prop
  | .idle | .entered _ | .mapped _ | .checked _ | .spinning _ => True
  | .locked turn => state.channel = .quiet ∧ state.answered.length = turn.number
  | .copying turn count => state.channel = .quiet ∧ state.answered.length = turn.number ∧
      Holds state.memory device.window (turn.data.take count)
  | .copied turn => state.channel = .quiet ∧ state.answered.length = turn.number ∧
      Holds state.memory device.window turn.data
  | .addressed turn => state.channel = .quiet ∧ state.answered.length = turn.number ∧
      Holds state.memory device.window turn.data ∧ state.shared.phyAddr = device.window
  | .filled turn => state.channel = .quiet ∧ state.Asks device turn
  | .waiting turn => state.Awaits device turn
  | .woken turn => state.channel = .quiet ∧
      ∃ reply, state.Replied device turn reply ∧ state.shared.rcvDataLen = reply.length
  | .receiving turn length received => state.channel = .quiet ∧
      ∃ reply, state.Replied device turn reply ∧ state.shared.rcvDataLen = reply.length ∧
        length = reply.length ∧ received = reply.take received.length
  | .received turn received => state.channel = .quiet ∧ state.Replied device turn received ∧
      state.shared.rcvDataLen = received.length
  | .reported turn received length => state.channel = .quiet ∧
      state.Replied device turn received ∧ length = received.length
  | .released turn received length => state.Own ⟨turn, received, length⟩

end State

/-- The turn of a call that has taken the lock and not returned. -/
def Phase.turn? : Phase → Option Turn
  | .idle | .entered _ | .mapped _ | .checked _ | .spinning _ => none
  | .locked turn | .copying turn _ | .copied turn | .addressed turn | .filled turn | .waiting turn
  | .woken turn | .receiving turn _ _ | .received turn _ | .reported turn _ _
  | .released turn _ _ => some turn

namespace State

variable {Caller : Type}

structure Consistent (device : Device) (state : State Caller) : Prop where
  guarded : state.Guarded
  running : state.daemon = .running
  resting : (∀ caller, (state.phase caller).isInside = false) →
    state.channel = .quiet ∧ state.answered.length = state.turns
  serves : ∀ caller, state.Serves device (state.phase caller)
  current : ∀ caller, (state.phase caller).isInside = true →
    ∀ turn ∈ (state.phase caller).turn?, turn.number + 1 = state.turns
  returned : ∀ call ∈ state.returned, state.Own call

section Steps

variable {device : Device} {state next : State Caller}

theorem consistent_initialised (device : Device) (memory : ℕ → UInt8) :
    (initialised memory : State Caller).Consistent device where
  guarded := SpinLock.held_of_empty fun _ => rfl
  running := rfl
  resting _ := ⟨rfl, rfl⟩
  serves _ := trivial
  current _ inside := nomatch inside
  returned _ listed := nomatch listed

theorem Own.mono {call : Call} (own : state.Own call) (grows : state.answered <+: next.answered) :
    next.Own call := by
  obtain ⟨later, longer⟩ := grows
  refine ⟨?_, own.2⟩
  rw [← longer, List.getElem?_append_left]
  · exact own.1
  · exact (List.getElem?_eq_some_iff.1 own.1).1

theorem Serves.mono {phase : Phase} (outside : phase.isInside = false)
    (serves : state.Serves device phase) (grows : state.answered <+: next.answered) :
    next.Serves device phase := by
  cases phase with
  | idle | entered data | mapped data | checked data | spinning data => trivial
  | released turn received length => exact Own.mono serves grows
  | _ => cases outside

theorem Serves.quiet {phase : Phase} (inside : phase.isInside = true)
    (serves : state.Serves device phase) :
    (∃ turn, phase = .waiting turn) ∨ state.channel = .quiet := by
  cases phase with
  | idle | entered data | mapped data | checked data | spinning data => cases inside
  | released turn received length => cases inside
  | waiting turn => exact Or.inl ⟨turn, rfl⟩
  | locked turn | copying turn count | copied turn | addressed turn | filled turn | woken turn
  | receiving turn length received | received turn received | reported turn received length =>
      exact Or.inr serves.1

theorem Awaits.congr {turn : Turn} (awaits : state.Awaits device turn)
    (channel : next.channel = state.channel) (same : SameDesk state next) :
    next.Awaits device turn := by
  cases awaits with
  | ask stage place asks => exact .ask stage (channel.trans place) (asks.congr same)
  | reply reply stage place replied stored =>
      refine .reply reply stage (channel.trans place) (replied.congr same.answered same.memory) ?_
      rw [same.rcvDataLen]
      exact stored

theorem Awaits.wake {turn : Turn} {phase : Caller → Phase} (awaits : state.Awaits device turn)
    (posted : state.micadToUser ≠ 0) :
    { state with phase := phase, micadToUser := state.micadToUser - 1 }.Serves device
      (.woken turn) := by
  cases awaits with
  | ask stage channel asks =>
      have none : state.micadToUser = 0 := by
        cases stage <;> exact congrArg Channel.micadToUser channel
      exact absurd none posted
  | reply reply stage channel replied stored =>
      have ready := congrArg Channel.micadToUser channel
      cases stage with
      | written | replied | called | stored => exact absurd ready posted
      | ready =>
          refine ⟨?_, reply, replied.congr rfl rfl, stored rfl⟩
          rw [show state.micadToUser = 1 from ready]
          exact congrArg (fun on : Channel => { on with micadToUser := 0 }) channel

theorem Serves.congr {phase : Phase} (serves : state.Serves device phase)
    (channel : next.channel = state.channel) (same : SameDesk state next) :
    next.Serves device phase := by
  have answered := same.answered
  have memory := same.memory
  cases phase with
  | idle | entered data | mapped data | checked data | spinning data => trivial
  | waiting turn => exact Awaits.congr serves channel same
  | filled turn => exact ⟨channel.trans serves.1, serves.2.congr same⟩
  | woken turn =>
      rcases serves with ⟨quiet, reply, replied, stored⟩
      exact ⟨channel.trans quiet, reply, replied.congr answered memory,
        same.rcvDataLen.trans stored⟩
  | receiving turn length received =>
      rcases serves with ⟨quiet, reply, replied, stored, whole⟩
      exact ⟨channel.trans quiet, reply, replied.congr answered memory,
        same.rcvDataLen.trans stored, whole⟩
  | received turn received =>
      rcases serves with ⟨quiet, replied, stored⟩
      exact ⟨channel.trans quiet, replied.congr answered memory, same.rcvDataLen.trans stored⟩
  | reported turn received length =>
      rcases serves with ⟨quiet, replied, reports⟩
      exact ⟨channel.trans quiet, replied.congr answered memory, reports⟩
  | locked turn | copying turn count | copied turn | addressed turn
  | released turn received length =>
      simp only [Serves, Own, channel, answered, memory, same.phyAddr] at serves ⊢
      exact serves

theorem Consistent.environment (consistent : state.Consistent device)
    (phase : next.phase = state.phase) (lock : next.shared.lock = state.shared.lock)
    (daemon : next.daemon = state.daemon) (turns : next.turns = state.turns)
    (returned : next.returned = state.returned) (grows : state.answered <+: next.answered)
    (quiet : state.channel = .quiet → next.channel = state.channel ∧ SameDesk state next)
    (awaits : ∀ turn, state.Awaits device turn → next.Awaits device turn) :
    next.Consistent device where
  guarded := consistent.guarded.congr phase lock
  running := daemon.trans consistent.running
  resting := by
    rw [phase, turns]
    intro empty
    rcases consistent.resting empty with ⟨rests, all⟩
    rcases quiet rests with ⟨channel, same⟩
    exact ⟨channel.trans rests, by rw [same.answered, all]⟩
  serves := by
    intro caller
    rw [phase]
    cases inside : (state.phase caller).isInside with
    | false => exact (consistent.serves caller).mono inside grows
    | true =>
        rcases (consistent.serves caller).quiet inside with ⟨turn, waits⟩ | rests
        · have serves := consistent.serves caller
          rw [waits] at serves ⊢
          exact awaits turn serves
        · rcases quiet rests with ⟨channel, same⟩
          exact (consistent.serves caller).congr channel same
  current := by
    rw [phase, turns]
    exact consistent.current
  returned := by
    rw [returned]
    exact fun call listed => (consistent.returned call listed).mono grows

theorem Consistent.txStep (consistent : state.Consistent device) :
    state.txStep.Consistent device := by
  have awaits : ∀ turn, state.Awaits device turn → state.txStep.Awaits device turn :=
    fun turn awaits => awaits.txStep
  have quiet : state.channel = .quiet → state.txStep = state := fun rests =>
    txStep_eq_self (congrArg Channel.tx rests) (congrArg Channel.userToMicad rests)
  rcases state.txStep_frame with ⟨posts, tx, toRtos, next⟩
  rw [next] at awaits quiet ⊢
  refine consistent.environment rfl rfl rfl rfl rfl (List.prefix_refl _) ?_ awaits
  exact fun rests => ⟨congrArg State.channel (quiet rests), ⟨rfl, rfl, rfl, rfl, rfl⟩⟩

theorem Consistent.rxStep (consistent : state.Consistent device) :
    state.rxStep.Consistent device := by
  have awaits : ∀ turn, state.Awaits device turn → state.rxStep.Awaits device turn :=
    fun turn awaits => awaits.rxStep
  have quiet : state.channel = .quiet → state.rxStep = state := fun rests =>
    rxStep_eq_self (congrArg Channel.rx rests) (congrArg Channel.replies rests)
  rcases state.rxStep_frame with ⟨replies, rx, length, ready, next⟩
  rw [next] at awaits quiet ⊢
  refine consistent.environment rfl rfl rfl rfl rfl (List.prefix_refl _) ?_ awaits
  exact fun rests => ⟨congrArg State.channel (quiet rests), ⟨rfl, rfl, rfl, rfl,
    congrArg (fun on => on.shared.rcvDataLen) (quiet rests)⟩⟩

theorem Consistent.rtosStep (consistent : state.Consistent device) (reply : List UInt8) :
    (state.rtosStep reply).Consistent device := by
  have awaits : ∀ turn, state.Awaits device turn → (state.rtosStep reply).Awaits device turn :=
    fun turn awaits => awaits.rtosStep reply
  have quiet : state.channel = .quiet → (state.rtosStep reply).channel = state.channel ∧
      SameDesk state (state.rtosStep reply) := by
    intro rests
    rcases rtosStep_idle (congrArg Channel.rtos rests) reply with
      ⟨greetings, next, same⟩ | ⟨msg, greetings, some, -⟩
    · rw [next] at same ⊢
      exact ⟨same, ⟨rfl, rfl, rfl, rfl, rfl⟩⟩
    · cases (congrArg Channel.requests rests).symm.trans some
  rcases state.rtosStep_frame reply with ⟨toRtos, rtos, fromRtos, memory, answered, grows, next⟩
  rw [next] at awaits quiet ⊢
  exact consistent.environment rfl rfl rfl rfl rfl grows quiet awaits

theorem Consistent.spin (consistent : state.Consistent device) :
    { state with shared := { state.shared with lock := 1 } }.Consistent device where
  guarded := consistent.guarded.mono fun _ => one_ne_zero
  running := consistent.running
  resting := consistent.resting
  serves other := (consistent.serves other).congr rfl ⟨rfl, rfl, rfl, rfl, rfl⟩
  current := consistent.current
  returned := consistent.returned

variable [DecidableEq Caller] {caller : Caller} {before after : Phase}

/-- The caller goes on, and the RTOS has not answered meanwhile. -/
structure Goes (state next : State Caller) (caller : Caller) (after : Phase) : Prop where
  phase : next.phase = Function.update state.phase caller after
  daemon : next.daemon = state.daemon
  answered : next.answered = state.answered

theorem Goes.phase_self (goes : Goes state next caller after) : next.phase caller = after := by
  rw [goes.phase, Function.update_self]

theorem Goes.phase_other (goes : Goes state next caller after) {other : Caller}
    (differs : other ≠ caller) : next.phase other = state.phase other := by
  rw [goes.phase, Function.update_of_ne differs]

theorem Goes.grows (goes : Goes state next caller after) : state.answered <+: next.answered := by
  refine ⟨[], ?_⟩
  rw [List.append_nil, goes.answered]

theorem Consistent.serves_other (consistent : state.Consistent device)
    (goes : Goes state next caller after) {other : Caller} (differs : other ≠ caller)
    (outside : (state.phase other).isInside = false) : next.Serves device (next.phase other) := by
  rw [goes.phase_other differs]
  exact (consistent.serves other).mono outside goes.grows

theorem Consistent.own_of_returned (consistent : state.Consistent device)
    (goes : Goes state next caller after) (returned : next.returned = state.returned) :
    ∀ call ∈ next.returned, next.Own call := by
  rw [returned]
  exact fun call listed => (consistent.returned call listed).mono goes.grows

theorem Consistent.advance (consistent : state.Consistent device)
    (here : state.phase caller = before) (goes : Goes state next caller after)
    (wasInside : before.isInside = true) (stays : after.isInside = true)
    (turn : after.turn? = before.turn?) (lock : next.shared.lock = state.shared.lock)
    (turns : next.turns = state.turns)
    (returned : next.returned = state.returned) (serves : next.Serves device after) :
    next.Consistent device := by
  have inside : (state.phase caller).isInside = true := by rw [here, wasInside]
  constructor
  · exact consistent.guarded.moves (.move goes.phase (fun _ => inside) lock)
  · exact goes.daemon.trans consistent.running
  · intro empty
    have here := empty caller
    rw [goes.phase_self, stays] at here
    cases here
  · intro other
    rcases eq_or_ne other caller with rfl | differs
    · rw [goes.phase_self]
      exact serves
    · apply consistent.serves_other goes differs
      cases also : (state.phase other).isInside with
      | false => rfl
      | true => exact absurd (consistent.guarded.unique other caller also inside) differs
  · intro other insideOther
    rw [turns]
    rcases eq_or_ne other caller with rfl | differs
    · rw [goes.phase_self, turn, ← here]
      exact consistent.current other inside
    · rw [goes.phase_other differs] at insideOther ⊢
      exact consistent.current other insideOther
  · exact consistent.own_of_returned goes returned

theorem Consistent.stroll (consistent : state.Consistent device)
    (here : state.phase caller = before) (goes : Goes state next caller after)
    (outside : before.isInside = false) (stays : after.isInside = false)
    (lock : next.shared.lock = state.shared.lock)
    (turns : next.turns = state.turns) (channel : next.channel = state.channel)
    (same : SameDesk state next) (serves : next.Serves device after)
    (returned : ∀ call ∈ next.returned, next.Own call) : next.Consistent device where
  guarded := by
    refine consistent.guarded.moves (.move goes.phase (fun inside => ?_) lock)
    rw [stays] at inside
    cases inside
  running := goes.daemon.trans consistent.running
  resting := by
    intro empty
    rw [channel, goes.answered, turns]
    apply consistent.resting
    intro other
    rcases eq_or_ne other caller with rfl | differs
    · rw [here, outside]
    · rw [← goes.phase_other differs]
      exact empty other
  serves := by
    intro other
    rcases eq_or_ne other caller with rfl | differs
    · rw [goes.phase_self]
      exact serves
    · rw [goes.phase_other differs]
      exact (consistent.serves other).congr channel same
  current := by
    intro other inside
    rw [turns]
    rcases eq_or_ne other caller with rfl | differs
    · rw [goes.phase_self, stays] at inside
      cases inside
    · rw [goes.phase_other differs] at inside ⊢
      exact consistent.current other inside
  returned := returned

theorem Consistent.enter (consistent : state.Consistent device) {data : List UInt8}
    (goes : Goes state next caller (.locked ⟨data, state.turns⟩))
    (isClear : state.shared.lock = 0) (lock : next.shared.lock = 1)
    (turns : next.turns = state.turns + 1) (channel : next.channel = state.channel)
    (returned : next.returned = state.returned) : next.Consistent device := by
  have empty := consistent.guarded.empty_of_unlocked (not_not.2 isClear)
  rcases consistent.resting empty with ⟨rests, all⟩
  constructor
  · exact consistent.guarded.moves (.enter isClear goes.phase lock)
  · exact goes.daemon.trans consistent.running
  · intro outside
    have here := outside caller
    rw [goes.phase_self] at here
    cases here
  · intro other
    rcases eq_or_ne other caller with rfl | differs
    · rw [goes.phase_self]
      exact ⟨channel.trans rests, by rw [goes.answered, all]⟩
    · exact consistent.serves_other goes differs (empty other)
  · intro other inside turn its
    rcases eq_or_ne other caller with rfl | differs
    · rw [goes.phase_self] at its
      rw [← Option.some.inj its, turns]
    · rw [goes.phase_other differs, empty other] at inside
      cases inside
  · exact consistent.own_of_returned goes returned

theorem Consistent.leave (consistent : state.Consistent device) {turn : Turn}
    {received : List UInt8} {length : ℕ}
    (here : state.phase caller = .reported turn received length)
    (goes : Goes state next caller (.released turn received length))
    (turns : next.turns = state.turns) (channel : next.channel = state.channel)
    (returned : next.returned = state.returned) : next.Consistent device := by
  have inside : (state.phase caller).isInside = true := by rw [here]; rfl
  have empty : ∀ other, (next.phase other).isInside = false := by
    rw [goes.phase]
    exact consistent.guarded.leave_empty inside rfl
  have serves := consistent.serves caller
  rw [here] at serves
  rcases serves with ⟨rests, replied, reports⟩
  constructor
  · exact consistent.guarded.moves (.leave inside goes.phase)
  · exact goes.daemon.trans consistent.running
  · intro _
    have current := consistent.current caller inside turn (by rw [here]; rfl)
    rw [channel, goes.answered, turns]
    exact ⟨rests, replied.last.trans current⟩
  · intro other
    rcases eq_or_ne other caller with rfl | differs
    · rw [goes.phase_self, Serves, Own, goes.answered]
      exact ⟨replied.exchange, reports⟩
    · apply consistent.serves_other goes differs
      rw [← goes.phase_other differs]
      exact empty other
  · intro other still
    rw [empty other] at still
    cases still
  · exact consistent.own_of_returned goes returned

theorem Consistent.callerStep (consistent : state.Consistent device) (caller : Caller) :
    (state.callerStep device caller).Consistent device := by
  have serves := consistent.serves caller
  have own : ∀ call ∈ state.returned, state.Own call := consistent.returned
  cases here : state.phase caller with
  | idle =>
      simp only [State.callerStep, here]
      exact consistent
  | entered data =>
      simp only [State.callerStep, here]
      split
      · exact consistent.stroll here ⟨rfl, rfl, rfl⟩ rfl rfl rfl rfl rfl ⟨rfl, rfl, rfl, rfl, rfl⟩
          trivial own
      · exact consistent.stroll here ⟨rfl, rfl, rfl⟩ rfl rfl rfl rfl rfl ⟨rfl, rfl, rfl, rfl, rfl⟩
          trivial own
  | mapped data =>
      simp only [State.callerStep, here]
      split
      · exact consistent.stroll here ⟨rfl, rfl, rfl⟩ rfl rfl rfl rfl rfl ⟨rfl, rfl, rfl, rfl, rfl⟩
          trivial own
      · exact consistent.stroll here ⟨rfl, rfl, rfl⟩ rfl rfl rfl rfl rfl ⟨rfl, rfl, rfl, rfl, rfl⟩
          trivial own
  | checked data =>
      simp only [State.callerStep, here]
      exact consistent.stroll here ⟨rfl, rfl, rfl⟩ rfl rfl rfl rfl rfl ⟨rfl, rfl, rfl, rfl, rfl⟩
        trivial own
  | spinning data =>
      simp only [State.callerStep, here]
      split
      next => exact consistent.spin
      next isClear => exact consistent.enter ⟨rfl, rfl, rfl⟩ (not_not.1 isClear) rfl rfl rfl rfl
  | released turn received length =>
      rw [here] at serves
      simp only [State.callerStep, here]
      refine consistent.stroll here ⟨rfl, rfl, rfl⟩ rfl rfl rfl rfl rfl ⟨rfl, rfl, rfl, rfl, rfl⟩
        trivial ?_
      intro call listed
      rcases List.mem_append.1 listed with before | last
      · exact own call before
      · rw [List.mem_singleton.1 last]
        exact serves
  | reported turn received length =>
      simp only [State.callerStep, here]
      exact consistent.leave here ⟨rfl, rfl, rfl⟩ rfl rfl rfl
  | locked turn =>
      rw [here] at serves
      simp only [State.callerStep, here]
      exact consistent.advance here ⟨rfl, rfl, rfl⟩ rfl rfl rfl rfl rfl rfl
        ⟨serves.1, serves.2, by rw [List.take_zero]; exact holds_nil _ _⟩
  | copying turn count =>
      rw [here] at serves
      rcases serves with ⟨rests, unanswered, holds⟩
      simp only [State.callerStep, here]
      split
      next byte next =>
        exact consistent.advance here ⟨rfl, rfl, rfl⟩ rfl rfl rfl rfl rfl rfl
          ⟨rests, unanswered, holds.copy next⟩
      next done =>
        have whole : turn.data.take count = turn.data :=
          List.take_of_length_le (List.getElem?_eq_none_iff.1 done)
        rw [whole] at holds
        exact consistent.advance here ⟨rfl, rfl, rfl⟩ rfl rfl rfl rfl rfl rfl
          ⟨rests, unanswered, holds⟩
  | copied turn =>
      rw [here] at serves
      rcases serves with ⟨rests, unanswered, holds⟩
      simp only [State.callerStep, here]
      exact consistent.advance here ⟨rfl, rfl, rfl⟩ rfl rfl rfl rfl rfl rfl
        ⟨rests, unanswered, holds, rfl⟩
  | addressed turn =>
      rw [here] at serves
      rcases serves with ⟨rests, unanswered, holds, phyAddr⟩
      simp only [State.callerStep, here]
      exact consistent.advance here ⟨rfl, rfl, rfl⟩ rfl rfl rfl rfl rfl rfl
        ⟨rests, ⟨unanswered, phyAddr, rfl, holds⟩⟩
  | filled turn =>
      rw [here] at serves
      rcases serves with ⟨rests, asks⟩
      have none : state.userToMicad = 0 := congrArg Channel.userToMicad rests
      simp only [State.callerStep, here, none]
      refine consistent.advance here ⟨rfl, rfl, rfl⟩ rfl rfl rfl rfl rfl rfl ?_
      exact .ask .posted (congrArg (fun on : Channel => { on with userToMicad := 1 }) rests)
        (asks.congr ⟨rfl, rfl, rfl, rfl, rfl⟩)
  | waiting turn =>
      rw [here] at serves
      simp only [State.callerStep, here]
      split
      next => exact consistent
      next posted =>
        refine consistent.advance here ⟨rfl, rfl, rfl⟩ rfl rfl rfl rfl rfl rfl ?_
        have awaits : state.Awaits device turn := serves
        exact awaits.wake posted
  | woken turn =>
      rw [here] at serves
      rcases serves with ⟨rests, reply, replied, stored⟩
      simp only [State.callerStep, here]
      exact consistent.advance here ⟨rfl, rfl, rfl⟩ rfl rfl rfl rfl rfl rfl
        ⟨rests, reply, replied.congr rfl rfl, stored, stored, rfl⟩
  | receiving turn length received =>
      rw [here] at serves
      rcases serves with ⟨rests, reply, replied, stored, whole, copied⟩
      simp only [State.callerStep, here]
      split
      next more =>
        refine consistent.advance here ⟨rfl, rfl, rfl⟩ rfl rfl rfl rfl rfl rfl
          ⟨rests, reply, replied.congr rfl rfl, stored, whole, ?_⟩
        exact replied.holds.receive copied (whole ▸ more)
      next done =>
        have all : received = reply := by
          rw [copied]
          exact List.take_of_length_le (by omega)
        subst all
        exact consistent.advance here ⟨rfl, rfl, rfl⟩ rfl rfl rfl rfl rfl rfl
          ⟨rests, replied.congr rfl rfl, stored⟩
  | received turn received =>
      rw [here] at serves
      rcases serves with ⟨rests, replied, stored⟩
      simp only [State.callerStep, here]
      exact consistent.advance here ⟨rfl, rfl, rfl⟩ rfl rfl rfl rfl rfl rfl
        ⟨rests, replied.congr rfl rfl, stored⟩

end Steps

/-! ## Turns -/

/-- No two calls have the same turn. -/
structure Numbered (state : State Caller) : Prop where
  below : ∀ caller, ∀ turn ∈ (state.phase caller).turn?, turn.number < state.turns
  apart : ∀ caller other, ∀ turn ∈ (state.phase caller).turn?,
    ∀ turn' ∈ (state.phase other).turn?, turn.number = turn'.number → caller = other
  past : ∀ call ∈ state.returned, call.turn.number < state.turns ∧
    ∀ caller, ∀ turn ∈ (state.phase caller).turn?, turn.number ≠ call.turn.number
  nodup : (state.returned.map fun call => call.turn.number).Nodup

section Turns

variable {device : Device} {state next : State Caller}

theorem numbered_initialised (memory : ℕ → UInt8) :
    (initialised memory : State Caller).Numbered where
  below _ _ its := nomatch its
  apart _ _ _ its := nomatch its
  past _ listed := nomatch listed
  nodup := List.nodup_nil

theorem Numbered.congr (numbered : state.Numbered)
    (turns : ∀ caller, (next.phase caller).turn? = (state.phase caller).turn?)
    (count : next.turns = state.turns) (returned : next.returned = state.returned) :
    next.Numbered := by
  constructor
  · simpa only [turns, count] using numbered.below
  · simpa only [turns] using numbered.apart
  · simpa only [turns, count, returned] using numbered.past
  · simpa only [returned] using numbered.nodup

variable [DecidableEq Caller] {caller : Caller}

/-- What a step does to the turns: it keeps them, it gives out the next one, or its call returns. -/
inductive Counts (state next : State Caller) (caller : Caller) : Prop where
  | keep (turns : ∀ other, (next.phase other).turn? = (state.phase other).turn?)
      (count : next.turns = state.turns) (returned : next.returned = state.returned)
  | enter {after : Phase} {data : List UInt8}
      (phase : next.phase = Function.update state.phase caller after)
      (turn : after.turn? = some ⟨data, state.turns⟩) (count : next.turns = state.turns + 1)
      (returned : next.returned = state.returned)
  | finish {after : Phase} {call : Call} (here : (state.phase caller).turn? = some call.turn)
      (phase : next.phase = Function.update state.phase caller after) (turn : after.turn? = none)
      (count : next.turns = state.turns) (returned : next.returned = state.returned ++ [call])

theorem counts_of_same {after : Phase}
    (phase : next.phase = Function.update state.phase caller after)
    (turn : after.turn? = (state.phase caller).turn?) (count : next.turns = state.turns)
    (returned : next.returned = state.returned) : Counts state next caller := by
  refine .keep ?_ count returned
  intro other
  rw [phase]
  rcases eq_or_ne other caller with rfl | differs
  · rw [Function.update_self, turn]
  · rw [Function.update_of_ne differs]

theorem counts_callerStep (device : Device) (state : State Caller) (caller : Caller) :
    Counts state (state.callerStep device caller) caller := by
  cases here : state.phase caller with
  | idle =>
      simp only [callerStep, here]
      exact .keep (fun _ => rfl) rfl rfl
  | spinning data =>
      simp only [callerStep, here]
      split
      · exact .keep (fun _ => rfl) rfl rfl
      · exact .enter rfl rfl rfl rfl
  | released turn received length =>
      simp only [callerStep, here]
      exact .finish (by rw [here]; rfl) rfl rfl rfl rfl
  | entered data | mapped data | copying turn count | receiving turn length received =>
      simp only [callerStep, here]
      split
      · exact counts_of_same rfl (by rw [here]; rfl) rfl rfl
      · exact counts_of_same rfl (by rw [here]; rfl) rfl rfl
  | waiting turn =>
      simp only [callerStep, here]
      split
      · exact .keep (fun _ => rfl) rfl rfl
      · exact counts_of_same rfl (by rw [here]; rfl) rfl rfl
  | checked data | locked turn | copied turn | addressed turn | filled turn | woken turn
  | received turn received | reported turn received length =>
      simp only [callerStep, here]
      exact counts_of_same rfl (by rw [here]; rfl) rfl rfl

theorem turn?_update {after : Phase} {other : Caller} {turn : Turn}
    (phase : next.phase = Function.update state.phase caller after)
    (its : turn ∈ (next.phase other).turn?) :
    other = caller ∧ turn ∈ after.turn? ∨ turn ∈ (state.phase other).turn? ∧ other ≠ caller := by
  rw [phase] at its
  rcases eq_or_ne other caller with rfl | differs
  · rw [Function.update_self] at its
    exact Or.inl ⟨rfl, its⟩
  · rw [Function.update_of_ne differs] at its
    exact Or.inr ⟨its, differs⟩

theorem Numbered.counts (numbered : state.Numbered) (counts : Counts state next caller) :
    next.Numbered := by
  cases counts with
  | keep turns count returned => exact numbered.congr turns count returned
  | enter phase turn count returned =>
      have cases : ∀ other, ∀ its ∈ (next.phase other).turn?,
          other = caller ∧ its.number = state.turns ∨
            its ∈ (state.phase other).turn? ∧ its.number < state.turns := by
        intro other its listed
        rcases turn?_update phase listed with ⟨same, now⟩ | ⟨before, -⟩
        · rw [turn] at now
          exact Or.inl ⟨same, by rw [← Option.some.inj now]⟩
        · exact Or.inr ⟨before, numbered.below other its before⟩
      constructor
      · intro other its listed
        rcases cases other its listed with ⟨-, number⟩ | ⟨-, less⟩ <;> omega
      · intro first second its listed its' listed' same
        rcases cases first its listed with ⟨isCaller, number⟩ | ⟨before, less⟩
        · rcases cases second its' listed' with ⟨isCaller', -⟩ | ⟨-, less'⟩
          · rw [isCaller, isCaller']
          · omega
        · rcases cases second its' listed' with ⟨-, number'⟩ | ⟨before', -⟩
          · omega
          · exact numbered.apart first second its before its' before' same
      · rw [returned, count]
        intro call listed
        rcases numbered.past call listed with ⟨less, others⟩
        refine ⟨Nat.lt_succ_of_lt less, ?_⟩
        intro other its itsListed
        rcases cases other its itsListed with ⟨-, number⟩ | ⟨before, -⟩
        · omega
        · exact others other its before
      · rw [returned]
        exact numbered.nodup
  | @finish after call here phase turn count returned =>
      have before : ∀ other, ∀ its ∈ (next.phase other).turn?,
          its ∈ (state.phase other).turn? ∧ other ≠ caller := by
        intro other its listed
        rcases turn?_update phase listed with ⟨-, now⟩ | before
        · rw [turn] at now
          cases now
        · exact before
      constructor
      · rw [count]
        exact fun other its listed => numbered.below other its (before other its listed).1
      · intro first second its listed its' listed'
        exact numbered.apart first second its (before first its listed).1 its'
          (before second its' listed').1
      · rw [returned, count]
        intro past listed
        rcases List.mem_append.1 listed with earlier | last
        · rcases numbered.past past earlier with ⟨less, others⟩
          exact ⟨less, fun other its itsListed => others other its (before other its itsListed).1⟩
        · rw [List.mem_singleton.1 last]
          refine ⟨numbered.below caller call.turn here, ?_⟩
          intro other its itsListed same
          rcases before other its itsListed with ⟨old, differs⟩
          exact differs (numbered.apart other caller its old call.turn here same)
      · rw [returned, List.map_append, List.nodup_append]
        refine ⟨numbered.nodup, List.nodup_singleton _, ?_⟩
        intro number listed number' last
        rcases List.mem_map.1 listed with ⟨past, earlier, rfl⟩
        rw [List.map_singleton, List.mem_singleton] at last
        rw [last]
        exact ((numbered.past past earlier).2 caller call.turn here).symm

end Turns

end State

/-! ## Runs -/

/-- Nothing fails, and micad is not killed. -/
def Event.isRegular {Caller : Type} : Event Caller → Bool
  | .fail _ | .kill => false
  | .call _ _ | .caller _ | .tx | .rx | .rtos _ | .boot => true

namespace State

variable {Caller : Type} [DecidableEq Caller] {device : Device} {state : State Caller}

theorem Consistent.step (consistent : state.Consistent device) {event : Event Caller}
    (regular : event.isRegular = true) : (state.step device event).Consistent device := by
  cases event with
  | call caller data =>
      simp only [State.step]
      split
      next idle =>
        exact consistent.stroll idle ⟨rfl, rfl, rfl⟩ rfl rfl rfl rfl rfl ⟨rfl, rfl, rfl, rfl, rfl⟩
          trivial consistent.returned
      next => exact consistent
  | caller caller => exact consistent.callerStep caller
  | fail caller => cases regular
  | kill => cases regular
  | tx =>
      simp only [State.step, if_pos consistent.running]
      exact consistent.txStep
  | rx =>
      simp only [State.step, if_pos consistent.running]
      exact consistent.rxStep
  | rtos reply => exact consistent.rtosStep reply
  | boot =>
      have nothing : state.bootStep = state := by simp only [bootStep, consistent.running]
      simp only [State.step, nothing]
      exact consistent

theorem Numbered.step (numbered : state.Numbered) {event : Event Caller}
    (regular : event.isRegular = true) : (state.step device event).Numbered := by
  cases event with
  | call caller data =>
      simp only [State.step]
      split
      next idle =>
        have same : (Phase.entered data).turn? = (state.phase caller).turn? := by rw [idle]; rfl
        exact numbered.counts (counts_of_same rfl same rfl rfl)
      next => exact numbered
  | caller caller => exact numbered.counts (counts_callerStep device state caller)
  | fail caller => cases regular
  | kill => cases regular
  | tx =>
      simp only [State.step]
      split
      · rcases state.txStep_frame with ⟨posts, tx, toRtos, next⟩
        rw [next]
        exact numbered.congr (fun _ => rfl) rfl rfl
      · exact numbered
  | rx =>
      simp only [State.step]
      split
      · rcases state.rxStep_frame with ⟨replies, rx, length, ready, next⟩
        rw [next]
        exact numbered.congr (fun _ => rfl) rfl rfl
      · exact numbered
  | rtos reply =>
      rcases state.rtosStep_frame reply with ⟨toRtos, rtos, fromRtos, memory, answered, -, next⟩
      simp only [State.step, next]
      exact numbered.congr (fun _ => rfl) rfl rfl
  | boot =>
      simp only [State.step, bootStep]
      split <;> exact numbered.congr (fun _ => rfl) rfl rfl

theorem consistent_after (device : Device) (memory : ℕ → UInt8) {events : List (Event Caller)}
    (regular : ∀ event ∈ events, event.isRegular = true) :
    ((initialised memory).after device events).Consistent device ∧
      ((initialised memory).after device events).Numbered := by
  induction events using List.reverseRecOn with
  | nil => exact ⟨consistent_initialised device memory, numbered_initialised memory⟩
  | append_singleton events event ih =>
      have last := regular event (List.mem_append_right _ (List.mem_singleton_self _))
      rcases ih fun event listed => regular event (List.mem_append_left _ listed) with
        ⟨consistent, numbered⟩
      rw [after_append]
      exact ⟨consistent.step last, numbered.step last⟩

omit [DecidableEq Caller] in
theorem Consistent.outstanding_le (consistent : state.Consistent device) :
    state.channel.outstanding ≤ 1 := by
  have quiet : state.channel = .quiet → state.channel.outstanding ≤ 1 := by
    intro rests
    rw [rests]
    decide
  by_cases empty : ∀ caller, (state.phase caller).isInside = false
  · exact quiet (consistent.resting empty).1
  · rw [not_forall] at empty
    rcases empty with ⟨caller, inside⟩
    rcases (consistent.serves caller).quiet (Bool.of_not_eq_false inside) with ⟨turn, waits⟩ | rests
    · have awaits := consistent.serves caller
      rw [waits] at awaits
      cases awaits with
      | ask stage channel asks =>
          rw [channel]
          cases stage <;> exact le_rfl
      | reply reply stage channel replied stored =>
          rw [channel]
          cases stage <;> exact le_rfl
    · exact quiet rests

/-- Calls that return 0 have the replies to their own data, each a reply of its own, and at most one
request is outstanding. -/
theorem own_replies (device : Device) (memory : ℕ → UInt8) (events : List (Event Caller))
    (regular : ∀ event ∈ events, event.isRegular = true) :
    let state := (initialised memory).after device events
    (∀ call ∈ state.returned, state.Own call) ∧
      (state.returned.map fun call => call.turn.number).Nodup ∧ state.channel.outstanding ≤ 1 := by
  rcases consistent_after device memory regular with ⟨consistent, numbered⟩
  exact ⟨consistent.returned, numbered.nodup, consistent.outstanding_le⟩

/-- One call with the data 7, to which the RTOS replies 8 and 9. -/
def oneCall : List (Event Bool) :=
  .rtos [] :: .call false [7] :: List.replicate 10 (.caller false) ++ List.replicate 4 .tx ++
    [.rtos [], .rtos [8, 9], .rtos []] ++ List.replicate 3 .rx ++ List.replicate 8 (.caller false)

theorem returned_oneCall :
    ((initialised fun _ => 0).after exampleDevice oneCall).returned = [⟨⟨[7], 0⟩, [8, 9], 2⟩] := by
  decide +kernel

theorem own_replies_oneCall :
    (∀ event ∈ oneCall, event.isRegular = true) ∧
      ((initialised fun _ => 0).after exampleDevice oneCall).Own ⟨⟨[7], 0⟩, [8, 9], 2⟩ := by
  have regular : ∀ event ∈ oneCall, event.isRegular = true := by decide
  refine ⟨regular, (own_replies exampleDevice (fun _ => 0) oneCall regular).1 _ ?_⟩
  rw [returned_oneCall]
  exact List.mem_singleton_self _

end State

end Mica.UserMsg
