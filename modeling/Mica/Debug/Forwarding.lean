import Mica.Endpoint.Services
import Mica.Lib.Buffer
import Mica.RingBuffer.Basic

/-!
# The forwarding loops of the debug service

gdb talks to a proxy server in micad (`services/debug/mica_gdb_server.c`), which hands
what it gets to the ring-buffer module (`services/debug/mica_debug_ring_buffer.c`)
through a message queue and the other way round. Each of the four loops has an array
`recv_buf[MAX_BUFF_LENGTH]`, lets a call fill it up to its end and puts a terminator
behind what it got.

A loop is modelled by its effects, given what the calls that it makes deliver, round by
round. They deliver at most `MAX_BUFF_LENGTH` bytes, which is also the size of a message of
the queues; nothing below needs that.
-/

namespace Mica.Debug

open Endpoint (strncmpEq)

def maxBuffLength : ℕ := 1600

/-- `CTRLC_PACKET` -/
def ctrlcPacket : CString := ⟨[0x03], by decide⟩

/-- `RUN_PACKET`, "$R0#82" -/
def runPacket : CString := ⟨[0x24, 0x52, 0x30, 0x23, 0x38, 0x32], by decide⟩

/-- What a loop does: it stores to `recv_buf`, hands on bytes, or acts on the client. -/
inductive Effect where
  | store (index : ℕ) (bytes : List UInt8)
  | forward (bytes : List UInt8)
  | sendCtrlC
  | restartClient
deriving DecidableEq

/-- The buffer gets a chunk and a terminator. -/
def receive (bytes : List UInt8) : List Effect := [.store 0 bytes, .store bytes.length [0]]

/-! ## From the message queues -/

/-- What `mq_receive` delivers, or none for an error, and what the call that hands it on returns. -/
structure MqRound where
  received : Option (List UInt8)
  ret : ℤ

/-- The loop over a message queue. -/
def mqLoop : List MqRound → List Effect
  | [] => []
  | round :: rounds =>
      match round.received with
      | none => []
      | some chunk =>
          receive chunk ++ .forward chunk ::
            if round.ret < 0 then [] else mqLoop rounds

/-- `data_to_rtos_thread`, which hands on by `ring_buffer_write`. -/
def dataToRtosThread (rounds : List MqRound) : List Effect := mqLoop rounds

/-- `recv_from_shared_mem_thread`, which hands on by `send_to_gdb`. -/
def recvFromSharedMemThread (rounds : List MqRound) : List Effect := mqLoop rounds

/-! ## From the ring -/

/-- The ring as a round finds it, and what `mq_send` returns. -/
structure RingRound where
  ring : RingBuffer
  ret : ℤ

/-- The two copies of `kfifo_copy_out`. -/
def copyOutStores (fifo : RingBuffer) (len off : UInt32) : List Effect :=
  let size := fifo.len
  let off := off % size
  let l := RingBuffer.minU32 len (size - off)
  [.store 0 (Circular.cells fifo.data off.toNat l.toNat),
    .store l.toNat (Circular.cells fifo.data 0 (len - l).toNat)]

/-- How many bytes `ring_buffer_read` returns. -/
def RingRound.nBytes (round : RingRound) : UInt32 :=
  (RingBuffer.ringBufferRead round.ring (fun _ => 0) (Int32.ofNat maxBuffLength)).2.2

/-- The bytes that `ring_buffer_read` has put into `recv_buf`. -/
def RingRound.bytes (round : RingRound) : List UInt8 :=
  Circular.cells
    (RingBuffer.ringBufferRead round.ring (fun _ => 0) (Int32.ofNat maxBuffLength)).2.1 0
      round.nBytes.toNat

def dataToServerThread : List RingRound → List Effect
  | [] => []
  | round :: rounds =>
      copyOutStores round.ring round.nBytes round.ring.outIndex ++
        if round.nBytes.toInt32 = -1 then []
        else if round.nBytes.toInt32 = 0 then dataToServerThread rounds
        else .store round.nBytes.toNat [0] :: .forward round.bytes ::
          if round.ret = -1 then [] else dataToServerThread rounds

/-! ## From gdb -/

/-- What the calls of the main loop return when so many bytes have been forwarded. -/
structure ProxyResults where
  sendCtrlC : ℕ → ℤ
  restartClient : ℕ → ℤ
  sendToSharedMem : ℕ → ℤ

/-- The actions on a chunk that has been received, and the result of the last one. -/
def actOn (results : ProxyResults) (position : ℕ) (bytes : List UInt8) : List Effect × ℤ :=
  let text := Buffer.stringAt bytes 0
  if text = ctrlcPacket then ([.sendCtrlC], results.sendCtrlC position)
  else if strncmpEq text runPacket 7 then ([.restartClient], results.restartClient position)
  else ([], 0)

/-- The main loop of `start_proxy_server`, when so many bytes have been forwarded. `recv_from_gdb`
delivers a chunk, or none for an error; gdb closes the connection by an empty one. -/
def startProxyServer (results : ProxyResults) : ℕ → List (Option (List UInt8)) → List Effect
  | _, [] => []
  | _, none :: _ => []
  | position, some chunk :: chunks =>
      receive chunk ++
        if chunk = [] then []
        else
          let (actions, ret) := actOn results position chunk
          actions ++
            if ret ≠ 0 then []
            else .forward chunk ::
              if results.sendToSharedMem position < 0 then []
              else startProxyServer results (position + chunk.length) chunks

/-! ## Bounds -/

def Effect.InBounds : Effect → Prop
  | store index bytes => ∀ k < bytes.length, index + k < maxBuffLength
  | forward _ | sendCtrlC | restartClient => True

/-- Every store stays inside `recv_buf`. -/
def WithinBuffer (effects : List Effect) : Prop := ∀ effect ∈ effects, effect.InBounds

@[simp]
theorem withinBuffer_nil : WithinBuffer [] := by
  simp [WithinBuffer]

@[simp]
theorem withinBuffer_append (front back : List Effect) :
    WithinBuffer (front ++ back) ↔ WithinBuffer front ∧ WithinBuffer back :=
  List.forall_mem_append

@[simp]
theorem withinBuffer_forward_cons (bytes : List UInt8) (effects : List Effect) :
    WithinBuffer (.forward bytes :: effects) ↔ WithinBuffer effects := by
  simp [WithinBuffer, Effect.InBounds]

@[simp]
theorem withinBuffer_terminator_cons (index : ℕ) (effects : List Effect) :
    WithinBuffer (.store index [0] :: effects) ↔ index < maxBuffLength ∧ WithinBuffer effects := by
  simp [WithinBuffer, Effect.InBounds]

@[simp]
theorem withinBuffer_receive_iff (chunk : List UInt8) :
    WithinBuffer (receive chunk) ↔ chunk.length < maxBuffLength := by
  simp only [receive, WithinBuffer, List.forall_mem_cons, Effect.InBounds]
  constructor
  · rintro ⟨_, terminator, _⟩
    exact terminator 0 (by simp)
  · intro short
    refine ⟨fun k bound => by omega, fun k bound => ?_, by simp⟩
    simp only [List.length_cons, List.length_nil] at bound
    omega

@[simp]
theorem withinBuffer_actOn (results : ProxyResults) (position : ℕ) (bytes : List UInt8) :
    WithinBuffer (actOn results position bytes).1 := by
  rw [actOn]
  split_ifs <;> simp [WithinBuffer, Effect.InBounds]

theorem withinBuffer_copyOutStores (fifo : RingBuffer) {len : UInt32} (off : UInt32)
    (fits : len.toNat ≤ maxBuffLength) : WithinBuffer (copyOutStores fifo len off) := by
  have first : (RingBuffer.minU32 len (fifo.len - off % fifo.len)).toNat ≤ len.toNat := by
    rw [RingBuffer.toNat_minU32]
    exact Nat.min_le_left _ _
  have second := RingBuffer.toNat_sub_of_le first
  intro effect member
  simp only [copyOutStores, List.mem_cons, List.not_mem_nil, or_false] at member
  rcases member with rfl | rfl
  · intro k bound
    rw [Circular.length_cells] at bound
    omega
  · intro k bound
    rw [Circular.length_cells] at bound
    omega

/-! ## What a loop receives -/

/-- How many bytes the loop over a queue gets, round by round, until it ends. -/
def mqReceived : List MqRound → List ℕ
  | [] => []
  | round :: rounds =>
      match round.received with
      | none => []
      | some chunk => chunk.length :: if round.ret < 0 then [] else mqReceived rounds

def ringReceived : List RingRound → List ℕ
  | [] => []
  | round :: rounds =>
      round.nBytes.toNat ::
        if round.nBytes.toNat ≠ 0 ∧ round.ret = -1 then [] else ringReceived rounds

def gdbReceived (results : ProxyResults) : ℕ → List (Option (List UInt8)) → List ℕ
  | _, [] => []
  | _, none :: _ => []
  | position, some chunk :: chunks =>
      chunk.length ::
        if chunk = [] ∨ (actOn results position chunk).2 ≠ 0 ∨
            results.sendToSharedMem position < 0 then []
        else gdbReceived results (position + chunk.length) chunks

theorem withinBuffer_mqLoop_iff (rounds : List MqRound) :
    WithinBuffer (mqLoop rounds) ↔ ∀ n ∈ mqReceived rounds, n < maxBuffLength := by
  induction rounds with
  | nil => simp [mqLoop, mqReceived]
  | cons round rounds ih =>
      rw [mqLoop, mqReceived]
      rcases round.received with _ | chunk
      · simp
      · by_cases failed : round.ret < 0
        · simp [failed]
        · simp [failed, ih]

theorem withinBuffer_startProxyServer_iff (results : ProxyResults) (position : ℕ)
    (chunks : List (Option (List UInt8))) :
    WithinBuffer (startProxyServer results position chunks) ↔
      ∀ n ∈ gdbReceived results position chunks, n < maxBuffLength := by
  induction chunks generalizing position with
  | nil => simp [startProxyServer, gdbReceived]
  | cons chunk chunks ih =>
      rcases chunk with _ | chunk
      · simp [startProxyServer, gdbReceived]
      · rw [startProxyServer, gdbReceived]
        by_cases closed : chunk = []
        · rw [if_pos closed, if_pos (.inl closed)]
          simp
        · by_cases succeeded : (actOn results position chunk).2 = 0
          · by_cases unsent : results.sendToSharedMem position < 0
            · simp [closed, succeeded, unsent]
            · simp [closed, succeeded, unsent, ih]
          · simp [closed, succeeded]

theorem RingRound.toNat_nBytes (round : RingRound) :
    round.nBytes.toNat = min maxBuffLength (round.ring.inIndex - round.ring.outIndex).toNat := by
  rw [nBytes, RingBuffer.ringBufferRead, RingBuffer.kfifoOut, RingBuffer.kfifoOutPeek]
  exact RingBuffer.toNat_clamp _ _

theorem RingRound.nBytes_le (round : RingRound) : round.nBytes.toNat ≤ maxBuffLength := by
  rw [toNat_nBytes]
  exact Nat.min_le_left _ _

theorem RingRound.nBytes_ne_error (round : RingRound) : round.nBytes.toInt32 ≠ -1 := by
  intro error
  have same : round.nBytes = 0xffffffff := congrArg Int32.toUInt32 error
  have bound := round.nBytes_le
  rw [same] at bound
  exact absurd bound (by decide)

theorem RingRound.nBytes_eq_zero_iff (round : RingRound) :
    round.nBytes.toInt32 = 0 ↔ round.nBytes.toNat = 0 := by
  constructor
  · intro zero
    have same : round.nBytes = 0 := congrArg Int32.toUInt32 zero
    rw [same]
    rfl
  · intro zero
    have same : round.nBytes = 0 := UInt32.toNat_inj.1 zero
    rw [same]
    rfl

theorem withinBuffer_dataToServerThread_iff (rounds : List RingRound) :
    WithinBuffer (dataToServerThread rounds) ↔ ∀ n ∈ ringReceived rounds, n < maxBuffLength := by
  induction rounds with
  | nil => simp [dataToServerThread, ringReceived]
  | cons round rounds ih =>
      rw [dataToServerThread, ringReceived, withinBuffer_append, if_neg round.nBytes_ne_error,
        and_iff_right (withinBuffer_copyOutStores _ _ round.nBytes_le)]
      by_cases none : round.nBytes.toNat = 0
      · have room : 0 < maxBuffLength := by decide
        simp [round.nBytes_eq_zero_iff, none, room, ih]
      · by_cases unsent : round.ret = -1
        · simp [round.nBytes_eq_zero_iff, none, unsent]
        · simp [round.nBytes_eq_zero_iff, none, unsent, ih]

/-! ## The stores into the buffer are the ones of `ring_buffer_read` -/

/-- A memory after an effect. -/
def Effect.applyTo (memory : Memory) : Effect → Memory
  | store index bytes => Circular.memcpy memory index (fun k => bytes.getD k 0) 0 bytes.length
  | forward _ | sendCtrlC | restartClient => memory

theorem applyTo_store_cells (memory source : Memory) (index start count : ℕ) :
    (Effect.store index (Circular.cells source start count)).applyTo memory =
      Circular.memcpy memory index source start count := by
  funext k
  simp only [Effect.applyTo, Circular.memcpy, Circular.length_cells, Nat.zero_add]
  split_ifs with inside
  · have bound : k - index < (Circular.cells source start count).length := by
      rw [Circular.length_cells]
      omega
    rw [List.getD_eq_getElem?_getD, List.getElem?_eq_getElem bound, Circular.getElem_cells]
    rfl
  · rfl

theorem copyOutStores_eq_ringBufferRead (round : RingRound) (buf : Memory) :
    (copyOutStores round.ring round.nBytes round.ring.outIndex).foldl Effect.applyTo buf =
      (RingBuffer.ringBufferRead round.ring buf (Int32.ofNat maxBuffLength)).2.1 := by
  simp only [copyOutStores, List.foldl_cons, List.foldl_nil, applyTo_store_cells]
  rfl

/-! ## The four loops -/

/-- A run of one of the loops. -/
inductive Forwarder where
  | dataToRtos (rounds : List MqRound)
  | dataToServer (rounds : List RingRound)
  | recvFromSharedMem (rounds : List MqRound)
  | recvFromGdb (results : ProxyResults) (chunks : List (Option (List UInt8)))

def Forwarder.effects : Forwarder → List Effect
  | dataToRtos rounds => dataToRtosThread rounds
  | dataToServer rounds => dataToServerThread rounds
  | recvFromSharedMem rounds => recvFromSharedMemThread rounds
  | recvFromGdb results chunks => startProxyServer results 0 chunks

/-- How many bytes the loop gets, round by round. -/
def Forwarder.received : Forwarder → List ℕ
  | dataToRtos rounds => mqReceived rounds
  | dataToServer rounds => ringReceived rounds
  | recvFromSharedMem rounds => mqReceived rounds
  | recvFromGdb results chunks => gdbReceived results 0 chunks

/-- A loop stays inside its buffer exactly if each chunk that it receives leaves a byte free. -/
theorem withinBuffer_iff_chunks_short (forwarder : Forwarder) :
    WithinBuffer forwarder.effects ↔ ∀ n ∈ forwarder.received, n < maxBuffLength := by
  cases forwarder with
  | dataToRtos rounds => exact withinBuffer_mqLoop_iff rounds
  | dataToServer rounds => exact withinBuffer_dataToServerThread_iff rounds
  | recvFromSharedMem rounds => exact withinBuffer_mqLoop_iff rounds
  | recvFromGdb results chunks => exact withinBuffer_startProxyServer_iff results 0 chunks

/-- A chunk that fills the buffer. -/
def fullChunk : List UInt8 := List.replicate maxBuffLength 0x2b

/-- A ring of 2048 bytes with 1600 of them used. -/
def fullRing : RingBuffer where
  inIndex := 1600
  outIndex := 0
  len := 2048
  data := fun _ => 0x2b

/-- The terminator of a chunk that fills the buffer is stored behind it, in each of the loops. -/
theorem not_withinBuffer_fullChunk :
    (fullRing.inIndex - fullRing.outIndex ≤ fullRing.len) ∧
      ¬WithinBuffer (Forwarder.dataToRtos [⟨some fullChunk, 0⟩]).effects ∧
      ¬WithinBuffer (Forwarder.dataToServer [⟨fullRing, 0⟩]).effects ∧
      ¬WithinBuffer (Forwarder.recvFromSharedMem [⟨some fullChunk, 0⟩]).effects ∧
      ∀ results, ¬WithinBuffer (Forwarder.recvFromGdb results [some fullChunk]).effects := by
  have full : fullChunk.length = maxBuffLength := List.length_replicate
  have mq : ¬WithinBuffer (mqLoop [⟨some fullChunk, 0⟩]) := by
    rw [withinBuffer_mqLoop_iff]
    intro short
    exact (short maxBuffLength (by simp [mqReceived, full])).false
  refine ⟨by decide, mq, ?_, mq, ?_⟩
  · intro within
    have short := (withinBuffer_dataToServerThread_iff _).1 within
    exact absurd (short maxBuffLength (by decide)) (by decide)
  · intro results within
    have short := (withinBuffer_startProxyServer_iff results 0 _).1 within
    exact (short maxBuffLength (by simp [gdbReceived, full])).false

end Mica.Debug
