import Mica.Lib.Run
import Mica.Rpc.Server
import Mica.Rpc.Workers

/-!
# The RPC server with workers

`rpmsg_rpc_server_cb` in the build with `MULTI_WORKERS`: the callback copies the
message, builds a request and hands it to the workers. It returns `RPMSG_SUCCESS`
for every message whose id is in the table. Whether the request was built and
whether the queue had room is not looked at: `enqueue_req` ignores `NULL` and the
result of `enqueue`.

Requests are numbered in the order of their messages. What a handler does is left
out here; a request is executed when its handler has returned.
-/

namespace Mica.Rpc.MultiWorkers

open Errno

variable {workers : ℕ}

def maxQueueSize : ℕ := 256

/-- `req_t`, with the number of its message -/
structure Req where
  serial : ℕ
  data : List UInt8
  service : RpcService

/-- `RPMSG_SUCCESS`, `-EINVAL` and `RPMSG_ERR_NO_MEM` -/
inductive Return where
  | rpmsgSuccess
  | einval
  | rpmsgErrNoMem
deriving DecidableEq

/-- The status of an error frame that the callback sends. -/
inductive ErrorStatus where
  | rpcEoverlong
  | rpcEnomem
  | rpmsgRpcInvalidId
deriving DecidableEq

/-- Which calls of `malloc` succeed: that for the copy of the message and that of `build_req`. -/
structure Allocation where
  buf : Bool
  req : Bool

/-- The workers, the number of messages so far, the messages with an id in the table for which
the callback returned `RPMSG_SUCCESS`, and the messages answered with an error frame. -/
structure Server (workers : ℕ) where
  pool : WorkerPool workers Req
  received : ℕ
  accepted : List ℕ
  errorFrames : List (ℕ × ErrorStatus)

def buildReq (allocated : Bool) (serial : ℕ) (data : List UInt8) (service : RpcService) :
    Option Req :=
  if allocated then some ⟨serial, data, service⟩ else none

def enqueueReq (pool : WorkerPool workers Req) (req : Option Req) (preferred : Fin workers) :
    WorkerPool workers Req :=
  match req with
  | none => pool
  | some req => (pool.enqueue req preferred).2

/-- `rpc_server_send` with a status and no parameters -/
def Server.sendError (server : Server workers) (status : ErrorStatus) : Server workers :=
  { server with errorFrames := server.errorFrames ++ [(server.received, status)] }

/-- `rpmsg_rpc_server_cb`: the value returned and the server. -/
def rpmsgRpcServerCb (server : Server workers) (message : Message) (allocation : Allocation)
    (preferred : Fin workers) : Return × Server workers :=
  if rpcBufferSize < message.len then (.einval, server.sendError .rpcEoverlong)
  else if ¬allocation.buf then (.rpmsgErrNoMem, server.sendError .rpcEnomem)
  else
    match findService (message.id % 2 ^ 32) with
    | some service =>
        let req := buildReq allocation.req server.received message.bytes service
        (.rpmsgSuccess, { server with pool := enqueueReq server.pool req preferred })
    | none => (.rpmsgSuccess, server.sendError .rpmsgRpcInvalidId)

/-- A message with the results of the allocations and the worker that a signal prefers, or an
event of a worker. -/
inductive Event (workers : ℕ) where
  | message (message : Message) (allocation : Allocation) (preferred : Fin workers)
  | worker (event : WorkerEvent workers)

namespace Server

/-- `rpmsg_rpc_service_init` -/
def init (previous : ℕ → Option Req) (workers : ℕ) : Server workers where
  pool := WorkerPool.workersInit previous maxQueueSize workers
  received := 0
  accepted := []
  errorFrames := []

/-- The message number is added to the accepted ones if its id is in the table and the callback
returns `RPMSG_SUCCESS`. -/
def step (server : Server workers) : Event workers → Server workers
  | .message message allocation preferred =>
      let (ret, after) := rpmsgRpcServerCb server message allocation preferred
      let known := (findService (message.id % 2 ^ 32)).isSome
      { after with
        received := server.received + 1
        accepted := if ret = .rpmsgSuccess ∧ known then server.accepted ++ [server.received]
          else server.accepted }
  | .worker event => { server with pool := server.pool.workerStep event }

def after (server : Server workers) (events : List (Event workers)) : Server workers :=
  events.foldl step server

/-- How often the request of a message is queued, being executed or executed. -/
def occurrences (server : Server workers) (serial : ℕ) : ℕ :=
  server.pool.occurrences fun req => req.serial = serial

/-- The request of a message is queued, being executed or executed, exactly once, or the message
was answered with an error frame. -/
def Delivered (server : Server workers) (serial : ℕ) : Prop :=
  server.occurrences serial = 1 ∨ ∃ status, (serial, status) ∈ server.errorFrames

/-- If the message reaches the queue, then there is memory for its request and the queue is not
full. -/
def HasRoom (server : Server workers) : Event workers → Prop
  | .message message allocation _ =>
      message.len ≤ rpcBufferSize → allocation.buf →
        (findService (message.id % 2 ^ 32)).isSome →
          allocation.req ∧ server.pool.queue.contents.length ≠ maxQueueSize - 1
  | .worker _ => True

/-- Every accepted message is delivered. -/
def NothingDropped (server : Server workers) : Prop :=
  ∀ serial ∈ server.accepted, server.Delivered serial

end Server

section Step

variable {server : Server workers} {items : List Req}

namespace Server

theorem step_of_found {message : Message} {allocation : Allocation} {service : RpcService}
    (short : ¬rpcBufferSize < message.len) (copied : allocation.buf = true)
    (found : findService (message.id % 2 ^ 32) = some service) (preferred : Fin workers) :
    server.step (.message message allocation preferred) =
      { server with
        pool := enqueueReq server.pool
          (buildReq allocation.req server.received message.bytes service) preferred
        received := server.received + 1
        accepted := server.accepted ++ [server.received] } := by
  simp only [step, rpmsgRpcServerCb, short, copied, found, not_true, if_false,
    Option.isSome_some, and_self, if_true]

theorem hasRoom_of_found {message : Message} {allocation : Allocation} {service : RpcService}
    (stores : server.pool.Stores maxQueueSize items) (short : ¬rpcBufferSize < message.len)
    (copied : allocation.buf = true) (found : findService (message.id % 2 ^ 32) = some service)
    (preferred : Fin workers) :
    server.HasRoom (.message message allocation preferred) ↔
      allocation.req = true ∧ items.length ≠ maxQueueSize - 1 := by
  have length : server.pool.queue.contents.length = items.length := by
    rw [stores.represents.contents_eq, List.length_map]
  simp only [HasRoom, not_lt.1 short, copied, found, length, Option.isSome_some,
    true_implies]

/-- All that a message can do: it is answered with an error, it is queued, or it is accepted and
nothing is done with it. -/
theorem step_message_cases (stores : server.pool.Stores maxQueueSize items) (message : Message)
    (allocation : Allocation) (preferred : Fin workers) :
    (server.HasRoom (.message message allocation preferred) ∧
        ∃ status, server.step (.message message allocation preferred) =
          { server with
            received := server.received + 1
            errorFrames := server.errorFrames ++ [(server.received, status)] }) ∨
      (server.HasRoom (.message message allocation preferred) ∧
        ∃ pool later, WorkerPool.Stores pool maxQueueSize later ∧
          (∀ serial, pool.occurrences (fun req => req.serial = serial) =
            server.occurrences serial + (decide (server.received = serial)).toNat) ∧
          server.step (.message message allocation preferred) =
            { server with
              pool := pool
              received := server.received + 1
              accepted := server.accepted ++ [server.received] }) ∨
      (¬server.HasRoom (.message message allocation preferred) ∧
        server.step (.message message allocation preferred) =
          { server with
            received := server.received + 1
            accepted := server.accepted ++ [server.received] }) := by
  by_cases overlong : rpcBufferSize < message.len
  · refine Or.inl ⟨fun short => absurd short (not_le.2 overlong), .rpcEoverlong, ?_⟩
    simp only [step, rpmsgRpcServerCb, if_pos overlong, sendError, reduceCtorEq, false_and,
      if_false]
  by_cases copied : allocation.buf = true
  swap
  · refine Or.inl ⟨fun _ buffer => absurd buffer copied, .rpcEnomem, ?_⟩
    simp only [step, rpmsgRpcServerCb, if_neg overlong, if_pos copied, sendError, reduceCtorEq,
      false_and, if_false]
  cases found : findService (message.id % 2 ^ 32) with
  | none =>
      refine Or.inl ⟨?_, .rpmsgRpcInvalidId, ?_⟩
      · intro _ _ known
        rw [found] at known
        cases known
      · simp only [step, rpmsgRpcServerCb, if_neg overlong, copied, found, sendError, not_true,
          if_false, Option.isSome_none, Bool.false_eq_true, and_false]
  | some service =>
      rw [hasRoom_of_found stores overlong copied found, step_of_found overlong copied found]
      refine Or.inr ?_
      cases built : allocation.req with
      | false =>
          refine Or.inr ⟨fun room => Bool.false_ne_true room.1, ?_⟩
          simp [buildReq, enqueueReq]
      | true =>
          by_cases full : items.length = maxQueueSize - 1
          · refine Or.inr ⟨fun room => room.2 full, ?_⟩
            simp [buildReq, enqueueReq, stores.enqueue_full full]
          · have queued := stores.enqueue full ⟨server.received, message.bytes, service⟩ preferred
            refine Or.inl ⟨⟨rfl, full⟩, _, _, queued.1, fun serial => queued.2 _, ?_⟩
            simp [buildReq, enqueueReq]

/-- What holds in every run: messages to come have left no trace yet. -/
structure Consistent (server : Server workers) : Prop where
  stores : ∃ items, server.pool.Stores maxQueueSize items
  fresh : ∀ serial, server.received ≤ serial → server.occurrences serial = 0
  accepted_lt : ∀ serial ∈ server.accepted, serial < server.received
  errors_lt : ∀ frame ∈ server.errorFrames, frame.1 < server.received

/-- Every accepted message is queued, being executed or executed, exactly once. -/
def Complete (server : Server workers) : Prop :=
  ∀ serial ∈ server.accepted, server.occurrences serial = 1

theorem consistent_init (previous : ℕ → Option Req) : (init previous workers).Consistent where
  stores := ⟨[], WorkerPool.Stores.workersInit previous (by decide)⟩
  fresh serial _ := by
    have stores := @WorkerPool.Stores.workersInit Req workers maxQueueSize previous (by decide)
    rw [occurrences, init, WorkerPool.occurrences_eq stores.represents]
    simp [WorkerPool.workersInit, WorkerPhase.executes, Crew.headcount]
  accepted_lt serial listed := by simp [init] at listed
  errors_lt frame listed := by simp [init] at listed

theorem accepted_append_lt (consistent : server.Consistent) :
    ∀ serial ∈ server.accepted ++ [server.received], serial < server.received + 1 := by
  intro serial listed
  rcases List.mem_append.1 listed with old | new
  · exact Nat.lt_succ_of_lt (consistent.accepted_lt serial old)
  · rw [List.mem_singleton.1 new]
    exact Nat.lt_succ_self _

theorem Consistent.step_message (consistent : server.Consistent) (message : Message)
    (allocation : Allocation) (preferred : Fin workers) :
    (server.step (.message message allocation preferred)).Consistent := by
  rcases consistent.stores with ⟨items, stores⟩
  have later : ∀ frame ∈ server.errorFrames, frame.1 < server.received + 1 :=
    fun frame listed => Nat.lt_succ_of_lt (consistent.errors_lt frame listed)
  have stillFresh : ∀ serial, server.received + 1 ≤ serial → server.occurrences serial = 0 :=
    fun serial unused => consistent.fresh serial (Nat.le_of_succ_le unused)
  rcases step_message_cases stores message allocation preferred with
    ⟨-, status, refused⟩ | ⟨-, pool, queued, poolStores, counts, granted⟩ | ⟨-, dropped⟩
  · rw [refused]
    refine ⟨⟨items, stores⟩, stillFresh, ?_, ?_⟩
    · exact fun serial listed => Nat.lt_succ_of_lt (consistent.accepted_lt serial listed)
    · intro frame listed
      rcases List.mem_append.1 listed with old | new
      · exact later frame old
      · rw [List.mem_singleton.1 new]
        exact Nat.lt_succ_self _
  · rw [granted]
    refine ⟨⟨queued, poolStores⟩, ?_, accepted_append_lt consistent, later⟩
    intro serial unused
    have other : ¬server.received = serial := by
      rintro rfl
      exact absurd unused (Nat.not_succ_le_self _)
    have count := counts serial
    rw [stillFresh serial unused, decide_eq_false other] at count
    exact count
  · rw [dropped]
    exact ⟨⟨items, stores⟩, stillFresh, accepted_append_lt consistent, later⟩

theorem Consistent.step (consistent : server.Consistent) (event : Event workers) :
    (server.step event).Consistent := by
  cases event with
  | message message allocation preferred =>
      exact consistent.step_message message allocation preferred
  | worker event =>
      rcases consistent.stores with ⟨items, stores⟩
      rcases stores.workerStep event with ⟨later, laterStores, counts⟩
      refine ⟨⟨later, laterStores⟩, ?_, consistent.accepted_lt, consistent.errors_lt⟩
      intro serial unused
      exact (counts _).trans (consistent.fresh serial unused)

theorem Consistent.after (consistent : server.Consistent) (events : List (Event workers)) :
    (server.after events).Consistent :=
  Run.invariant_foldl consistent (fun _ event consistent => consistent.step event) events

theorem Complete.step (complete : server.Complete) (consistent : server.Consistent)
    {event : Event workers} (room : server.HasRoom event) : (server.step event).Complete := by
  rcases consistent.stores with ⟨items, stores⟩
  cases event with
  | message message allocation preferred =>
      rcases step_message_cases stores message allocation preferred with
        ⟨-, status, refused⟩ | ⟨-, pool, queued, -, counts, granted⟩ | ⟨noRoom, -⟩
      · rw [refused]
        exact complete
      · rw [granted]
        intro serial listed
        have count := counts serial
        rcases List.mem_append.1 listed with old | new
        · have other : ¬server.received = serial :=
            (Nat.ne_of_lt (consistent.accepted_lt serial old)).symm
          rw [complete serial old, decide_eq_false other] at count
          exact count
        · rw [List.mem_singleton.1 new] at count ⊢
          rw [consistent.fresh server.received le_rfl, decide_eq_true rfl] at count
          exact count
      · exact absurd room noRoom
  | worker event =>
      rcases stores.workerStep event with ⟨later, -, counts⟩
      intro serial listed
      exact (counts _).trans (complete serial listed)

theorem not_delivered_of_not_hasRoom (consistent : server.Consistent) {event : Event workers}
    (noRoom : ¬server.HasRoom event) :
    server.received ∈ (server.step event).accepted ∧
      ¬(server.step event).Delivered server.received := by
  rcases consistent.stores with ⟨items, stores⟩
  cases event with
  | message message allocation preferred =>
      rcases step_message_cases stores message allocation preferred with
        ⟨room, -⟩ | ⟨room, -⟩ | ⟨-, dropped⟩
      · exact absurd room noRoom
      · exact absurd room noRoom
      · rw [dropped]
        refine ⟨List.mem_append_right _ (List.mem_singleton_self _), ?_⟩
        rintro (once | ⟨status, answered⟩)
        · have none := consistent.fresh server.received le_rfl
          have once : server.occurrences server.received = 1 := once
          omega
        · exact absurd (consistent.errors_lt _ answered) (lt_irrefl _)
  | worker event => exact absurd trivial noRoom

end Server

end Step

section Runs

variable {start : Server workers} {events : List (Event workers)}

theorem after_append (before : List (Event workers)) (event : Event workers) :
    start.after (before ++ [event]) = (start.after before).step event :=
  Run.foldl_concat before event

theorem nothingDropped_of_hasRoom (consistent : start.Consistent) (complete : start.Complete)
    (room : Run.AllSteps Server.step start Server.HasRoom events) :
    Run.AllStates Server.step start Server.NothingDropped events := by
  have states : Run.AllStates Server.step start
      (fun server => server.Consistent ∧ server.Complete) events := by
    refine room.allStates ⟨consistent, complete⟩ ?_
    rintro server event ⟨consistent, complete⟩ room
    exact ⟨consistent.step event, complete.step consistent room⟩
  intro before isPrefix serial listed
  exact Or.inl ((states before isPrefix).2 serial listed)

theorem hasRoom_of_nothingDropped (consistent : start.Consistent)
    (delivered : Run.AllStates Server.step start Server.NothingDropped events) :
    Run.AllSteps Server.step start Server.HasRoom events := by
  intro before event isPrefix
  by_contra noRoom
  rcases Server.not_delivered_of_not_hasRoom (consistent.after before) noRoom with
    ⟨listed, gone⟩
  rw [← after_append] at listed gone
  exact gone (delivered _ isPrefix _ listed)

/-- No request is dropped silently in a run exactly if every message with an id in the table that
reaches the queue finds memory for its request and a queue that is not full. -/
theorem noSilentDrop_iff (previous : ℕ → Option Req) (events : List (Event workers)) :
    Run.AllStates Server.step (Server.init previous workers) Server.NothingDropped events ↔
      Run.AllSteps Server.step (Server.init previous workers) Server.HasRoom events := by
  have consistent := @Server.consistent_init workers previous
  have complete : (Server.init previous workers).Complete := by
    intro serial listed
    simp [Server.init] at listed
  exact ⟨hasRoom_of_nothingDropped consistent, nothingDropped_of_hasRoom consistent complete⟩

/-- A request for `open` that consists of its id. -/
def openMessage : Message where
  data index := if index = 0 then 1 else 0
  len := 8
  src := 0

theorem findService_openMessage :
    findService (openMessage.id % 2 ^ 32) = some ⟨openId, .handleOpen⟩ := by
  decide

/-- Requests that arrive while no worker gets to run. -/
def flood (count : ℕ) : List (Event 5) :=
  List.replicate count (.message openMessage ⟨true, true⟩ 0)

theorem stores_flood (previous : ℕ → Option Req) (count : ℕ) (fits : count ≤ maxQueueSize - 1) :
    ∃ items, ((Server.init previous 5).after (flood count)).pool.Stores maxQueueSize items ∧
      items.length = count := by
  induction count with
  | zero => exact ⟨[], WorkerPool.Stores.workersInit previous (by decide), rfl⟩
  | succ count ih =>
      rcases ih (Nat.le_of_succ_le fits) with ⟨items, stores, length⟩
      have room : items.length ≠ maxQueueSize - 1 := by omega
      rw [flood, List.replicate_succ', after_append, ← flood,
        Server.step_of_found (by decide) rfl findService_openMessage]
      exact ⟨_, (stores.enqueue room _ 0).1, by rw [List.length_append, length]; rfl⟩

/-- Of 256 requests that arrive before a worker runs, the last one is dropped. -/
theorem not_noSilentDrop_flood :
    ¬Run.AllStates Server.step (Server.init (fun _ => none) 5) Server.NothingDropped
      (flood maxQueueSize) := by
  intro delivered
  rcases stores_flood (fun _ => none) (maxQueueSize - 1) le_rfl with ⟨items, stores, length⟩
  have room := hasRoom_of_nothingDropped (Server.consistent_init _) delivered
    (flood (maxQueueSize - 1)) (.message openMessage ⟨true, true⟩ 0) (by
      rw [flood, flood, ← List.replicate_succ']
      exact List.prefix_refl _)
  have free := (Server.hasRoom_of_found stores (by decide) rfl findService_openMessage 0).1 room
  exact free.2 length

end Runs

end Mica.Rpc.MultiWorkers
