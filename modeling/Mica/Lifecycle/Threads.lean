import Mathlib.Logic.Function.Basic
import Mica.Lifecycle.Start

/-!
# The threads around a client

The listener of micad handles the commands for a client. For a client with debugging
it also starts a gdb server (`services/debug/mica_debug.c`), a thread that outlives a
stop and handles the packets of gdb (`services/debug/mica_gdb_server.c`): on Ctrl-C it
writes to the resource table, on the run packet it stops and starts the client.

A thread is the list of the calls that it still has to make; between two calls other
threads run. The calls themselves are those of `Mica.Lifecycle.Basic`. Reading
`rproc->rsc_table` and using the pointer are two calls. Every access to the resource
table made by `show_client_status`, `send_ctrl_c`, `restart_client`, `setup_vdev` and
`setup_rbuf_dev` is recorded together with what is mapped at that moment; nothing
reads this record.
-/

namespace Mica.Lifecycle

open Errno

/-! ## Accesses to the resource table -/

/-- The functions that access the resource table. -/
inductive Site where
  | showClientStatus
  | sendCtrlC
  | restartClient
  | setupVdev
  | setupRbufDev
deriving DecidableEq

/-- An access through `pointer`, with `rproc->rsc_table` at that moment and whether the pointer
leads to a mapping that exists. -/
structure Access where
  site : Site
  pointer : Option ℕ
  rscTable : Option ℕ
  mapped : Bool
deriving DecidableEq

/-- There is a resource table, and the pointer that is used has not been unmapped. -/
def Access.Inside (access : Access) : Prop := access.rscTable ≠ none ∧ access.mapped = true

instance (access : Access) : Decidable access.Inside := inferInstanceAs (Decidable (_ ∧ _))

def Client.access (client : Client) (site : Site) (pointer : Option ℕ) : Access where
  site := site
  pointer := pointer
  rscTable := client.rscTable
  mapped := pointer.any fun va => va ∈ client.mems

/-! ## Calls -/

/-- The answers to the calls of a thread. -/
structure Answers extends Results where
  /-- `alloc_message_queue` succeeds. -/
  mqOpen : Bool
  startRingBufferModule : Int
  pthreadCreate : Int
  /-- `rbuf_rsc->state` is `RBUF_STATE_CPU_STOP`. -/
  cpuStop : Bool
  mqSend : Int

/-- Every call succeeds. -/
def Answers.smooth : Answers where
  toResults := .smooth
  mqOpen := true
  startRingBufferModule := 0
  pthreadCreate := 0
  cpuStop := true
  mqSend := 0

/-- What a thread does between two points at which other threads may run. -/
inductive Call where
  | loadClientImage
  | startClient
  /-- `rsc_table = rproc->rsc_table` -/
  | readRscTable
  | createRpmsgDevice
  | createRbufDevice
  /-- `if (ret)` after `mica_start` -/
  | checkRet
  | registerService (service : Service)
  | remoteprocStop
  | unregisterAllServices
  | releaseRpmsgDevice
  | destroyRbufDevice
  | stopClient
  /-- the test for `RPROC_RUNNING` in `show_client_status` -/
  | checkRunning
  /-- the test of `rsc_table->reserved[0]` in `show_client_status` -/
  | checkReserved
  | epollDel
  /-- the test for `RPROC_OFFLINE` in `mica_remove` -/
  | checkOffline
  | cancelGdbServer
  | joinGdbServer
  | freeListener
  /-- `find_rsc` in `send_ctrl_c` or `restart_client` -/
  | findRsc (site : Site)
  /-- `rbuf_rsc->state = RBUF_STATE_CTRL_C` -/
  | writeCtrlC
  /-- one round of the loop that waits for `RBUF_STATE_CPU_STOP` -/
  | waitCpuStop
  | sendToSharedMem
deriving DecidableEq

def micaStartCalls (debug : Bool) : List Call :=
  [.loadClientImage, .startClient, .readRscTable, .createRpmsgDevice] ++
    (if debug then [.readRscTable, .createRbufDevice] else []) ++ [.checkRet]

def micaStopCalls (debug : Bool) : List Call :=
  [.remoteprocStop, .unregisterAllServices, .releaseRpmsgDevice] ++
    (if debug then [.destroyRbufDevice] else []) ++ [.stopClient]

/-- `client_ctrl_handler` -/
def commandCalls (debug : Bool) : Command → List Call
  | .start => micaStartCalls debug ++ (ownServices debug).map .registerService
  | .stop => micaStopCalls debug
  | .rm => [.epollDel, .checkOffline, .cancelGdbServer, .joinGdbServer, .freeListener]
  | .status => [.checkRunning]
  | .gdb | .other => []

/-- What gdb sends. -/
inductive Packet where
  | ctrlC
  | run
  | other
deriving DecidableEq

/-- `send_ctrl_c` -/
def sendCtrlCCalls : List Call := [.readRscTable, .findRsc .sendCtrlC, .writeCtrlC]

/-- `restart_client`, which does not register the service of user messages again -/
def restartClientCalls (debug : Bool) : List Call :=
  [.readRscTable, .findRsc .restartClient] ++ micaStopCalls debug ++ [.waitCpuStop] ++
    micaStartCalls debug ++ [.debug, .tty, .rpc].map .registerService

/-- A round of the loop of `start_proxy_server`. -/
def packetCalls (debug : Bool) : Packet → List Call
  | .ctrlC => sendCtrlCCalls ++ [.sendToSharedMem]
  | .run => restartClientCalls debug ++ [.sendToSharedMem]
  | .other => [.sendToSharedMem]

/-- The calls that a thread has to make, its variable `rsc_table` and its variable `ret`. -/
structure Thread where
  todo : List Call
  rscTable : Option ℕ
  ret : Int

namespace Thread

def idle : Thread := ⟨[], none, 0⟩

/-- Store a value in `ret`; if it is an error, give up. -/
def check (thread : Thread) (ret : Int) : Thread :=
  if ret ≠ 0 then { thread with todo := [], ret := ret } else { thread with ret := ret }

/-- Make these calls next. -/
def first (thread : Thread) (calls : List Call) : Thread :=
  { thread with todo := calls ++ thread.todo }

/-- The thread has given up. -/
def gaveUp (thread : Thread) : Bool := thread.todo.isEmpty && thread.ret != 0

end Thread

/-- The client and the thread after a call, and the accesses made by it. -/
structure Outcome where
  client : Client
  thread : Thread
  accesses : List Access

/-- Make a call; it is no longer in `thread.todo`. -/
def Call.exec (answers : Answers) (client : Client) (thread : Thread) : Call → Outcome
  | .loadClientImage =>
      let (client, ret) := Lifecycle.loadClientImage answers.toResults client
      ⟨client, thread.check ret, []⟩
  | .startClient =>
      let (client, ret) := Lifecycle.startClient answers.toResults client
      ⟨client, thread.check ret, []⟩
  | .readRscTable => ⟨client, { thread with rscTable := client.rscTable }, []⟩
  | .createRpmsgDevice =>
      let accesses := [client.access .setupVdev thread.rscTable]
      let (client, ret) := Lifecycle.createRpmsgDevice answers.toResults client
      ⟨client, { thread with ret := ret }, if answers.rpmsgMemory then accesses else []⟩
  | .createRbufDevice =>
      let accesses := [client.access .setupRbufDev thread.rscTable]
      let (client, ret) := Lifecycle.createRbufDevice answers.toResults client
      ⟨client, { thread with ret := ret }, if answers.rbufMemory then accesses else []⟩
  | .checkRet => ⟨client, thread.check thread.ret, []⟩
  | .registerService service =>
      let (client, ret) := micaRegisterService answers.toResults service client
      ⟨client, thread.check ret, []⟩
  | .remoteprocStop => ⟨Lifecycle.remoteprocStop client, thread, []⟩
  | .unregisterAllServices => ⟨micaUnregisterAllServices client, thread, []⟩
  | .releaseRpmsgDevice => ⟨Lifecycle.releaseRpmsgDevice client, thread, []⟩
  | .destroyRbufDevice => ⟨Lifecycle.destroyRbufDevice client, thread, []⟩
  | .stopClient => ⟨Lifecycle.stopClient answers.toResults client, thread, []⟩
  | .checkRunning =>
      ⟨client,
        if client.state = .running then thread.first [.readRscTable, .checkReserved]
        else thread, []⟩
  | .checkReserved =>
      ⟨client,
        if answers.reserved = cpuOffFuncid then thread.first (micaStopCalls client.debug)
        else thread,
        [client.access .showClientStatus thread.rscTable]⟩
  | .epollDel => ⟨client, thread.check (if answers.epollDel < 0 then answers.epollDel else 0), []⟩
  | .checkOffline =>
      ⟨client,
        if client.state ≠ .offline then thread.first (micaStopCalls client.debug) else thread, []⟩
  | .cancelGdbServer | .joinGdbServer => ⟨client, thread, []⟩
  | .freeListener => ⟨{ client with removed := true }, thread, []⟩
  | .findRsc site =>
      ⟨client, thread.check (if answers.rbufEntry then 0 else -enodev),
        [client.access site thread.rscTable]⟩
  | .writeCtrlC => ⟨client, thread, [client.access .sendCtrlC thread.rscTable]⟩
  | .waitCpuStop =>
      ⟨client, if answers.cpuStop then thread else thread.first [.waitCpuStop],
        [client.access .restartClient thread.rscTable]⟩
  | .sendToSharedMem =>
      ⟨client, thread.check (if answers.mqSend < 0 then answers.mqSend else 0), []⟩

/-! ## Commands that are not interrupted -/

/-- The thread makes all its calls without being interrupted. -/
inductive Thread.Finishes (answers : Answers) : Client → Thread → Client → Prop where
  | done {client : Client} {thread : Thread} (todo : thread.todo = []) :
      Thread.Finishes answers client thread client
  | call {client later : Client} {thread : Thread} {call : Call} {rest : List Call}
      (todo : thread.todo = call :: rest)
      (finishes : Thread.Finishes answers
        (call.exec answers client { thread with todo := rest }).client
        (call.exec answers client { thread with todo := rest }).thread later) :
      Thread.Finishes answers client thread later

namespace Thread

variable {answers : Answers} {client later : Client} {pointer : Option ℕ} {ret : Int}
  {rest : List Call}

theorem Finishes.micaStop
    (finishes : Finishes answers (micaStop answers.toResults client) ⟨rest, pointer, ret⟩ later) :
    Finishes answers client ⟨micaStopCalls client.debug ++ rest, pointer, ret⟩ later := by
  have debug : (releaseRpmsgDevice (micaUnregisterAllServices (remoteprocStop client))).debug =
      client.debug := by
    rcases remoteprocStop_frame client with ⟨_, stopped⟩
    rw [stopped]
    rfl
  rw [Lifecycle.micaStop] at finishes
  simp only [debug] at finishes
  cases plain : client.debug with
  | false =>
      rw [plain] at finishes
      exact .call rfl (.call rfl (.call rfl (.call rfl finishes)))
  | true =>
      rw [plain] at finishes
      exact .call rfl (.call rfl (.call rfl (.call rfl (.call rfl finishes))))

theorem check_of_ne_zero (thread : Thread) (fails : ret ≠ 0) :
    thread.check ret = { thread with todo := [], ret := ret } := if_pos fails

theorem check_of_eq_zero (thread : Thread) (succeeds : ret = 0) :
    thread.check ret = { thread with ret := ret } := if_neg (not_not.2 succeeds)

theorem finishes_registerServices (services : List Service) :
    Finishes answers client ⟨services.map .registerService, pointer, ret⟩
      (registerServices answers.toResults services client).1 := by
  induction services generalizing client ret with
  | nil => exact .done rfl
  | cons service others ih =>
      apply Finishes.call rfl
      simp only [Call.exec, registerServices]
      split_ifs with failed
      · rw [check_of_ne_zero _ failed]
        exact .done rfl
      · rw [check_of_eq_zero _ (not_not.1 failed)]
        exact ih

theorem finishes_checkRet (debug : Bool) :
    Finishes answers client
      ⟨.checkRet :: (ownServices debug).map .registerService, pointer, ret⟩
      (if ret ≠ 0 then client
        else (registerServices answers.toResults (ownServices debug) client).1) := by
  apply Finishes.call rfl
  simp only [Call.exec]
  split
  · next failed =>
      rw [check_of_ne_zero _ failed]
      exact .done rfl
  · next succeeded =>
      rw [check_of_eq_zero _ (not_not.1 succeeded)]
      exact finishes_registerServices _

theorem finishes_start :
    Finishes answers client ⟨commandCalls client.debug .start, none, 0⟩
      (handleStart answers.toResults client).1 := by
  apply Finishes.call rfl
  by_cases loads : client.Loads answers.toResults
  · simp only [Call.exec]
    rw [check_of_eq_zero _ loads]
    apply Finishes.call rfl
    simp only [Call.exec, startClient]
    by_cases boots : answers.start.ret = 0
    · rw [check_of_eq_zero _ boots, handleStart_of_boots loads boots,
        micaStart_of_boots loads boots]
      cases client.debug with
      | false => exact .call rfl (.call rfl (finishes_checkRet false))
      | true =>
          exact .call rfl (.call rfl (.call rfl (.call rfl (finishes_checkRet true))))
    · rw [check_of_ne_zero _ boots, handleStart_of_not_boots loads boots]
      exact .done rfl
  · simp only [Call.exec]
    rw [check_of_ne_zero _ loads, handleStart_of_not_loads loads]
    exact .done rfl

/-- The calls of a command, made without interruption, are `client_ctrl_handler`. -/
theorem finishes_command (answers : Answers) (client : Client) (command : Command) :
    Finishes answers client ⟨commandCalls client.debug command, none, 0⟩
      (clientCtrlHandler answers.toResults client command).1 := by
  cases command with
  | start => exact finishes_start
  | stop =>
      rw [commandCalls, ← List.append_nil (micaStopCalls client.debug)]
      exact Finishes.micaStop (.done rfl)
  | rm =>
      apply Finishes.call rfl
      simp only [Call.exec, clientCtrlHandler, micaRemove]
      by_cases refused : answers.epollDel < 0
      · rw [if_pos refused, if_pos refused, check_of_ne_zero _ (Int.ne_of_lt refused)]
        exact .done rfl
      · rw [if_neg refused, if_neg refused, check_of_eq_zero _ rfl]
        apply Finishes.call rfl
        simp only [Call.exec]
        split
        · exact Finishes.micaStop (.call rfl (.call rfl (.call rfl (.done rfl))))
        · exact .call rfl (.call rfl (.call rfl (.done rfl)))
  | status =>
      apply Finishes.call rfl
      simp only [Call.exec, clientCtrlHandler, showClientStatus]
      by_cases running : client.state = .running
      · rw [if_pos running]
        apply Finishes.call rfl
        apply Finishes.call rfl
        simp only [Call.exec, running, true_and]
        split
        · exact Finishes.micaStop (.done rfl)
        · exact .done rfl
      · rw [if_neg running, if_neg fun off => running off.1]
        exact .done rfl
  | gdb => exact .done rfl
  | other => exact .done rfl

end Thread

/-! ## Threads -/

/-- Where a gdb server thread is. -/
inductive ServerPhase where
  /-- not created yet -/
  | absent
  /-- before `gdb_server_running = true` -/
  | created
  /-- in `start_proxy_server`, before a gdb has connected -/
  | waiting
  /-- in the loop of `start_proxy_server` -/
  | connected
  | ended
deriving DecidableEq

/-- A thread that executes `server_loop_thread`. -/
structure Server where
  phase : ServerPhase
  thread : Thread
  /-- `pthread_cancel` has been called for it. -/
  cancelled : Bool

structure System where
  client : Client
  listener : Thread
  /-- The gdb server threads, numbered as they are created. -/
  servers : ℕ → Server
  serverCount : ℕ
  gdbServerRunning : Bool
  /-- `client->gdb_server_thread` -/
  gdbServerThread : Option ℕ
  accesses : List Access

/-- A client that has just been created. -/
def System.created (debug : Bool) : System where
  client := .created debug
  listener := .idle
  servers _ := ⟨.absent, .idle, false⟩
  serverCount := 0
  gdbServerRunning := false
  gdbServerThread := none
  accesses := []

inductive ThreadEvent where
  /-- The listener receives a command. -/
  | command (command : Command)
  /-- The listener makes its next call. -/
  | listener (answers : Answers)
  /-- A gdb server starts to run. -/
  | enter (server : ℕ)
  /-- A gdb connects, or a call in front of the loop fails. -/
  | connect (server : ℕ) (succeeds : Bool)
  /-- A gdb server receives a packet. -/
  | packet (server : ℕ) (packet : Packet)
  /-- gdb closes the connection, or receiving fails. -/
  | close (server : ℕ)
  /-- A gdb server makes its next call. -/
  | server (server : ℕ) (answers : Answers)
  /-- A gdb server that has been cancelled ends. -/
  | cancel (server : ℕ)

namespace System

variable (system : System)

def setServer (number : ℕ) (server : Server) : System :=
  { system with servers := Function.update system.servers number server }

@[simp]
theorem servers_setServer_self (number : ℕ) (server : Server) :
    (system.setServer number server).servers number = server :=
  Function.update_self ..

@[simp]
theorem servers_setServer_of_ne {number other : ℕ} (server : Server) (differ : other ≠ number) :
    (system.setServer number server).servers other = system.servers other :=
  Function.update_of_ne differ ..

/-- `debug_start`, of which `mica_register_service` ignores the result. -/
def debugStart (answers : Answers) : System :=
  if answers.mqOpen = false ∨ answers.startRingBufferModule < 0 ∨ system.gdbServerRunning ∨
      answers.pthreadCreate ≠ 0 then system
  else
    { system.setServer system.serverCount ⟨.created, .idle, false⟩ with
      serverCount := system.serverCount + 1
      gdbServerThread := some system.serverCount }

/-- What a call does to the gdb servers. -/
def affect (answers : Answers) : Call → System
  | .registerService .debug =>
      if system.client.state = .running ∧ answers.serviceMemory .debug then
        system.debugStart answers
      else system
  | .cancelGdbServer =>
      match system.gdbServerThread with
      | none => system
      | some number => system.setServer number { system.servers number with cancelled := true }
  | _ => system

/-- `pthread_join` waits for a thread that has not ended. -/
def waits (call : Call) : Bool :=
  call = .joinGdbServer ∧
    system.gdbServerThread.any fun number => (system.servers number).phase ≠ .ended

def listenerStep (answers : Answers) : System :=
  match system.listener.todo with
  | [] => system
  | call :: rest =>
      if system.waits call then system
      else
        let outcome := call.exec answers system.client { system.listener with todo := rest }
        { system.affect answers call with
          client := outcome.client
          listener := outcome.thread
          accesses := system.accesses ++ outcome.accesses }

/-- The gdb server returns from `start_proxy_server`. -/
def endServer (number : ℕ) : System :=
  { system.setServer number { system.servers number with phase := .ended } with
    gdbServerRunning := false }

def serverStep (number : ℕ) (answers : Answers) : System :=
  if (system.servers number).phase ≠ .connected then system
  else
    match (system.servers number).thread.todo with
    | [] => system
    | call :: rest =>
        let outcome :=
          call.exec answers system.client { (system.servers number).thread with todo := rest }
        let system := system.affect answers call
        let next :=
          { system.setServer number { system.servers number with thread := outcome.thread } with
            client := outcome.client
            accesses := system.accesses ++ outcome.accesses }
        if outcome.thread.gaveUp then next.endServer number else next

def step : ThreadEvent → System
  | .command command =>
      if system.listener.todo = [] ∧ system.client.removed = false then
        { system with listener := ⟨commandCalls system.client.debug command, none, 0⟩ }
      else system
  | .listener answers => system.listenerStep answers
  | .enter number =>
      if (system.servers number).phase = .created then
        { system.setServer number { system.servers number with phase := .waiting } with
          gdbServerRunning := true }
      else system
  | .connect number succeeds =>
      if (system.servers number).phase = .waiting then
        if succeeds then
          system.setServer number
            { system.servers number with phase := .connected, thread := .idle }
        else system.endServer number
      else system
  | .packet number packet =>
      if (system.servers number).phase = .connected ∧ (system.servers number).thread.todo = [] then
        system.setServer number
          { system.servers number with
            thread := ⟨packetCalls system.client.debug packet, none, 0⟩ }
      else system
  | .close number =>
      if (system.servers number).phase = .connected ∧ (system.servers number).thread.todo = [] then
        system.endServer number
      else system
  | .server number answers => system.serverStep number answers
  | .cancel number =>
      -- a thread that is cancelled does not get to `gdb_server_running = false`
      if (system.servers number).cancelled then
        system.setServer number { system.servers number with phase := .ended }
      else system

end System

end Mica.Lifecycle
