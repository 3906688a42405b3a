import Mica.Lifecycle.Start
import Mica.Micad.ServiceState

/-!
# What a stop does to the other clients

All clients of one micad with what their services share. `mica_stop` of a client calls
the `remove` callbacks of its services; whose user-message service, debug module and
log files these give back depends on the order in which the clients were started and
their endpoints were announced.
-/

namespace Mica.Micad

open Errno
open Lifecycle (Service Client Results)

structure System where
  clients : ℕ → Client
  /-- The number of endpoints with the name "rpmsg-umt" in `remote_ept_list`. -/
  waitingUmt : ℕ
  umt : UmtGlobals
  debug : DebugGlobals
  logs : LogGlobals

/-- The clients have been created, with or without debugging. -/
def System.created (debug : ℕ → Bool) : System where
  clients index := .created (debug index)
  waitingUmt := 0
  umt := .empty
  debug := .empty
  logs := .empty

/-- How far the services get when they are created. -/
structure ServiceResults where
  debugStart : DebugStart
  logOpened : Bool
  logFopened : Bool
  /-- for the endpoints that have been waiting -/
  umtInit : ℕ → UmtInit

namespace System

/-! ## Starting -/

def put (system : System) (index : ℕ) (client : Client) : System :=
  { system with clients := Function.update system.clients index client }

def micaRegisterService (results : Results) (index : ℕ) (service : Service) (system : System) :
    System × Int :=
  let (client, ret) := Lifecycle.micaRegisterService results service (system.clients index)
  (system.put index client, ret)

/-- `debug_start` is the `init` callback of the service. -/
def createDebugService (results : Results) (outcome : DebugStart) (index : ℕ) (system : System) :
    System × Int :=
  let (system, ret) := system.micaRegisterService results index .debug
  if ret ≠ 0 then (system, ret)
  else ({ system with debug := Micad.debugStart index system.debug outcome }, 0)

def createRpmsgTty (results : Results) (index : ℕ) (system : System) : System × Int :=
  system.micaRegisterService results index .tty

/-- The files are opened before the service is registered, and again for every client. -/
def createRpmsgRpcService (results : Results) (opened fopened : Bool) (index : ℕ)
    (system : System) : System × Int :=
  { system with logs := rpmsgRpcServiceInit opened fopened system.logs }.micaRegisterService results
    index .rpc

/-- The service is bound to the endpoints that have been waiting, whoever has announced them. -/
def createRpmsgUmtService (results : Results) (outcome : ℕ → UmtInit) (index : ℕ)
    (system : System) : System × Int :=
  let (system, ret) := system.micaRegisterService results index .umt
  if ret ≠ 0 then (system, ret)
  else
    ({ system with
        waitingUmt := 0
        umt := (List.range system.waitingUmt).foldl
          (fun umt endpoint => umtServiceInit index umt (outcome endpoint)) system.umt }, 0)

def createService (results : Results) (outcomes : ServiceResults) (index : ℕ) (service : Service) :
    System → System × Int :=
  match service with
  | .debug => createDebugService results outcomes.debugStart index
  | .tty => createRpmsgTty results index
  | .rpc => createRpmsgRpcService results outcomes.logOpened outcomes.logFopened index
  | .umt => createRpmsgUmtService results outcomes.umtInit index

/-- Create services one after another until one fails. -/
def createServices (results : Results) (outcomes : ServiceResults) (index : ℕ) :
    List Service → System → System × Int
  | [], system => (system, 0)
  | service :: rest, system =>
      let (system, ret) := system.createService results outcomes index service
      if ret ≠ 0 then (system, ret) else system.createServices results outcomes index rest

/-- The branch for "start". -/
def handleStart (results : Results) (outcomes : ServiceResults) (index : ℕ) (system : System) :
    System :=
  let (client, ret) := Lifecycle.micaStart results (system.clients index)
  let system := system.put index client
  if ret ≠ 0 then system
  else (system.createServices results outcomes index (Lifecycle.ownServices client.debug)).1

/-! ## Stopping -/

/-- The `remove` callback of a service. The one of the terminal service gives back what belongs to
the client's own terminals. -/
def remove (system : System) : Service → Option System
  | .debug => (debugStop system.debug).map fun debug => { system with debug := debug }
  | .tty => some system
  | .rpc => (rpmsgRpcServiceTerminate system.logs).map fun logs => { system with logs := logs }
  | .umt => some { system with umt := removeUmtService system.umt }

def micaUnregisterAllServices (index : ℕ) (system : System) : Option System :=
  (system.clients index).services.foldlM remove system

def micaStop (results : Results) (index : ℕ) (system : System) : Option System :=
  (system.micaUnregisterAllServices index).map fun stopped =>
    stopped.put index (Lifecycle.micaStop results (system.clients index))

end System

/-! ## Runs -/

/-- A command for a client; an announcement of an endpoint "rpmsg-umt" by the remote of a client; an
endpoint of that name that is restored; the remote of the service at a position withdraws its
endpoint; a user process opens a name of the user-message service; a request closes a file of
the RPC service. -/
inductive Happening where
  | command (index : ℕ) (event : Lifecycle.Event) (outcomes : ServiceResults)
  | announceUmt (index : ℕ) (outcome : UmtInit)
  | restoreUmt
  | withdrawUmt (position : ℕ)
  | userOpens (name : UmtName)
  | requestClosesFp
  | requestClosesLfd

namespace System

/-- `client_ctrl_handler`; nobody listens for a client that has been removed. -/
def clientCtrlHandler (system : System) (index : ℕ) (event : Lifecycle.Event)
    (outcomes : ServiceResults) : Option System :=
  let client := system.clients index
  if client.removed then some system
  else if event.command = .start then some (system.handleStart event.results outcomes index)
  else if client.Stops event then
    (system.micaUnregisterAllServices index).map fun stopped =>
      stopped.put index (client.handle event)
  else some (system.put index (client.handle event))

def step (system : System) : Happening → Option System
  | .command index event outcomes => system.clientCtrlHandler index event outcomes
  | .announceUmt index outcome =>
      -- OpenAMP delivers announcements through the device of a running client
      if (system.clients index).state ≠ .running then some system
      else if .umt ∈ (system.clients index).services then
        some { system with umt := umtServiceInit index system.umt outcome }
      else some { system with waitingUmt := system.waitingUmt + 1 }
  | .restoreUmt => some { system with waitingUmt := system.waitingUmt + 1 }
  | .withdrawUmt position =>
      if position < system.umt.umtList.length then
        some { system with umt := rpmsgUmtUnbind system.umt position }
      else some system
  | .userOpens name => some { system with umt := (system.umt.openName name).1 }
  | .requestClosesFp =>
      (system.logs.streams.giveBack system.logs.fp).map fun streams =>
        { system with logs := { system.logs with streams := streams } }
  | .requestClosesLfd =>
      (system.logs.descriptors.giveBack system.logs.lfd).map fun descriptors =>
        { system with logs := { system.logs with descriptors := descriptors } }

/-- The state after the happenings; `none` if something has been given back twice. -/
def run (system : System) (happenings : List Happening) : Option System :=
  happenings.foldlM step system

end System

/-! ## Clients register their services once -/

section Registration

variable {results : Results} {client : Client}

theorem registerServices_spec (services : List Service) (client : Client) :
    ∃ taken, taken <+: services ∧ (taken ≠ [] → client.state = .running) ∧
      (Lifecycle.registerServices results services client).1 =
        { client with services := client.services ++ taken } := by
  induction services generalizing client with
  | nil => exact ⟨[], List.prefix_refl _, nofun, by simp [Lifecycle.registerServices]⟩
  | cons service rest ih =>
      rw [Lifecycle.registerServices, Lifecycle.micaRegisterService]
      split_ifs with idle memory
      · exact ⟨[], List.nil_prefix, nofun, by simp [eperm]⟩
      · rcases ih { client with services := client.services ++ [service] } with
          ⟨taken, isPrefix, -, registered⟩
        refine ⟨service :: taken, List.cons_prefix_cons.2 ⟨rfl, isPrefix⟩,
          fun _ => not_not.1 idle, ?_⟩
        simp [registered]
      · exact ⟨[], List.nil_prefix, nofun, by simp [enomem]⟩

theorem nodup_ownServices (debug : Bool) : (Lifecycle.ownServices debug).Nodup := by
  cases debug with
  | false => decide
  | true => decide

theorem micaStart_services : (Lifecycle.micaStart results client).1.services = client.services := by
  rcases Lifecycle.loadClientImage_frame results client with ⟨_, _, _, _, loaded⟩
  rcases Lifecycle.booted_frame results client with ⟨_, _, _, booted⟩
  rcases Lifecycle.createRpmsgDevice_frame results (client.booted results) with ⟨_, created⟩
  rcases Lifecycle.createRbufDevice_frame results
    (Lifecycle.createRpmsgDevice results (client.booted results)).1 with ⟨_, _, buffered⟩
  by_cases loads : client.Loads results
  · by_cases boots : results.start.ret = 0
    · rw [Lifecycle.micaStart_of_boots loads boots]
      split
      · rw [buffered, created, booted]
      · rw [created, booted]
    · rw [Lifecycle.micaStart_of_not_boots loads boots, booted]
  · rw [Lifecycle.micaStart_of_not_loads loads, loaded]

theorem micaStop_services : (Lifecycle.micaStop results client).services = [] := by
  cases debug : client.debug with
  | false =>
      rcases Lifecycle.micaStop_of_not_debug results client debug with ⟨_, _, _, stopped⟩
      rw [stopped]
  | true =>
      rcases Lifecycle.micaStop_of_debug results client debug with ⟨_, _, _, stopped⟩
      rw [stopped]

/-- No service is registered twice, and none is left when the client is offline. -/
structure RegistersOnce (client : Client) : Prop where
  nodup : client.services.Nodup
  offline : client.state = .offline → client.services = []

theorem RegistersOnce.of_nil (none : client.services = []) : RegistersOnce client :=
  ⟨none ▸ List.nodup_nil, fun _ => none⟩

theorem RegistersOnce.handleStart (once : RegistersOnce client) :
    RegistersOnce (Lifecycle.handleStart results client).1 := by
  by_cases offline : client.state = .offline
  · have none := (@micaStart_services results client).trans (once.offline offline)
    by_cases succeeds : (Lifecycle.micaStart results client).2 = 0
    · rw [Lifecycle.handleStart_of_ret_eq_zero succeeds]
      rcases registerServices_spec _ (Lifecycle.micaStart results client).1 with
        ⟨taken, isPrefix, running, registered⟩
      rw [registered, none, List.nil_append]
      refine ⟨(nodup_ownServices _).sublist isPrefix.sublist, fun stillOffline => ?_⟩
      by_contra someTaken
      exact absurd ((running someTaken).symm.trans stillOffline) (by decide)
    · rw [Lifecycle.handleStart_of_ret_ne_zero succeeds]
      exact .of_nil none
  · rw [(Lifecycle.handleStart_of_not_offline offline).1]
    exact once

theorem RegistersOnce.handle {event : Lifecycle.Event} (once : RegistersOnce client) :
    RegistersOnce (client.handle event) := by
  by_cases removed : client.removed = true
  · rw [Lifecycle.Client.handle, if_pos removed]
    exact once
  by_cases start : event.command = .start
  · rw [Lifecycle.Client.handle, if_neg removed, start]
    exact once.handleStart
  by_cases stops : client.Stops event
  · rcases Lifecycle.handle_of_stops (Bool.eq_false_iff.2 removed) stops with ⟨_, stopped⟩
    rw [stopped]
    exact .of_nil micaStop_services
  · rcases Lifecycle.handle_of_not_stops start stops with ⟨_, kept⟩
    rw [kept]
    exact ⟨once.nodup, once.offline⟩

end Registration

namespace System

variable {results : Results} {outcomes : ServiceResults} {system after : System} {index : ℕ}

@[simp]
theorem clients_put (system : System) (index : ℕ) (client : Client) :
    (system.put index client).clients = Function.update system.clients index client := rfl

theorem createService_client (service : Service) (system : System) :
    (system.createService results outcomes index service).1.clients =
        Function.update system.clients index
          (Lifecycle.micaRegisterService results service (system.clients index)).1 ∧
      (system.createService results outcomes index service).2 =
        (Lifecycle.micaRegisterService results service (system.clients index)).2 := by
  have succeeds : ∀ (registered : System × Int) (later : System),
      later.clients = registered.1.clients →
      (if registered.2 ≠ 0 then registered else (later, 0)).1.clients = registered.1.clients ∧
        (if registered.2 ≠ 0 then registered else (later, 0)).2 = registered.2 := by
    intro registered later same
    split_ifs with failed
    · exact ⟨rfl, rfl⟩
    · exact ⟨same, (not_not.1 failed).symm⟩
  cases service with
  | debug => exact succeeds (system.micaRegisterService results index .debug) _ rfl
  | tty => exact ⟨rfl, rfl⟩
  | rpc => exact ⟨rfl, rfl⟩
  | umt => exact succeeds (system.micaRegisterService results index .umt) _ rfl

theorem createServices_client (services : List Service) (system : System) :
    (system.createServices results outcomes index services).1.clients =
      Function.update system.clients index
        (Lifecycle.registerServices results services (system.clients index)).1 := by
  induction services generalizing system with
  | nil => exact (Function.update_eq_self index system.clients).symm
  | cons service rest ih =>
      rcases @createService_client results outcomes index service system with ⟨client, ret⟩
      simp only [createServices, Lifecycle.registerServices, ret]
      split_ifs
      · exact client
      · rw [ih, client, Function.update_self, Function.update_idem]

theorem handleStart_client (system : System) :
    (system.handleStart results outcomes index).clients =
      Function.update system.clients index
        (Lifecycle.handleStart results (system.clients index)).1 := by
  simp only [handleStart, Lifecycle.handleStart]
  split_ifs
  · rfl
  · rw [createServices_client, clients_put, Function.update_self, Function.update_idem]

/-! ## What the callbacks do together -/

theorem foldlM_remove {services : List Service} (nodup : services.Nodup) (system : System) :
    services.foldlM remove system =
      (if .debug ∈ services then debugStop system.debug else some system.debug).bind fun debug =>
        (if .rpc ∈ services then rpmsgRpcServiceTerminate system.logs else some system.logs).map
          fun logs =>
            { system with
              umt := if .umt ∈ services then removeUmtService system.umt else system.umt
              debug := debug
              logs := logs } := by
  induction services generalizing system with
  | nil => rfl
  | cons service rest ih =>
      rcases List.nodup_cons.1 nodup with ⟨fresh, nodupRest⟩
      rw [List.foldlM_cons]
      cases service with
      | debug =>
          cases stopped : debugStop system.debug with
          | none => simp [remove, stopped]
          | some debug => simp [remove, stopped, ih nodupRest, fresh]
      | tty => simp [remove, ih nodupRest]
      | rpc =>
          cases terminated : rpmsgRpcServiceTerminate system.logs with
          | none => simp [remove, terminated]
          | some logs => simp [remove, terminated, ih nodupRest, fresh]
      | umt => simp [remove, ih nodupRest, fresh]

theorem clients_of_micaUnregisterAllServices (once : RegistersOnce (system.clients index))
    (stopped : system.micaUnregisterAllServices index = some after) :
    after.clients = system.clients := by
  rw [micaUnregisterAllServices, foldlM_remove once.nodup] at stopped
  rcases Option.bind_eq_some_iff.1 stopped with ⟨_, _, terminated⟩
  rcases Option.map_eq_some_iff.1 terminated with ⟨_, _, rfl⟩
  rfl

theorem clients_of_clientCtrlHandler {event : Lifecycle.Event}
    (once : RegistersOnce (system.clients index))
    (handled : system.clientCtrlHandler index event outcomes = some after) :
    after.clients = Function.update system.clients index ((system.clients index).handle event) := by
  simp only [clientCtrlHandler] at handled
  split_ifs at handled with removed start stops
  · cases handled
    rw [Lifecycle.Client.handle, if_pos removed, Function.update_eq_self]
  · cases handled
    rw [handleStart_client, Lifecycle.Client.handle, if_neg removed, start]
    rfl
  · rcases Option.map_eq_some_iff.1 handled with ⟨stopped, unregistered, rfl⟩
    rw [clients_put, clients_of_micaUnregisterAllServices once unregistered]
  · cases handled
    rfl

theorem clients_step {happening : Happening}
    (once : ∀ index, RegistersOnce (system.clients index))
    (stepped : system.step happening = some after) :
    after.clients = system.clients ∨ ∃ index event,
      after.clients = Function.update system.clients index
        ((system.clients index).handle event) := by
  cases happening with
  | command index event outcomes =>
      exact Or.inr ⟨index, event, clients_of_clientCtrlHandler (once index) stepped⟩
  | announceUmt index outcome =>
      simp only [step] at stepped
      split_ifs at stepped
      all_goals
        cases stepped
        exact Or.inl rfl
  | withdrawUmt position =>
      simp only [step] at stepped
      split_ifs at stepped
      all_goals
        cases stepped
        exact Or.inl rfl
  | restoreUmt =>
      cases stepped
      exact Or.inl rfl
  | userOpens name =>
      cases stepped
      exact Or.inl rfl
  | requestClosesFp =>
      rcases Option.map_eq_some_iff.1 stepped with ⟨_, _, rfl⟩
      exact Or.inl rfl
  | requestClosesLfd =>
      rcases Option.map_eq_some_iff.1 stepped with ⟨_, _, rfl⟩
      exact Or.inl rfl

theorem registersOnce_step {happening : Happening}
    (once : ∀ index, RegistersOnce (system.clients index))
    (stepped : system.step happening = some after) (index : ℕ) :
    RegistersOnce (after.clients index) := by
  rcases clients_step once stepped with same | ⟨changed, event, clients⟩
  · rw [same]
    exact once index
  · rw [clients]
    by_cases isChanged : index = changed
    · rw [isChanged, Function.update_self]
      exact (once changed).handle
    · rw [Function.update_of_ne isChanged]
      exact once index

theorem registersOnce_run {happenings : List Happening}
    (once : ∀ index, RegistersOnce (system.clients index))
    (reached : system.run happenings = some after) (index : ℕ) :
    RegistersOnce (after.clients index) := by
  induction happenings generalizing system with
  | nil =>
      cases reached
      exact once index
  | cons happening rest ih =>
      rcases Option.bind_eq_some_iff.1 (List.foldlM_cons.symm.trans reached) with
        ⟨between, stepped, later⟩
      exact ih (registersOnce_step once stepped) later

/-! ## One client and another -/

/-- A client keeps its services: its user-message services, its debug modules with their threads,
and the files of the RPC service if it uses them. -/
structure LeavesAlone (client : ℕ) (before after : System) : Prop where
  same : after.clients client = before.clients client
  umt : UmtKept client before.umt after.umt
  debug : DebugKept client before.debug after.debug
  logs : .rpc ∈ (before.clients client).services → LogsKept before.logs after.logs

/-- The services of the client that is stopped have nothing to give back that another client uses,
and nothing that has been given back before. -/
structure Spares (stopped client : ℕ) (system : System) : Prop where
  umt : .umt ∈ (system.clients stopped).services → UmtSpared client system.umt
  debug : .debug ∈ (system.clients stopped).services → DebugSpared client system.debug
  logs : .rpc ∈ (system.clients stopped).services → LogsOpen system.logs ∧
    (.rpc ∈ (system.clients client).services → system.logs.fp = none ∧ system.logs.lfd = none)

theorem umtKept_iff {client : ℕ} {globals : UmtGlobals} {registered : Prop} [Decidable registered] :
    UmtKept client globals (if registered then removeUmtService globals else globals) ↔
      (registered → UmtSpared client globals) := by
  split_ifs with isRegistered
  · simp [isRegistered, umtKept_removeUmtService_iff]
  · simp [isRegistered, UmtKept.refl]

theorem debugKept_iff {client : ℕ} {globals : DebugGlobals} {registered : Prop}
    [Decidable registered] :
    (∃ after ∈ if registered then debugStop globals else some globals,
      DebugKept client globals after) ↔ (registered → DebugSpared client globals) := by
  split_ifs with isRegistered
  · simp only [isRegistered, true_implies]
    exact debugKept_debugStop_iff
  · simp [isRegistered, DebugKept]

theorem logsKept_iff {globals : LogGlobals} {uses registered : Prop} [Decidable registered] :
    (∃ after ∈ if registered then rpmsgRpcServiceTerminate globals else some globals,
      uses → LogsKept globals after) ↔
      (registered → LogsOpen globals ∧ (uses → globals.fp = none ∧ globals.lfd = none)) := by
  split_ifs with isRegistered
  · simp only [isRegistered, true_implies]
    exact logsKept_terminate_iff uses
  · simp [isRegistered, LogsKept.refl]

theorem leavesAlone_iff_spares {stopped client : ℕ} (distinct : stopped ≠ client)
    (once : RegistersOnce (system.clients stopped)) :
    (∃ after ∈ system.micaStop results stopped, LeavesAlone client system after) ↔
      Spares stopped client system := by
  rw [micaStop, micaUnregisterAllServices, foldlM_remove once.nodup]
  constructor
  · rintro ⟨after, isAfter, alone⟩
    rcases Option.map_eq_some_iff.1 isAfter with ⟨_, unregistered, rfl⟩
    rcases Option.bind_eq_some_iff.1 unregistered with ⟨debug, debugStopped, terminated⟩
    rcases Option.map_eq_some_iff.1 terminated with ⟨logs, logsClosed, rfl⟩
    exact ⟨umtKept_iff.1 alone.umt, debugKept_iff.1 ⟨debug, debugStopped, alone.debug⟩,
      logsKept_iff.1 ⟨logs, logsClosed, alone.logs⟩⟩
  · rintro ⟨umt, debugSpared, logsSpared⟩
    rcases debugKept_iff.2 debugSpared with ⟨debug, debugStopped, debugKept⟩
    rcases logsKept_iff.2 logsSpared with ⟨logs, logsClosed, logsKept⟩
    refine ⟨_, Option.map_eq_some_iff.2 ⟨_, Option.bind_eq_some_iff.2 ⟨debug, debugStopped,
      Option.map_eq_some_iff.2 ⟨logs, logsClosed, rfl⟩⟩, rfl⟩, ?_⟩
    exact ⟨Function.update_of_ne distinct.symm _ _, umtKept_iff.2 umt, debugKept, logsKept⟩

theorem registersOnce_created (debug : ℕ → Bool) (index : ℕ) :
    RegistersOnce ((created debug).clients index) := .of_nil rfl

/-- In every state that is reached, a stop of one client leaves another one alone if and only if the
services of the stopped one spare the other. -/
theorem micaStop_leavesAlone_iff_spares {debug : ℕ → Bool} {happenings : List Happening}
    (reached : (created debug).run happenings = some system) {stopped client : ℕ}
    (distinct : stopped ≠ client) (results : Results) :
    (∃ after ∈ system.micaStop results stopped, LeavesAlone client system after) ↔
      Spares stopped client system :=
  leavesAlone_iff_spares distinct (registersOnce_run (registersOnce_created debug) reached stopped)

/-- The client is started, and every call succeeds except that the log files cannot be opened. -/
def startWithoutLogs (index : ℕ) : Happening :=
  .command index ⟨.start, .smooth⟩ ⟨.started, false, false, fun _ => .bound⟩

/-- Client 0 is started last: its stop takes the debug module and the user-message service, which
client 1 no longer uses. -/
theorem leavesAlone_lastStarted : ∃ system,
    (created fun _ => true).run [startWithoutLogs 1, startWithoutLogs 0] = some system ∧
      (0 : ℕ) ≠ 1 ∧ ∃ after ∈ system.micaStop .smooth 0, LeavesAlone 1 system after := by
  refine ⟨_, rfl, by decide, (@micaStop_leavesAlone_iff_spares _ (fun _ => true)
    [startWithoutLogs 1, startWithoutLogs 0] rfl 0 1 (by decide) .smooth).mpr ⟨?_, ?_, ?_⟩⟩
  · exact fun _ => ⟨fun service first => absurd first (Option.not_mem_none service),
      fun service listed => absurd listed (List.not_mem_nil (a := service))⟩
  · intro _ data isData
    obtain rfl : 1 = data := Option.some.inj isData
    decide
  · exact fun _ => ⟨⟨by decide, by decide⟩, fun _ => ⟨rfl, rfl⟩⟩

/-- The client is started, and every call succeeds. -/
def startSmoothly (index : ℕ) : Happening :=
  .command index ⟨.start, .smooth⟩ ⟨.started, true, true, fun _ => .bound⟩

/-- Client 0 is started before client 1 and its endpoint is announced after that of client 1. The
stop of client 0 removes the user-message service of client 1, frees the debug module of client 1
and closes the files that client 1 goes on using. -/
theorem not_leavesAlone_twoClients : ∃ system after,
    (created fun _ => true).run
        [startSmoothly 0, startSmoothly 1, .announceUmt 1 .bound, .announceUmt 0 .bound] =
      some system ∧
    ((system.clients 0).state = .running ∧ (system.clients 1).state = .running) ∧
    ((system.clients 0).services = Lifecycle.ownServices true ∧
      (system.clients 1).services = Lifecycle.ownServices true) ∧
    system.micaStop .smooth 0 = some after ∧
    ¬UmtKept 1 system.umt after.umt ∧ ¬DebugKept 1 system.debug after.debug ∧
      ¬LogsKept system.logs after.logs := by
  refine ⟨_, _, rfl, ⟨rfl, rfl⟩, ⟨rfl, rfl⟩, rfl, ?_, ?_, ?_⟩
  · intro kept
    exact absurd (congrArg List.length kept.services) (by decide)
  · intro kept
    exact absurd (kept 1 rfl (by decide)) (by decide)
  · intro kept
    exact absurd (kept.fp 1 rfl (by decide)).2 (by decide)

end System

end Mica.Micad
