import Mica.Endpoint.Basic
import Mica.Lib.Allocations

/-!
# The life of a client

`mica/mica.c`, `client_ctrl_handler` of `micad/socket_listener.c` and the functions
they call to start, stop, query and remove a client: `remoteproc/remoteproc_core.c`,
`rproc_shutdown` of `remoteproc/baremetal_rproc.c`, `create_rpmsg_device` and
`release_rpmsg_device` of `rpmsg_device/rpmsg_vdev.c` and `rbuf_device/rbuf_dev.c`.

Memory, sockets, the remote and OpenAMP belong to the outside: `Results` has the
answer to every call made there. Of OpenAMP the following is used.

* `remoteproc_config` refuses a remoteproc that is not offline.
* `remoteproc_config` and `remoteproc_load` do not take a remoteproc to running, and
  `remoteproc_start` does so whenever it succeeds.
* `remoteproc_stop` takes every remoteproc that is not offline to stopped.
* `remoteproc_shutdown` calls `rproc_shutdown` unless the remoteproc is offline, and
  takes it to offline if that succeeds.

What happens to the endpoints of a service is the subject of `Mica.Endpoint`, what
`setup_vdev` does to the shared memory that of `Mica.Memory`.
-/

namespace Mica.Lifecycle

open Errno
open Endpoint (RprocState)

def cpuOffFuncid : UInt32 := 0x84000002

/-- The services that micad registers. -/
inductive Service where
  | debug
  | tty
  | rpc
  | umt
deriving DecidableEq

/-- `struct mica_client` with its `struct remoteproc`. The mappings in `rproc->mems` that hold a
resource table are named by numbers, and so are the devices made by `create_rbuf_device`. -/
structure Client where
  debug : Bool
  state : RprocState
  rscTable : Option ℕ
  mems : List ℕ
  /-- The number of the next mapping. -/
  nextVa : ℕ
  /-- `client->rdev` is not NULL. -/
  rdev : Bool
  rbufDev : Option ℕ
  rbufDevices : Allocations
  services : List Service
  /-- The client has been removed and its memory has been freed. -/
  removed : Bool
deriving DecidableEq

/-- A client after `create_mica_client`. -/
def Client.created (debug : Bool) : Client where
  debug := debug
  state := .offline
  rscTable := none
  mems := []
  nextVa := 0
  rdev := false
  rbufDev := none
  rbufDevices := .none
  services := []
  removed := false

/-! ## The outside -/

/-- What `remoteproc_config` or `remoteproc_load` returns and leaves behind; `table` tells whether
it maps a resource table and stores it in `rproc->rsc_table`. -/
structure Prepared where
  ret : Int
  state : RprocState
  table : Bool
  notRunning : state ≠ .running

/-- What `remoteproc_start` returns and leaves behind. -/
structure Booted where
  ret : Int
  state : RprocState
  running : ret = 0 → state = .running

/-- The answers to the calls made for a command. -/
structure Results where
  storeOpen : Int
  config : Prepared
  load : Prepared
  start : Booted
  /-- `metal_allocate_memory` of `create_rpmsg_device` returns memory. -/
  rpmsgMemory : Bool
  setupVdev : Int
  /-- `remoteproc_create_virtio` returns a device. -/
  virtio : Bool
  rpmsgInitVdev : Int
  /-- `metal_allocate_memory` of `create_rbuf_device` returns memory. -/
  rbufMemory : Bool
  /-- `find_rsc` finds the entry of the ring buffer in the resource table. -/
  rbufEntry : Bool
  /-- `alloc_shmem_region` of `setup_rbuf_dev` returns memory. -/
  rbufShmem : Bool
  /-- `malloc` of `mica_register_service` returns memory. -/
  serviceMemory : Service → Bool
  shutdown : Int
  /-- `rsc_table->reserved[0]` -/
  reserved : UInt32
  epollDel : Int

/-- Every call succeeds. -/
def Results.smooth : Results where
  storeOpen := 4096
  config := ⟨0, .ready, false, by decide⟩
  load := ⟨0, .ready, true, by decide⟩
  start := ⟨0, .running, fun _ => rfl⟩
  rpmsgMemory := true
  setupVdev := 0
  virtio := true
  rpmsgInitVdev := 0
  rbufMemory := true
  rbufEntry := true
  rbufShmem := true
  serviceMemory _ := true
  shutdown := 0
  reserved := 0
  epollDel := 0

/-! ## The functions of a start -/

def Client.prepare (client : Client) (prepared : Prepared) : Client :=
  if prepared.table then
    { client with
      state := prepared.state
      rscTable := some client.nextVa
      mems := client.nextVa :: client.mems
      nextVa := client.nextVa + 1 }
  else { client with state := prepared.state }

def remoteprocConfig (results : Results) (client : Client) : Client × Int :=
  if client.state ≠ .offline then (client, -einval)
  else (client.prepare results.config, results.config.ret)

def loadClientImage (results : Results) (client : Client) : Client × Int :=
  if results.storeOpen ≤ 0 then (client, -einval)
  else
    let (client, ret) := remoteprocConfig results client
    if ret ≠ 0 then (client, -einval)
    else if client.rscTable.isSome ∧ client.state = .ready then (client, ret)
    else
      let client := client.prepare results.load
      if client.rscTable.isNone then (client, -einval) else (client, results.load.ret)

def startClient (results : Results) (client : Client) : Client × Int :=
  ({ client with state := results.start.state }, results.start.ret)

def createRpmsgDevice (results : Results) (client : Client) : Client × Int :=
  if ¬results.rpmsgMemory then (client, -enomem)
  else if results.setupVdev ≠ 0 then (client, results.setupVdev)
  else if ¬results.virtio then (client, -einval)
  else if results.rpmsgInitVdev ≠ 0 then (client, results.rpmsgInitVdev)
  else ({ client with rdev := true }, 0)

def setupRbufDev (results : Results) : Int :=
  if ¬results.rbufEntry then -enodev
  else if ¬results.rbufShmem then -enomem
  else 0

/-- On an error the device is freed, but `client->rbuf_dev` keeps pointing to it. -/
def createRbufDevice (results : Results) (client : Client) : Client × Int :=
  if ¬results.rbufMemory then (client, -enomem)
  else
    let rbufDev := client.rbufDevices.count
    let client :=
      { client with rbufDevices := client.rbufDevices.alloc, rbufDev := some rbufDev }
    let ret := setupRbufDev results
    if ret ≠ 0 then ({ client with rbufDevices := client.rbufDevices.release rbufDev }, ret)
    else (client, 0)

/-- The value returned by `create_rpmsg_device` is lost for a client with debugging. -/
def micaStart (results : Results) (client : Client) : Client × Int :=
  let (client, ret) := loadClientImage results client
  if ret ≠ 0 then (client, ret)
  else
    let (client, ret) := startClient results client
    if ret ≠ 0 then (client, ret)
    else
      let (client, ret) := createRpmsgDevice results client
      if client.debug then createRbufDevice results client else (client, ret)

def micaRegisterService (results : Results) (service : Service) (client : Client) : Client × Int :=
  if client.state ≠ .running then (client, -eperm)
  else if ¬results.serviceMemory service then (client, -enomem)
  else ({ client with services := client.services ++ [service] }, 0)

/-- Register services one after another until one fails. -/
def registerServices (results : Results) : List Service → Client → Client × Int
  | [], client => (client, 0)
  | service :: rest, client =>
      let (client, ret) := micaRegisterService results service client
      if ret ≠ 0 then (client, ret) else registerServices results rest client

/-- The services registered by a start, in order. -/
def ownServices (debug : Bool) : List Service :=
  (if debug then [.debug] else []) ++ [.tty, .rpc, .umt]

/-! ## The functions of a stop -/

def remoteprocStop (client : Client) : Client :=
  if client.state = .offline then client else { client with state := .stopped }

def micaUnregisterAllServices (client : Client) : Client := { client with services := [] }

def releaseRpmsgDevice (client : Client) : Client := { client with rdev := false }

/-- `client->rbuf_dev` keeps pointing to the device. -/
def destroyRbufDevice (client : Client) : Client :=
  match client.rbufDev with
  | none => client
  | some rbufDev => { client with rbufDevices := client.rbufDevices.release rbufDev }

/-- `remoteproc_shutdown` with `rproc_shutdown`, which unmaps all of `rproc->mems`. -/
def stopClient (results : Results) (client : Client) : Client :=
  if client.state = .offline ∨ results.shutdown ≠ 0 then client
  else { client with state := .offline, rscTable := none, mems := [] }

def micaStop (results : Results) (client : Client) : Client :=
  let client := remoteprocStop client
  let client := micaUnregisterAllServices client
  let client := releaseRpmsgDevice client
  let client := if client.debug then destroyRbufDevice client else client
  stopClient results client

def micaRemove (results : Results) (client : Client) : Client :=
  let client := if client.state ≠ .offline then micaStop results client else client
  { client with removed := true }

/-- A remote that has switched itself off is stopped by the query. -/
def showClientStatus (results : Results) (client : Client) : Client :=
  if client.state = .running ∧ results.reserved = cpuOffFuncid then micaStop results client
  else client

/-! ## Commands -/

inductive Command where
  | start
  | stop
  | rm
  | status
  | gdb
  | other
deriving DecidableEq

/-- `MICA_MSG_SUCCESS` and `MICA_MSG_FAILED` -/
inductive Answer where
  | success
  | failed
deriving DecidableEq

def answerOf (ret : Int) : Answer := if ret ≠ 0 then .failed else .success

/-- The branch for "start". -/
def handleStart (results : Results) (client : Client) : Client × Int :=
  let (client, ret) := micaStart results client
  if ret ≠ 0 then (client, ret)
  else registerServices results (ownServices client.debug) client

/-- `client_ctrl_handler` for a command that has been received. -/
def clientCtrlHandler (results : Results) (client : Client) : Command → Client × Answer
  | .start =>
      let (client, ret) := handleStart results client
      (client, answerOf ret)
  | .stop => (micaStop results client, .success)
  | .rm =>
      if results.epollDel < 0 then (client, .failed)
      else (micaRemove results client, .success)
  | .status => (showClientStatus results client, .success)
  | .gdb => (client, if client.debug then .success else .failed)
  | .other => (client, .failed)

/-- A command with the answers it gets. -/
structure Event where
  command : Command
  results : Results

/-- The client after an event; nobody listens for a client that has been removed. -/
def Client.handle (client : Client) (event : Event) : Client :=
  if client.removed then client else (clientCtrlHandler event.results client event.command).1

/-! ## What a call leaves alone -/

/-- `load_client_image` succeeds. -/
def Client.Loads (client : Client) (results : Results) : Prop :=
  (loadClientImage results client).2 = 0

/-- `mica_stop` is called for the command. -/
def Client.Stops (client : Client) (event : Event) : Prop :=
  match event.command with
  | .stop => True
  | .status => client.state = .running ∧ event.results.reserved = cpuOffFuncid
  | .rm => 0 ≤ event.results.epollDel ∧ client.state ≠ .offline
  | .start | .gdb | .other => False

section Frames

variable (results : Results) (client : Client)

theorem prepare_frame (prepared : Prepared) : ∃ rscTable mems nextVa,
    client.prepare prepared =
      { client with
        state := prepared.state, rscTable := rscTable, mems := mems, nextVa := nextVa } := by
  rw [Client.prepare]
  split
  · exact ⟨_, _, _, rfl⟩
  · exact ⟨_, _, _, rfl⟩

theorem remoteprocConfig_frame : ∃ state rscTable mems nextVa,
    (remoteprocConfig results client).1 =
      { client with state := state, rscTable := rscTable, mems := mems, nextVa := nextVa } := by
  rw [remoteprocConfig]
  split
  · exact ⟨_, _, _, _, rfl⟩
  · exact ⟨_, prepare_frame client results.config⟩

theorem loadClientImage_frame : ∃ state rscTable mems nextVa,
    (loadClientImage results client).1 =
      { client with state := state, rscTable := rscTable, mems := mems, nextVa := nextVa } := by
  rcases remoteprocConfig_frame results client with ⟨_, _, _, _, config⟩
  rcases prepare_frame (remoteprocConfig results client).1 results.load with ⟨_, _, _, load⟩
  simp only [loadClientImage]
  split_ifs
  · exact ⟨_, _, _, _, rfl⟩
  · exact ⟨_, _, _, _, config⟩
  · exact ⟨_, _, _, _, config⟩
  · exact ⟨_, _, _, _, load.trans (by rw [config])⟩
  · exact ⟨_, _, _, _, load.trans (by rw [config])⟩

theorem createRpmsgDevice_frame : ∃ rdev,
    (createRpmsgDevice results client).1 = { client with rdev := rdev } := by
  rw [createRpmsgDevice]
  split_ifs
  all_goals exact ⟨_, rfl⟩

theorem micaRegisterService_frame (service : Service) : ∃ services,
    (micaRegisterService results service client).1 = { client with services := services } := by
  rw [micaRegisterService]
  split_ifs
  all_goals exact ⟨_, rfl⟩

theorem registerServices_frame (services : List Service) : ∃ registered,
    (registerServices results services client).1 = { client with services := registered } := by
  induction services generalizing client with
  | nil => exact ⟨_, rfl⟩
  | cons service rest ih =>
      rcases micaRegisterService_frame results client service with ⟨registered, first⟩
      simp only [registerServices]
      split_ifs
      · exact ⟨_, first⟩
      · rcases ih (micaRegisterService results service client).1 with ⟨_, later⟩
        exact ⟨_, later.trans (by rw [first])⟩

theorem stopClient_frame : ∃ state rscTable mems,
    stopClient results client =
      { client with state := state, rscTable := rscTable, mems := mems } := by
  rw [stopClient]
  split
  · exact ⟨_, _, _, rfl⟩
  · exact ⟨_, _, _, rfl⟩

theorem remoteprocStop_frame : ∃ state, remoteprocStop client = { client with state := state } := by
  rw [remoteprocStop]
  split
  · exact ⟨_, rfl⟩
  · exact ⟨_, rfl⟩

theorem micaStop_of_not_debug (plain : client.debug = false) : ∃ state rscTable mems,
    micaStop results client =
      { client with
        state := state, rscTable := rscTable, mems := mems, rdev := false, services := [] } := by
  rcases remoteprocStop_frame client with ⟨_, stopped⟩
  simp only [micaStop, micaUnregisterAllServices, releaseRpmsgDevice, stopped, plain,
    Bool.false_eq_true, if_false]
  exact stopClient_frame results _

theorem micaStop_of_debug (debug : client.debug = true) : ∃ state rscTable mems,
    micaStop results client =
      { client with
        state := state, rscTable := rscTable, mems := mems, rdev := false, services := []
        rbufDevices := (destroyRbufDevice client).rbufDevices } := by
  rcases remoteprocStop_frame client with ⟨_, stopped⟩
  simp only [micaStop, micaUnregisterAllServices, releaseRpmsgDevice, stopped, debug, if_true,
    destroyRbufDevice]
  cases client.rbufDev with
  | none => exact stopClient_frame results _
  | some rbufDev => exact stopClient_frame results _

/-- The client when its OS has been started. -/
def Client.booted (client : Client) (results : Results) : Client :=
  (startClient results (loadClientImage results client).1).1

theorem booted_frame : ∃ rscTable mems nextVa,
    client.booted results =
      { client with
        state := results.start.state, rscTable := rscTable, mems := mems, nextVa := nextVa } := by
  rcases loadClientImage_frame results client with ⟨_, _, _, _, loaded⟩
  rw [Client.booted, startClient, loaded]
  exact ⟨_, _, _, rfl⟩

variable {results client}

theorem micaStart_of_not_loads (fails : ¬client.Loads results) :
    micaStart results client = loadClientImage results client := by
  rw [Client.Loads] at fails
  simp only [micaStart]
  rw [if_pos fails]

theorem micaStart_of_not_boots (loads : client.Loads results) (fails : results.start.ret ≠ 0) :
    micaStart results client = (client.booted results, results.start.ret) := by
  rw [Client.Loads] at loads
  simp only [micaStart]
  rw [if_neg (not_not.2 loads)]
  exact if_pos fails

theorem micaStart_of_boots (loads : client.Loads results) (boots : results.start.ret = 0) :
    micaStart results client =
      if client.debug then
        createRbufDevice results (createRpmsgDevice results (client.booted results)).1
      else createRpmsgDevice results (client.booted results) := by
  have debug : (createRpmsgDevice results (client.booted results)).1.debug = client.debug := by
    rcases booted_frame results client with ⟨_, _, _, started⟩
    rcases createRpmsgDevice_frame results (client.booted results) with ⟨_, created⟩
    rw [created, started]
  rw [Client.Loads] at loads
  rw [← debug]
  simp only [micaStart]
  rw [if_neg (not_not.2 loads)]
  exact if_neg (not_not.2 boots)

variable (results client) in
theorem handleStart_frame : ∃ services,
    (handleStart results client).1 =
      { (micaStart results client).1 with services := services } := by
  simp only [handleStart]
  split_ifs
  · exact ⟨_, rfl⟩
  · exact registerServices_frame results _ _

theorem setupRbufDev_eq_zero :
    setupRbufDev results = 0 ↔ results.rbufEntry = true ∧ results.rbufShmem = true := by
  rw [setupRbufDev]
  cases results.rbufEntry with
  | false => simp [enodev]
  | true =>
      cases results.rbufShmem with
      | false => simp [enomem]
      | true => simp

variable (results client) in
theorem createRbufDevice_cases :
    results.rbufMemory = false ∧ createRbufDevice results client = (client, -enomem) ∨
    results.rbufMemory = true ∧ setupRbufDev results = 0 ∧
      createRbufDevice results client =
        ({ client with
            rbufDevices := client.rbufDevices.alloc
            rbufDev := some client.rbufDevices.count }, 0) ∨
    results.rbufMemory = true ∧ setupRbufDev results ≠ 0 ∧
      createRbufDevice results client =
        ({ client with
            rbufDevices := client.rbufDevices.alloc.release client.rbufDevices.count
            rbufDev := some client.rbufDevices.count }, setupRbufDev results) := by
  cases memory : results.rbufMemory with
  | false => simp [createRbufDevice, memory]
  | true =>
      by_cases finished : setupRbufDev results = 0
      · simp [createRbufDevice, memory, finished]
      · simp [createRbufDevice, memory, finished]

theorem createRbufDevice_frame (results : Results) (client : Client) : ∃ rbufDev rbufDevices,
    (createRbufDevice results client).1 =
      { client with rbufDev := rbufDev, rbufDevices := rbufDevices } := by
  rcases createRbufDevice_cases results client with ⟨-, same⟩ | ⟨-, -, made⟩ | ⟨-, -, lost⟩
  · rw [same]
    exact ⟨_, _, rfl⟩
  · rw [made]
    exact ⟨_, _, rfl⟩
  · rw [lost]
    exact ⟨_, _, rfl⟩

theorem handle_of_stops {event : Event} (present : client.removed = false)
    (stops : client.Stops event) : ∃ removed,
    client.handle event = { micaStop event.results client with removed := removed } := by
  rcases event with ⟨command, results⟩
  rw [Client.handle, present, if_neg Bool.false_ne_true]
  cases command with
  | stop => exact ⟨_, rfl⟩
  | status => exact ⟨_, if_pos stops⟩
  | rm =>
      refine ⟨true, ?_⟩
      simp only [clientCtrlHandler, micaRemove]
      rw [if_neg (Int.not_lt.2 stops.1), if_pos stops.2]
  | start | gdb | other => exact stops.elim

theorem handle_of_not_stops {event : Event} (noStart : event.command ≠ .start)
    (runs : ¬client.Stops event) : ∃ removed,
    client.handle event = { client with removed := removed } := by
  rcases event with ⟨command, results⟩
  rw [Client.handle]
  split
  · exact ⟨_, rfl⟩
  cases command with
  | start => exact (noStart rfl).elim
  | stop => exact (runs trivial).elim
  | status => exact ⟨_, if_neg runs⟩
  | rm =>
      simp only [clientCtrlHandler, micaRemove]
      split_ifs with refused running
      · exact ⟨_, rfl⟩
      · exact (runs ⟨Int.not_lt.1 refused, running⟩).elim
      · exact ⟨_, rfl⟩
  | gdb => exact ⟨_, rfl⟩
  | other => exact ⟨_, rfl⟩

end Frames

/-! ## The endpoints of a client -/

section Endpoints

variable {kind : Service → Endpoint.MicaService} {results : Results} {client : Client}

/-- The client is the one of `Mica.Endpoint`, whose services have callbacks. -/
structure Client.Agrees (kind : Service → Endpoint.MicaService) (client : Client)
    (served : Endpoint.Client) : Prop where
  state : client.state = served.state
  services : client.services.map kind = served.services

/-- A registration that gets memory is the one of `Mica.Endpoint`. -/
theorem micaRegisterService_agrees {host : Endpoint.Host} {service : Service}
    (agrees : client.Agrees kind host.client) (memory : results.serviceMemory service = true)
    (registrable : (kind service).Registrable) :
    (micaRegisterService results service client).2 =
        (Endpoint.micaRegisterService (kind service) host).2 ∧
      (micaRegisterService results service client).1.Agrees kind
        (Endpoint.micaRegisterService (kind service) host).1.client := by
  by_cases running : client.state = .running
  · rw [Endpoint.micaRegisterService_eq (agrees.state ▸ running) registrable]
    simp only [micaRegisterService, running, memory, ne_eq, not_true_eq_false, if_false]
    refine ⟨trivial, ?_, ?_⟩
    · simp [Endpoint.Client.addService, ← agrees.state, running]
    · simp [Endpoint.Client.addService, agrees.services]
  · have refused : host.client.state ≠ .running := agrees.state ▸ running
    simp only [micaRegisterService, Endpoint.micaRegisterService, running, refused, ne_eq,
      not_false_eq_true, if_true]
    exact ⟨trivial, agrees⟩

theorem stopClient_state (shutdown : results.shutdown = 0) :
    (stopClient results client).state = .offline := by
  rw [stopClient]
  split_ifs with stays
  · exact stays.resolve_right (not_not.mpr shutdown)
  · rfl

/-- A stop whose shutdown succeeds is the one of `Mica.Endpoint`. -/
theorem micaStop_agrees {served : Endpoint.Client} (shutdown : results.shutdown = 0) :
    (micaStop results client).Agrees kind (Endpoint.micaStop served) := by
  have services : (micaStop results client).services = [] := by
    cases debug : client.debug with
    | false =>
        rcases micaStop_of_not_debug results client debug with ⟨_, _, _, stopped⟩
        rw [stopped]
    | true =>
        rcases micaStop_of_debug results client debug with ⟨_, _, _, stopped⟩
        rw [stopped]
  exact ⟨stopClient_state shutdown, by rw [services]; rfl⟩

end Endpoints

end Mica.Lifecycle
