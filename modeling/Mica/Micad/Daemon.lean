import Mica.Lib.Buffer
import Mica.Lifecycle.Basic
import Mica.Micad.Listener
import Mathlib.Logic.Function.Basic

/-!
# The daemon that creates and removes clients

`create_mica_client`, `add_listener` and `free_listener_by_name` of
`micad/socket_listener.c` with the list of clients of `remoteproc/remoteproc_core.c`,
starting from the bytes of a message. `Mica.Micad.Listener` has the part that decides
whether a client is created; here a listener also has a socket, and the sockets are
reached through the file system.

Clients and sockets are numbered. The file system belongs to the outside: `resolve`
tells which file a path leads to, so that two paths may lead to one file. `bind` fails
if a socket is there already; its other failures, and those of the other calls, are
part of `DaemonResults`.
-/

namespace Mica.Micad

open Errno
open Endpoint (strncmpEq)

open Lifecycle (Answer answerOf)

def maxPathLen : ℕ := 64

def maxFirmwarePathLen : ℕ := 128

/-- The size given to `strlcpy` for `addr.sun_path`. -/
def sunPathLen : ℕ := 107

/-- "/run/mica/" -/
def socketDirectory : CString :=
  ⟨[0x2f, 0x72, 0x75, 0x6e, 0x2f, 0x6d, 0x69, 0x63, 0x61, 0x2f], by decide⟩

/-- ".socket" -/
def socketSuffix : CString := ⟨[0x2e, 0x73, 0x6f, 0x63, 0x6b, 0x65, 0x74], by decide⟩

/-- `unit->socket_path`, as printed by `snprintf`. -/
def socketPath (name : CString) : CString :=
  (socketDirectory.append (name.append socketSuffix)).strlcpy maxPathLen

/-! ## Messages -/

/-- The fields of `struct create_msg`, from the memory at the address of the variable. A string ends
at the first zero byte, which may be behind its field. -/
def createMsgOf (memory : List UInt8) : CreateMsg where
  cpu := UInt32.ofNat (LittleEndian.value (memory.take 4))
  name := Buffer.stringAt memory 4
  path := Buffer.stringAt memory 36
  ped := Buffer.stringAt memory 164

def pedCfgOf (memory : List UInt8) : CString := Buffer.stringAt memory 196

def debugOf (memory : List UInt8) : Bool := memory.getD 324 0 ≠ 0

/-- The fields of `struct mica_client` that are set when it is created, with its number. -/
structure CreatedClient where
  id : ℕ
  cpuId : UInt32
  path : CString
  ped : PedestalType
  pedCfg : CString
  debug : Bool
deriving DecidableEq

def createdClient (id : ℕ) (memory : List UInt8) : CreatedClient where
  id := id
  cpuId := (createMsgOf memory).cpu
  path := (createMsgOf memory).path.strlcpy maxFirmwarePathLen
  ped := (newClient (createMsgOf memory)).ped
  pedCfg := (pedCfgOf memory).strlcpy maxFirmwarePathLen
  debug := debugOf memory

/-- `struct listen_unit` -/
structure Listener where
  name : CString
  socketFd : ℕ
  socketPath : CString
  client : Option CreatedClient
deriving DecidableEq

/-- The part of a listener that `check_create_msg` reads, and the CPU of its client. -/
def Listener.unit (listener : Listener) : ListenUnit where
  name := listener.name
  client := listener.client.map fun client => ⟨client.cpuId, client.ped⟩

/-- The answers to the calls made for a create message. -/
structure DaemonResults where
  accept : Int
  recv : Int
  access : Int
  clientMemory : Bool
  remoteprocInit : Bool
  unitMemory : Bool
  socket : Int
  bind : Int
  listen : Int
  epollCtl : Int
  unlink : Int

/-- Every call succeeds. -/
def DaemonResults.smooth : DaemonResults := ⟨5, 325, 0, true, true, true, 3, 0, 0, 0, 0⟩

/-! ## The daemon -/

/-- The two lists, the sockets that files lead to, and the next number. -/
structure Daemon (File : Type) where
  gClientList : List CreatedClient
  listenerList : List Listener
  files : File → Option ℕ
  next : ℕ

namespace Daemon

variable {File : Type} [DecidableEq File] (resolve : CString → File) (nprocessors : Int)

/-- `unlink`, with the value that it returns. -/
def unlink (path : CString) (ret : Int) (daemon : Daemon File) : Daemon File :=
  if ret < 0 then daemon
  else { daemon with files := Function.update daemon.files (resolve path) none }

/-- `bind` of a new socket. -/
def bind (path : CString) (results : DaemonResults) (daemon : Daemon File) : Daemon File × Int :=
  if (daemon.files (resolve path)).isSome then (daemon, -1)
  else if results.bind < 0 then (daemon, results.bind)
  else
    ({ daemon with files := Function.update daemon.files (resolve path) (some daemon.next) },
      results.bind)

/-- On an error after `socket` the path is unlinked, whoever has bound it. -/
def addListener (name : CString) (client : Option CreatedClient) (results : DaemonResults)
    (daemon : Daemon File) : Daemon File × Int :=
  if ¬results.unitMemory then (daemon, -enomem)
  else
    let name := name.strlcpy maxNameLen
    if results.socket < 0 then (daemon, -1)
    else
      let path := socketPath name
      let socketFd := daemon.next
      let (daemon, ret) := daemon.bind resolve (path.strlcpy sunPathLen) results
      let daemon := { daemon with next := daemon.next + 1 }
      if ret < 0 then (daemon.unlink resolve path results.unlink, ret)
      else if results.listen < 0 then (daemon.unlink resolve path results.unlink, results.listen)
      else if results.epollCtl < 0 then
        (daemon.unlink resolve path results.unlink, results.epollCtl)
      else
        ({ daemon with listenerList := daemon.listenerList ++ [⟨name, socketFd, path, client⟩] }, 0)

/-- `mica_create` -/
def micaCreate (client : CreatedClient) (results : DaemonResults) (daemon : Daemon File) :
    Daemon File × Int :=
  if ¬results.remoteprocInit then (daemon, -einval)
  else ({ daemon with gClientList := daemon.gClientList ++ [client] }, 0)

/-- `create_mica_client` from the call of `recv` on. A client that gets no listener is freed, but
it stays in `g_client_list`. -/
def serveCreate (memory : List UInt8) (results : DaemonResults) (daemon : Daemon File) :
    Daemon File × Int :=
  if results.recv < 0 then (daemon, results.recv)
  else
    let ret := checkCreateMsg nprocessors (daemon.listenerList.map Listener.unit)
      ⟨results.access, false, 0, 0⟩ (createMsgOf memory)
    if ret < 0 then (daemon, ret)
    else if ¬results.clientMemory then (daemon, -enomem)
    else
      let client := createdClient daemon.next memory
      let daemon := { daemon with next := daemon.next + 1 }
      let (daemon, ret) := daemon.micaCreate client results
      if ret < 0 then (daemon, ret)
      else daemon.addListener resolve (createMsgOf memory).name (some client) results

/-- `create_mica_client`, with the answer that is sent. -/
def createMicaClient (memory : List UInt8) (results : DaemonResults) (daemon : Daemon File) :
    Daemon File × Option Answer :=
  if results.accept = -1 then (daemon, none)
  else
    let (daemon, ret) := daemon.serveCreate resolve nprocessors memory results
    (daemon, some (answerOf ret))

/-- `destory_client` -/
def destroyClient (client : CreatedClient) (daemon : Daemon File) : Daemon File :=
  { daemon with gClientList := daemon.gClientList.eraseP fun other => other.id = client.id }

/-- `free_listener_by_name`, with the value of `unlink`. -/
def freeListenerByName (name : CString) (unlinked : Int) (daemon : Daemon File) : Daemon File :=
  match daemon.listenerList.find? fun unit => strncmpEq name unit.name maxNameLen with
  | none => daemon
  | some unit =>
      { daemon with
        listenerList :=
          daemon.listenerList.eraseP fun unit => strncmpEq name unit.name maxNameLen }
        |>.unlink resolve unit.socketPath unlinked

/-- The command "rm" on the socket of a client, with the values of `epoll_ctl` and `unlink`. -/
def rm (socketFd : ℕ) (epollCtl unlinked : Int) (daemon : Daemon File) : Daemon File :=
  match daemon.listenerList.find? fun unit => unit.socketFd = socketFd with
  | none => daemon
  | some unit =>
      match unit.client with
      | none => daemon
      | some client =>
          if epollCtl < 0 then daemon
          else (daemon.destroyClient client).freeListenerByName resolve unit.name unlinked

/-- The daemon when it begins to wait: it listens for create messages. -/
def started : Daemon File :=
  (addListener resolve micaCreateName none .smooth ⟨[], [], fun _ => none, 0⟩).1

end Daemon

/-- What the daemon handles. -/
inductive DaemonEvent where
  | create (memory : List UInt8) (results : DaemonResults)
  | rm (socketFd : ℕ) (epollCtl unlinked : Int)

def Daemon.handle {File : Type} [DecidableEq File] (resolve : CString → File) (nprocessors : Int)
    (daemon : Daemon File) : DaemonEvent → Daemon File
  | .create memory results => (daemon.createMicaClient resolve nprocessors memory results).1
  | .rm socketFd epollCtl unlinked => daemon.rm resolve socketFd epollCtl unlinked

/-! ## What a call does -/

theorem strlcpy_sunPathLen_socketPath (name : CString) :
    (socketPath name).strlcpy sunPathLen = socketPath name := by
  apply CString.strlcpy_of_lt
  exact Nat.lt_trans (CString.length_strlcpy_lt (by decide) _) (by decide)

namespace Daemon

variable {File : Type} [DecidableEq File] (resolve : CString → File) (nprocessors : Int)

/-- What `add_listener` needs to succeed: memory, a socket, a path that no socket is bound to, and
no error from the calls on the socket. -/
def Granted (name : CString) (results : DaemonResults) (daemon : Daemon File) : Prop :=
  results.unitMemory ∧ 0 ≤ results.socket ∧
    daemon.files (resolve (socketPath (name.strlcpy maxNameLen))) = none ∧
      0 ≤ results.bind ∧ 0 ≤ results.listen ∧ 0 ≤ results.epollCtl

/-- What `create_mica_client` needs to get to `add_listener`. -/
def Admitted (memory : List UInt8) (results : DaemonResults) (daemon : Daemon File) : Prop :=
  results.accept ≠ -1 ∧ 0 ≤ results.recv ∧
    checkCreateMsg nprocessors (daemon.listenerList.map Listener.unit)
      ⟨results.access, false, 0, 0⟩ (createMsgOf memory) = 0 ∧
    results.clientMemory ∧ results.remoteprocInit

/-- The daemon with one more client in `g_client_list`. -/
def link (memory : List UInt8) (daemon : Daemon File) : Daemon File :=
  { daemon with
    gClientList := daemon.gClientList ++ [createdClient daemon.next memory]
    next := daemon.next + 1 }

/-- The daemon with one more listener, whose socket is bound. -/
def listen (name : CString) (client : Option CreatedClient) (daemon : Daemon File) :
    Daemon File :=
  let name := name.strlcpy maxNameLen
  { daemon with
    listenerList := daemon.listenerList ++ [⟨name, daemon.next, socketPath name, client⟩]
    files := Function.update daemon.files (resolve (socketPath name)) (some daemon.next)
    next := daemon.next + 1 }

variable {resolve nprocessors} {daemon : Daemon File} {results : DaemonResults}

theorem addListener_of_granted {name : CString} (client : Option CreatedClient)
    (granted : daemon.Granted resolve name results) :
    daemon.addListener resolve name client results = (daemon.listen resolve name client, 0) := by
  rcases granted with ⟨memory, socket, unbound, bind, listens, polls⟩
  simp [addListener, Daemon.bind, strlcpy_sunPathLen_socketPath, memory, Int.not_lt.2 socket,
    unbound, Int.not_lt.2 bind, Int.not_lt.2 listens, Int.not_lt.2 polls, Daemon.listen]

theorem bind_of_bound {path : CString} (bound : daemon.files (resolve path) ≠ none) :
    daemon.bind resolve path results = (daemon, -1) :=
  if_pos (Option.isSome_iff_ne_none.2 bound)

theorem bind_of_lt {path : CString} (fails : results.bind < 0) :
    (daemon.bind resolve path results).2 < 0 := by
  rw [Daemon.bind]
  split_ifs
  · simp
  · exact fails

theorem bind_lists (path : CString) (results : DaemonResults) (daemon : Daemon File) :
    (daemon.bind resolve path results).1.gClientList = daemon.gClientList ∧
      (daemon.bind resolve path results).1.listenerList = daemon.listenerList := by
  rw [Daemon.bind]
  split_ifs
  · exact ⟨rfl, rfl⟩
  · exact ⟨rfl, rfl⟩
  · exact ⟨rfl, rfl⟩

theorem unlink_lists (path : CString) (ret : Int) (daemon : Daemon File) :
    (daemon.unlink resolve path ret).gClientList = daemon.gClientList ∧
      (daemon.unlink resolve path ret).listenerList = daemon.listenerList := by
  rw [unlink]
  split_ifs
  · exact ⟨rfl, rfl⟩
  · exact ⟨rfl, rfl⟩

theorem files_unlink_of_ne {path : CString} {file : File} (elsewhere : file ≠ resolve path)
    (ret : Int) (daemon : Daemon File) :
    (daemon.unlink resolve path ret).files file = daemon.files file := by
  rw [unlink]
  split_ifs
  · rfl
  · exact Function.update_of_ne elsewhere _ _

theorem addListener_of_not_granted {name : CString} (client : Option CreatedClient)
    (refused : ¬daemon.Granted resolve name results) :
    (daemon.addListener resolve name client results).2 < 0 ∧
      (daemon.addListener resolve name client results).1.gClientList = daemon.gClientList ∧
      (daemon.addListener resolve name client results).1.listenerList = daemon.listenerList := by
  have negative : -enomem < 0 := by decide
  have lists := @bind_lists _ _ resolve (socketPath (name.strlcpy maxNameLen)) results daemon
  simp only [addListener, strlcpy_sunPathLen_socketPath]
  split_ifs with memory socket bindFails listenFails pollFails
  · exact ⟨by simp, rfl, rfl⟩
  · exact ⟨bindFails, (unlink_lists _ _ _).1.trans lists.1, (unlink_lists _ _ _).2.trans lists.2⟩
  · exact ⟨listenFails, (unlink_lists _ _ _).1.trans lists.1, (unlink_lists _ _ _).2.trans lists.2⟩
  · exact ⟨pollFails, (unlink_lists _ _ _).1.trans lists.1, (unlink_lists _ _ _).2.trans lists.2⟩
  · -- every call went through, so the path was free and nothing was missing
    refine absurd ⟨memory, Int.not_lt.1 socket, ?_, ?_, Int.not_lt.1 listenFails,
      Int.not_lt.1 pollFails⟩ refused
    · by_contra bound
      rw [bind_of_bound bound] at bindFails
      simp at bindFails
    · by_contra fails
      exact bindFails (bind_of_lt (Int.not_le.1 fails))
  · exact ⟨negative, rfl, rfl⟩

theorem checkCreateMsg_eq_zero {listenerList : List ListenUnit} {results : CreateResults}
    {msg : CreateMsg} (passed : ¬checkCreateMsg nprocessors listenerList results msg < 0) :
    checkCreateMsg nprocessors listenerList results msg = 0 := by
  have negative : -einval < 0 := by decide
  revert passed
  rw [checkCreateMsg]
  split_ifs
  · exact fun passed => absurd negative passed
  · exact fun passed => absurd negative passed
  · exact fun passed => absurd negative passed
  · exact fun _ => rfl

theorem createMicaClient_of_admitted {memory : List UInt8}
    (admitted : daemon.Admitted nprocessors memory results) :
    daemon.createMicaClient resolve nprocessors memory results =
      (((daemon.link memory).addListener resolve (createMsgOf memory).name
          (some (createdClient daemon.next memory)) results).1,
        some (answerOf ((daemon.link memory).addListener resolve (createMsgOf memory).name
          (some (createdClient daemon.next memory)) results).2)) := by
  rcases admitted with ⟨accepted, received, checked, clientMemory, init⟩
  simp [createMicaClient, serveCreate, micaCreate, link, accepted, Int.not_lt.2 received, checked,
    clientMemory, init]

theorem createMicaClient_of_not_admitted {memory : List UInt8}
    (refused : ¬daemon.Admitted nprocessors memory results) :
    (daemon.createMicaClient resolve nprocessors memory results).2 ≠ some .success ∧
      ∃ next, daemon.next ≤ next ∧
        (daemon.createMicaClient resolve nprocessors memory results).1 =
          { daemon with next := next } := by
  have failed {ret : Int} (negative : ret < 0) : some (answerOf ret) ≠ some Answer.success := by
    simp [answerOf, Int.ne_of_lt negative]
  have einvalNegative : -einval < 0 := by decide
  have enomemNegative : -enomem < 0 := by decide
  simp only [createMicaClient, serveCreate]
  split_ifs with unaccepted unreceived unchecked clientMemory notCreated
  · exact ⟨nofun, daemon.next, Nat.le_refl _, rfl⟩
  · exact ⟨failed unreceived, daemon.next, Nat.le_refl _, rfl⟩
  · exact ⟨failed unchecked, daemon.next, Nat.le_refl _, rfl⟩
  · refine ⟨failed notCreated, daemon.next + 1, Nat.le_succ _, ?_⟩
    revert notCreated
    rw [micaCreate]
    split_ifs
    · exact fun notCreated => absurd notCreated (by simp)
    · exact fun _ => rfl
  · refine absurd ⟨unaccepted, Int.not_lt.1 unreceived, checkCreateMsg_eq_zero unchecked,
      clientMemory, ?_⟩ refused
    by_contra noRemoteproc
    rw [micaCreate, if_pos noRemoteproc] at notCreated
    exact notCreated einvalNegative
  · exact ⟨failed enomemNegative, daemon.next, Nat.le_refl _, rfl⟩

theorem createMicaClient_of_granted {memory : List UInt8} {results : DaemonResults}
    (admitted : daemon.Admitted nprocessors memory results)
    (granted : daemon.Granted resolve (createMsgOf memory).name results) :
    daemon.createMicaClient resolve nprocessors memory results =
      ((daemon.link memory).listen resolve (createMsgOf memory).name
        (some (createdClient daemon.next memory)), some .success) := by
  have linkGranted : (daemon.link memory).Granted resolve (createMsgOf memory).name results :=
    granted
  rw [createMicaClient_of_admitted admitted, addListener_of_granted _ linkGranted]
  rfl

theorem createMicaClient_of_not_granted {memory : List UInt8} {results : DaemonResults}
    (admitted : daemon.Admitted nprocessors memory results)
    (refused : ¬daemon.Granted resolve (createMsgOf memory).name results) :
    (daemon.createMicaClient resolve nprocessors memory results).2 = some .failed ∧
      (daemon.createMicaClient resolve nprocessors memory results).1.gClientList =
        daemon.gClientList ++ [createdClient daemon.next memory] := by
  have linkRefused : ¬(daemon.link memory).Granted resolve (createMsgOf memory).name results :=
    refused
  rcases addListener_of_not_granted (some (createdClient daemon.next memory)) linkRefused with
    ⟨negative, sameClients, -⟩
  rw [createMicaClient_of_admitted admitted]
  refine ⟨?_, sameClients⟩
  simp [answerOf, Int.ne_of_lt negative]

theorem listenerList_freeListenerByName (name : CString) (unlinked : Int) (daemon : Daemon File) :
    (daemon.freeListenerByName resolve name unlinked).listenerList =
      daemon.listenerList.eraseP fun unit => strncmpEq name unit.name maxNameLen := by
  rw [Daemon.freeListenerByName]
  split
  · rename_i absent
    exact (List.eraseP_of_forall_not (List.find?_eq_none.1 absent)).symm
  · exact (unlink_lists _ _ _).2

/-! ## The listeners as `Mica.Micad.Listener` has them -/

theorem exists_units_handle (daemon : Daemon File) (event : DaemonEvent) :
    ∃ events : List Event,
      (daemon.handle resolve nprocessors event).listenerList.map Listener.unit =
        events.foldl (Micad.handle nprocessors) (daemon.listenerList.map Listener.unit) := by
  cases event with
  | create memory results =>
      rw [handle]
      by_cases admitted : daemon.Admitted nprocessors memory results
      · rw [createMicaClient_of_admitted admitted]
        by_cases granted : (daemon.link memory).Granted resolve (createMsgOf memory).name results
        · refine ⟨[.create ⟨results.access, false, 0, 0⟩ (createMsgOf memory)], ?_⟩
          rw [addListener_of_granted _ granted]
          simp [Micad.handle, Micad.createMicaClient, admitted.2.2.1, listen, link, Listener.unit,
            createdClient, newClient]
        · refine ⟨[], ?_⟩
          rw [(addListener_of_not_granted _ granted).2.2]
          rfl
      · rcases createMicaClient_of_not_admitted admitted with ⟨-, next, -, unchanged⟩
        exact ⟨[], by rw [unchanged, List.foldl_nil]⟩
  | rm socketFd epollCtl unlinked =>
      simp only [handle, rm]
      split
      · exact ⟨[], rfl⟩
      · rename_i unit _
        split
        · exact ⟨[], rfl⟩
        · split_ifs
          · exact ⟨[], rfl⟩
          · refine ⟨[.rm unit.name], ?_⟩
            rw [listenerList_freeListenerByName, List.foldl_cons, List.foldl_nil, Micad.handle,
              Micad.freeListenerByName, List.eraseP_map]
            rfl

theorem exists_listenersAfter (events : List DaemonEvent) :
    ∃ seen, (events.foldl (handle resolve nprocessors) (started resolve)).listenerList.map
      Listener.unit = listenersAfter nprocessors seen := by
  induction events using List.reverseRecOn with
  | nil => exact ⟨[], rfl⟩
  | append_singleton earlier last ih =>
      rcases ih with ⟨seen, sameUnits⟩
      rcases @exists_units_handle _ _ resolve nprocessors
        (earlier.foldl (handle resolve nprocessors) (started resolve)) last with ⟨more, step⟩
      refine ⟨seen ++ more, ?_⟩
      rw [List.foldl_append, List.foldl_cons, List.foldl_nil, step, sameUnits, listenersAfter,
        listenersAfter, List.foldl_append]

theorem cpuId_lt_of_mem_listenerList {events : List DaemonEvent} {listener : Listener}
    {client : CreatedClient}
    (listed : listener ∈ (events.foldl (handle resolve nprocessors) (started resolve)).listenerList)
    (has : listener.client = some client) : (client.cpuId.toNat : Int) < nprocessors := by
  rcases @exists_listenersAfter _ _ resolve nprocessors events with ⟨seen, sameUnits⟩
  have listedUnit : listener.unit ∈ listenersAfter nprocessors seen := by
    rw [← sameUnits]
    exact List.mem_map_of_mem listed
  apply configured_listenersAfter seen _ listedUnit ⟨client.cpuId, client.ped⟩
  rw [Listener.unit, has]
  rfl

end Daemon

end Mica.Micad
