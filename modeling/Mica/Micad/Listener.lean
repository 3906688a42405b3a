import Mathlib.Data.List.Induction
import Mica.Endpoint.Services

/-!
# Creating clients

`create_mica_client` and `check_create_msg` of `mica/micad/socket_listener.c`. The
daemon has a list of listeners: one for create messages and one for each client.
A create message is refused if the firmware does not exist, if the CPU is not
configured or if a listener has the name already; two clients may have one CPU.

Files, memory, sockets and `mica_create` belong to the outside: their results are
part of the event that a message is.
-/

namespace Mica

namespace Micad

open Errno
open Endpoint (strncmpEq)

def maxNameLen : ℕ := 32

/-- `enum pedestal_type` -/
inductive PedestalType where
  | bareMetal
  | jailhouse
deriving DecidableEq

/-- The fields of `struct mica_client` that are set when it is created. -/
structure MicaClient where
  cpuId : UInt32
  ped : PedestalType
deriving DecidableEq

/-- `struct listen_unit`; the listener for create messages has no client. -/
structure ListenUnit where
  name : CString
  client : Option MicaClient
deriving DecidableEq

/-- The fields of `struct create_msg` that decide whether and how a client is created; a string
is what begins at its field. -/
structure CreateMsg where
  cpu : UInt32
  name : CString
  path : CString
  ped : CString

/-- What the calls made for a create message return. -/
structure CreateResults where
  access : Int
  callocFails : Bool
  micaCreate : Int
  addListener : Int

/-- "jailhouse" -/
def jailhouseName : CString :=
  ⟨[0x6a, 0x61, 0x69, 0x6c, 0x68, 0x6f, 0x75, 0x73, 0x65], by decide⟩

/-- "mica-create" -/
def micaCreateName : CString :=
  ⟨[0x6d, 0x69, 0x63, 0x61, 0x2d, 0x63, 0x72, 0x65, 0x61, 0x74, 0x65], by decide⟩

/-- `check_create_msg`, with the value of `sysconf(_SC_NPROCESSORS_CONF)`. -/
def checkCreateMsg (nprocessors : Int) (listenerList : List ListenUnit) (results : CreateResults)
    (msg : CreateMsg) : Int :=
  if results.access ≠ 0 then -einval
  else if (msg.cpu.toNat : Int) ≥ nprocessors then -einval
  else if listenerList.any fun unit => strncmpEq msg.name unit.name maxNameLen then -einval
  else 0

/-- The client that is set up for a message. -/
def newClient (msg : CreateMsg) : MicaClient where
  cpuId := msg.cpu
  ped := if msg.ped = jailhouseName then .jailhouse else .bareMetal

/-- `create_mica_client` for a message that has been received: the value returned and the list
of listeners afterwards. -/
def createMicaClient (nprocessors : Int) (listenerList : List ListenUnit)
    (results : CreateResults) (msg : CreateMsg) : Int × List ListenUnit :=
  let ret := checkCreateMsg nprocessors listenerList results msg
  if ret < 0 then (ret, listenerList)
  else if results.callocFails then (-enomem, listenerList)
  else if results.micaCreate < 0 then (results.micaCreate, listenerList)
  else if results.addListener < 0 then (results.addListener, listenerList)
  else (results.addListener,
    listenerList ++ [{ name := msg.name.strlcpy maxNameLen, client := some (newClient msg) }])

/-- `free_listener_by_name` -/
def freeListenerByName (listenerList : List ListenUnit) (name : CString) : List ListenUnit :=
  listenerList.eraseP fun unit => strncmpEq name unit.name maxNameLen

/-- What the daemon handles: a create message, or the command "rm" for a client. -/
inductive Event where
  | create (results : CreateResults) (msg : CreateMsg)
  | rm (name : CString)

def handle (nprocessors : Int) (listenerList : List ListenUnit) : Event → List ListenUnit
  | .create results msg => (createMicaClient nprocessors listenerList results msg).2
  | .rm name => freeListenerByName listenerList name

/-- The listeners after the events, in order. -/
def listenersAfter (nprocessors : Int) (events : List Event) : List ListenUnit :=
  events.foldl (handle nprocessors) [{ name := micaCreateName, client := none }]

/-- The bare-metal clients of the listeners. -/
def bareMetalClients (listenerList : List ListenUnit) : List MicaClient :=
  (listenerList.filterMap ListenUnit.client).filter fun client => client.ped = .bareMetal

section Runs

variable {nprocessors : Int} {listenerList : List ListenUnit}

theorem checkCreateMsg_cases (results : CreateResults) (msg : CreateMsg) :
    checkCreateMsg nprocessors listenerList results msg < 0 ∨
      (msg.cpu.toNat : Int) < nprocessors ∧
        ∀ unit ∈ listenerList, strncmpEq msg.name unit.name maxNameLen = false := by
  have negative : -einval < 0 := by decide
  rw [checkCreateMsg]
  split_ifs with missing unconfigured taken
  · exact Or.inl negative
  · exact Or.inl negative
  · exact Or.inl negative
  · refine Or.inr ⟨Int.not_le.1 unconfigured, ?_⟩
    intro unit listed
    apply eq_false_of_ne_true
    intro same
    exact taken (List.any_eq_true.2 ⟨unit, listed, same⟩)

/-- A message is refused, or it adds a client on a configured CPU under a new name. -/
theorem createMicaClient_cases (results : CreateResults) (msg : CreateMsg) :
    (createMicaClient nprocessors listenerList results msg).2 = listenerList ∨
      (msg.cpu.toNat : Int) < nprocessors ∧
        (∀ unit ∈ listenerList, strncmpEq msg.name unit.name maxNameLen = false) ∧
        (createMicaClient nprocessors listenerList results msg).2 =
          listenerList ++ [⟨msg.name.strlcpy maxNameLen, some (newClient msg)⟩] := by
  rw [createMicaClient]
  rcases checkCreateMsg_cases results msg with refused | ⟨configured, newName⟩
  · exact Or.inl (by rw [if_pos refused])
  · split_ifs with refused noMemory notCreated notListening
    · exact Or.inl rfl
    · exact Or.inl rfl
    · exact Or.inl rfl
    · exact Or.inl rfl
    · exact Or.inr ⟨configured, newName, rfl⟩

/-- Every client of the list runs on a configured CPU. -/
def Configured (nprocessors : Int) (listenerList : List ListenUnit) : Prop :=
  ∀ unit ∈ listenerList, ∀ client, unit.client = some client →
    (client.cpuId.toNat : Int) < nprocessors

theorem handle_configured (event : Event) (configured : Configured nprocessors listenerList) :
    Configured nprocessors (handle nprocessors listenerList event) := by
  cases event with
  | create results msg =>
      rcases createMicaClient_cases results msg with refused | ⟨cpu, -, accepted⟩
      · rw [handle, refused]
        exact configured
      · rw [handle, accepted]
        intro unit listed client has
        rcases List.mem_append.1 listed with old | new
        · exact configured unit old client has
        · rw [List.mem_singleton.1 new] at has
          cases has
          exact cpu
  | rm name =>
      intro unit listed
      exact configured unit (List.mem_of_mem_eraseP listed)

theorem configured_listenersAfter (events : List Event) :
    Configured nprocessors (listenersAfter nprocessors events) := by
  induction events using List.reverseRecOn with
  | nil =>
      intro unit listed client has
      rw [List.mem_singleton.1 listed] at has
      cases has
  | append_singleton earlier last ih =>
      rw [listenersAfter, List.foldl_append]
      exact handle_configured last ih

theorem cpuId_lt_of_mem_bareMetalClients {client : MicaClient} {events : List Event}
    (listed : client ∈ bareMetalClients (listenersAfter nprocessors events)) :
    (client.cpuId.toNat : Int) < nprocessors := by
  rcases List.mem_filterMap.1 (List.mem_of_mem_filter listed) with ⟨unit, unitListed, has⟩
  exact configured_listenersAfter events unit unitListed client has

end Runs

end Micad

end Mica
