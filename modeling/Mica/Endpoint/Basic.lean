import Mica.Lib.CTypes
import Mica.Pty.Devices

/-!
# Endpoints, services and the endpoint table

`rpmsg_device/rpmsg_service.c` and `remoteproc/mica_rsc_table.c`, with the part
of `mica/mica.c` that stops a client. Linked lists are lists in walking order.
Names are C strings; the `name` arrays have `RPMSG_NAME_SIZE` bytes and are
filled by `strlcpy`. Memory allocation succeeds.

The callbacks of a service come from outside: a match predicate, a bind callback
described by what it does to the endpoints of the rpmsg device and to the table of
terminals, the value returned by `init` (which the source ignores) and whether there
is a `remove`.
Every call of a callback is recorded in the client; this record, the number of
stops of a client and the origin of a waiting endpoint are never read by the
functions of the source.
-/

namespace Mica

namespace Endpoint

open Errno

def rpmsgNameSize : ℕ := 32

/-- `RPMSG_ADDR_ANY` -/
def rpmsgAddrAny : UInt32 := 0xFFFFFFFF

def maxNumOfEpts : ℕ := 64

/-- The states of a remoteproc. -/
inductive RprocState
  | offline
  | configured
  | ready
  | running
  | suspended
  | error
  | stopped
deriving DecidableEq

/-- The client an endpoint stems from and how often that client had been stopped before. -/
structure Origin where
  client : ℕ
  run : ℕ
deriving DecidableEq

/-- `struct remote_ept`: an endpoint of the remote that waits for a service. -/
structure RemoteEpt where
  name : CString
  addr : UInt32
  destAddr : UInt32
  origin : Origin
deriving DecidableEq

/-- `struct rpmsg_endpoint`: an endpoint of the host. -/
structure RpmsgEndpoint where
  name : CString
  addr : UInt32
  destAddr : UInt32
deriving DecidableEq

/-- `struct ept_info` -/
structure EptInfo where
  name : CString
  addr : UInt32
  destAddr : UInt32
deriving DecidableEq

/-- `struct fw_rsc_ept`: the first `num_of_epts` entries of its array. -/
structure FwRscEpt where
  endpoints : List EptInfo
  fits : endpoints.length ≤ maxNumOfEpts
deriving DecidableEq

namespace FwRscEpt

/-- The table after `memset`. -/
def cleared : FwRscEpt := ⟨[], Nat.zero_le _⟩

def push (table : FwRscEpt) (info : EptInfo) (room : ¬table.endpoints.length ≥ maxNumOfEpts) :
    FwRscEpt where
  endpoints := table.endpoints ++ [info]
  fits := by
    rw [List.length_append, List.length_singleton]
    omega

end FwRscEpt

/-- `rpmsg_ns_match(rdev, name, remote_addr, remote_dest)` -/
abbrev NsMatch := ℕ → CString → UInt32 → UInt32 → Bool

/-- `rpmsg_ns_bind_cb(rdev, name, remote_addr, remote_dest)` by its effect on `rdev->endpoints` and
the terminals. -/
abbrev NsBindCb :=
  ℕ → CString → UInt32 → UInt32 → List RpmsgEndpoint × Pty.Ttys → List RpmsgEndpoint × Pty.Ttys

/-- `struct mica_service` -/
structure MicaService where
  init : Option Int
  remove : Bool
  rpmsgNsMatch : Option NsMatch
  rpmsgNsBindCb : Option NsBindCb

/-- A call of a service's callback; a service is named by its position in `client->services`. -/
inductive Callback
  | init (position : ℕ)
  | remove (position : ℕ)
  | bind (run position : ℕ) (ept : RemoteEpt)
deriving DecidableEq

/-- `struct mica_client`; `rdev` holds the endpoints of its rpmsg device, and `ttys` the terminals
that were made for them. -/
structure Client where
  id : ℕ
  state : RprocState
  rdev : List RpmsgEndpoint
  ttys : Pty.Ttys
  services : List MicaService
  rscTable : Option FwRscEpt
  run : ℕ
  callbacks : List Callback

/-- What a call works on: its client and the list `remote_ept_list` shared by all clients. -/
structure Host where
  client : Client
  remoteEptList : List RemoteEpt

/-! ## The endpoint table -/

/-- The loop of `rsc_update_ept_table`. -/
def recordEpts : List RpmsgEndpoint → FwRscEpt → FwRscEpt × Int
  | [], table => (table, 0)
  | ept :: rest, table =>
      if ept.addr = rpmsgAddrAny ∨ ept.destAddr = rpmsgAddrAny then recordEpts rest table
      else if full : table.endpoints.length ≥ maxNumOfEpts then (table, -enospc)
      else
        -- the table describes the remote, so the two addresses are exchanged
        recordEpts rest
          (table.push ⟨ept.name.strlcpy rpmsgNameSize, ept.destAddr, ept.addr⟩ full)

def rscUpdateEptTable (rscTable : Option FwRscEpt) (rdev : List RpmsgEndpoint) :
    Option FwRscEpt × Int :=
  match rscTable with
  | none => (none, 0)
  | some _ =>
      let (table, ret) := recordEpts rdev FwRscEpt.cleared
      (some table, ret)

def registerRemoteEpt (origin : Origin) (name : CString) (addr destAddr : UInt32)
    (remoteEptList : List RemoteEpt) : List RemoteEpt :=
  remoteEptList ++ [⟨name.strlcpy rpmsgNameSize, addr, destAddr, origin⟩]

/-- `handle_mica_rsc` on an `RSC_VENDOR_EPT_TABLE` resource. -/
def handleMicaRsc (origin : Origin) (table : FwRscEpt) (remoteEptList : List RemoteEpt) :
    List RemoteEpt :=
  table.endpoints.foldl
    (fun list ept =>
      if ept.addr ≠ 0 then registerRemoteEpt origin ept.name ept.addr ept.destAddr list else list)
    remoteEptList

/-! ## Services -/

namespace Client

def origin (client : Client) : Origin := ⟨client.id, client.run⟩

def note (client : Client) (callback : Callback) : Client :=
  { client with callbacks := client.callbacks ++ [callback] }

/-- Call the bind callback of the service at `position`, then update the endpoint table. -/
def bind (client : Client) (position : ℕ) (bindCb : NsBindCb) (ept : RemoteEpt) : Client :=
  let device := bindCb client.id ept.name ept.addr ept.destAddr (client.rdev, client.ttys)
  { client with
    rdev := device.1
    ttys := device.2
    rscTable := (rscUpdateEptTable client.rscTable device.1).1
    callbacks := client.callbacks ++ [.bind client.run position ept] }

def addService (client : Client) (svc : MicaService) : Client :=
  { client with services := client.services ++ [svc] }

end Client

/-- The walk of `mica_register_service` over `remote_ept_list`; entries that match are deleted. -/
def bindPending (nsMatch : NsMatch) (bindCb : NsBindCb) :
    List RemoteEpt → Client → Client × List RemoteEpt
  | [], client => (client, [])
  | ept :: rest, client =>
      if nsMatch client.id ept.name ept.addr ept.destAddr then
        bindPending nsMatch bindCb rest (client.bind client.services.length bindCb ept)
      else
        let (client, kept) := bindPending nsMatch bindCb rest client
        (client, ept :: kept)

def micaRegisterService (svc : MicaService) (host : Host) : Host × Int :=
  let position := host.client.services.length
  if host.client.state ≠ .running then (host, -eperm)
  else
    let client := if svc.init.isSome then host.client.note (.init position) else host.client
    match svc.rpmsgNsMatch, svc.rpmsgNsBindCb with
    | none, _ => ({ host with client := client.addService svc }, 0)
    | some _, none =>
        let client := if svc.remove then client.note (.remove position) else client
        ({ host with client := client }, -einval)
    | some nsMatch, some bindCb =>
        let (client, pending) := bindPending nsMatch bindCb host.remoteEptList client
        (⟨client.addService svc, pending⟩, 0)

/-- How the walk of `mica_ns_bind_cb` over the services ends. -/
inductive NsLookup
  | unmatched
  | noBindCb
  | matched (position : ℕ) (bindCb : NsBindCb)

def lookupService (id : ℕ) (name : CString) (dest : UInt32) :
    List MicaService → ℕ → NsLookup
  | [], _ => .unmatched
  | svc :: rest, position =>
      match svc.rpmsgNsMatch, svc.rpmsgNsBindCb with
      | none, _ => lookupService id name dest rest (position + 1)
      | some _, none => .noBindCb
      | some nsMatch, some bindCb =>
          if nsMatch id name dest rpmsgAddrAny then .matched position bindCb
          else lookupService id name dest rest (position + 1)

def micaNsBindCb (name : CString) (dest : UInt32) (host : Host) : Host :=
  let client := host.client
  match lookupService client.id name dest client.services 0 with
  | .matched position bindCb =>
      { host with
        client := client.bind position bindCb ⟨name, dest, rpmsgAddrAny, client.origin⟩ }
  | .noBindCb => host
  | .unmatched =>
      { host with
        remoteEptList := host.remoteEptList ++
          [⟨name.strlcpy rpmsgNameSize, dest, rpmsgAddrAny, client.origin⟩] }

def micaUnregisterAllServices (client : Client) : Client :=
  { client with
    services := []
    callbacks := client.callbacks ++
      (client.services.zipIdx.filter (·.1.remove)).map fun svc => .remove svc.2 }

/-- No terminal; the numbers of other files that are open do not matter here. -/
def noTerminals : Pty.Ttys := .initial ∅

/-- `mica_stop`: the services, the rpmsg device and the mapped resource table go. -/
def micaStop (client : Client) : Client :=
  { micaUnregisterAllServices client with
    state := .offline
    rdev := []
    ttys := noTerminals
    rscTable := none
    run := client.run + 1 }

/-- A client after a start: running, with the endpoints `own` the rpmsg device is created with. -/
def micaStart (own : List RpmsgEndpoint) (rscTable : Option FwRscEpt) (client : Client) : Client :=
  { client with
    state := .running
    rdev := own
    rscTable := rscTable }

/-! ## What a call does -/

/-- The endpoint is bound on both sides, so it is recorded in the table. -/
def RpmsgEndpoint.isBound (ept : RpmsgEndpoint) : Bool :=
  ept.addr ≠ rpmsgAddrAny ∧ ept.destAddr ≠ rpmsgAddrAny

/-- The table entry of an endpoint of the host. -/
def RpmsgEndpoint.info (ept : RpmsgEndpoint) : EptInfo :=
  ⟨ept.name.strlcpy rpmsgNameSize, ept.destAddr, ept.addr⟩

/-- The entries `rsc_update_ept_table` has to record. -/
def boundInfos (rdev : List RpmsgEndpoint) : List EptInfo :=
  (rdev.filter RpmsgEndpoint.isBound).map RpmsgEndpoint.info

@[simp]
theorem boundInfos_append (first second : List RpmsgEndpoint) :
    boundInfos (first ++ second) = boundInfos first ++ boundInfos second := by
  simp [boundInfos]

theorem recordEpts_eq (rdev : List RpmsgEndpoint) (table : FwRscEpt)
    (fits : table.endpoints.length + (boundInfos rdev).length ≤ maxNumOfEpts) :
    (recordEpts rdev table).1.endpoints = table.endpoints ++ boundInfos rdev ∧
      (recordEpts rdev table).2 = 0 := by
  induction rdev generalizing table with
  | nil => simp [recordEpts, boundInfos]
  | cons ept rest ih =>
      simp only [recordEpts]
      by_cases unbound : ept.addr = rpmsgAddrAny ∨ ept.destAddr = rpmsgAddrAny
      · have skipped : boundInfos (ept :: rest) = boundInfos rest := by
          have notBound : ept.isBound = false := by
            simpa [RpmsgEndpoint.isBound, or_iff_not_imp_left] using unbound
          simp [boundInfos, notBound]
        rw [if_pos unbound, skipped]
        exact ih table (by rwa [skipped] at fits)
      · have recorded : boundInfos (ept :: rest) = ept.info :: boundInfos rest := by
          have isBound : ept.isBound = true := by
            simpa [RpmsgEndpoint.isBound, not_or] using unbound
          simp [boundInfos, isBound]
        rw [recorded, List.length_cons] at fits
        have room : ¬table.endpoints.length ≥ maxNumOfEpts := by omega
        rw [if_neg unbound, dif_neg room, recorded]
        have pushed := ih (table.push ept.info room) (by
          simp only [FwRscEpt.push, List.length_append, List.length_singleton]
          omega)
        refine ⟨pushed.1.trans ?_, pushed.2⟩
        simp [FwRscEpt.push]

theorem rscUpdateEptTable_eq (table : FwRscEpt) (rdev : List RpmsgEndpoint)
    (fits : (boundInfos rdev).length ≤ maxNumOfEpts) :
    ∃ updated, rscUpdateEptTable (some table) rdev = (some updated, 0) ∧
      updated.endpoints = boundInfos rdev := by
  have recorded := recordEpts_eq rdev FwRscEpt.cleared (by simpa [FwRscEpt.cleared] using fits)
  refine ⟨(recordEpts rdev FwRscEpt.cleared).1, ?_, ?_⟩
  · simp only [rscUpdateEptTable]
    rw [← recorded.2]
  · simpa [FwRscEpt.cleared] using recorded.1

/-- The waiting endpoint a table entry is restored to. -/
def EptInfo.restored (origin : Origin) (info : EptInfo) : RemoteEpt :=
  ⟨info.name.strlcpy rpmsgNameSize, info.addr, info.destAddr, origin⟩

theorem handleMicaRsc_eq (origin : Origin) (table : FwRscEpt) (remoteEptList : List RemoteEpt) :
    handleMicaRsc origin table remoteEptList =
      remoteEptList ++
        (table.endpoints.filter (·.addr ≠ 0)).map (EptInfo.restored origin) := by
  simp only [handleMicaRsc]
  induction table.endpoints generalizing remoteEptList with
  | nil => simp
  | cons info rest ih =>
      rw [List.foldl_cons, ih]
      by_cases zero : info.addr = 0
      · simp [zero]
      · simp [zero, registerRemoteEpt, EptInfo.restored]

/-- The service accepts the endpoint. -/
def MicaService.accepts (id : ℕ) (svc : MicaService) (ept : RemoteEpt) : Bool :=
  match svc.rpmsgNsMatch with
  | none => false
  | some nsMatch => nsMatch id ept.name ept.addr ept.destAddr

/-- A registration of the service on a running client succeeds. -/
def MicaService.Registrable (svc : MicaService) : Prop :=
  svc.rpmsgNsMatch.isSome → svc.rpmsgNsBindCb.isSome

instance (svc : MicaService) : Decidable svc.Registrable :=
  inferInstanceAs (Decidable (_ → _))

/-- The bind callback of a service, if a call of it can be reached. -/
def MicaService.bindCb (svc : MicaService) : NsBindCb :=
  svc.rpmsgNsBindCb.getD fun _ _ _ _ device => device

/-- Bind the endpoints one after another to the service at `position`. -/
def Client.bindAll (client : Client) (position : ℕ) (bindCb : NsBindCb)
    (epts : List RemoteEpt) : Client :=
  epts.foldl (fun client ept => client.bind position bindCb ept) client

@[simp]
theorem Client.bindAll_cons (client : Client) (position : ℕ) (bindCb : NsBindCb)
    (ept : RemoteEpt) (rest : List RemoteEpt) :
    client.bindAll position bindCb (ept :: rest) =
      (client.bind position bindCb ept).bindAll position bindCb rest := rfl

section

variable (client : Client) (position : ℕ) (bindCb : NsBindCb) (epts : List RemoteEpt)

@[simp]
theorem Client.id_bindAll : (client.bindAll position bindCb epts).id = client.id := by
  induction epts generalizing client with
  | nil => rfl
  | cons ept rest ih => exact ih (client.bind position bindCb ept)

@[simp]
theorem Client.state_bindAll : (client.bindAll position bindCb epts).state = client.state := by
  induction epts generalizing client with
  | nil => rfl
  | cons ept rest ih => exact ih (client.bind position bindCb ept)

@[simp]
theorem Client.run_bindAll : (client.bindAll position bindCb epts).run = client.run := by
  induction epts generalizing client with
  | nil => rfl
  | cons ept rest ih => exact ih (client.bind position bindCb ept)

@[simp]
theorem Client.services_bindAll :
    (client.bindAll position bindCb epts).services = client.services := by
  induction epts generalizing client with
  | nil => rfl
  | cons ept rest ih => exact ih (client.bind position bindCb ept)

@[simp]
theorem Client.callbacks_bindAll :
    (client.bindAll position bindCb epts).callbacks =
      client.callbacks ++ epts.map (.bind client.run position ·) := by
  induction epts generalizing client with
  | nil => simp [Client.bindAll]
  | cons ept rest ih =>
      rw [Client.bindAll_cons, ih]
      simp [Client.bind]

end

theorem bindPending_eq (nsMatch : NsMatch) (bindCb : NsBindCb) (pending : List RemoteEpt)
    (client : Client) :
    bindPending nsMatch bindCb pending client =
      (client.bindAll client.services.length bindCb
        (pending.filter fun ept => nsMatch client.id ept.name ept.addr ept.destAddr),
      pending.filter fun ept => !nsMatch client.id ept.name ept.addr ept.destAddr) := by
  induction pending generalizing client with
  | nil => rfl
  | cons ept rest ih =>
      simp only [bindPending, List.filter_cons]
      cases nsMatch client.id ept.name ept.addr ept.destAddr with
      | true => simpa [Client.bind] using ih (client.bind client.services.length bindCb ept)
      | false => simp [ih client]

/-- The client of a registration when its walk over the waiting endpoints starts. -/
def Client.initService (client : Client) (svc : MicaService) : Client :=
  if svc.init.isSome then client.note (.init client.services.length) else client

section

variable (client : Client) (svc : MicaService)

@[simp]
theorem Client.id_initService : (client.initService svc).id = client.id := by
  simp only [Client.initService]
  split <;> rfl

@[simp]
theorem Client.state_initService : (client.initService svc).state = client.state := by
  simp only [Client.initService]
  split <;> rfl

@[simp]
theorem Client.run_initService : (client.initService svc).run = client.run := by
  simp only [Client.initService]
  split <;> rfl

@[simp]
theorem Client.services_initService : (client.initService svc).services = client.services := by
  simp only [Client.initService]
  split <;> rfl

@[simp]
theorem Client.rdev_initService : (client.initService svc).rdev = client.rdev := by
  simp only [Client.initService]
  split <;> rfl

@[simp]
theorem Client.ttys_initService : (client.initService svc).ttys = client.ttys := by
  simp only [Client.initService]
  split <;> rfl

@[simp]
theorem Client.rscTable_initService : (client.initService svc).rscTable = client.rscTable := by
  simp only [Client.initService]
  split <;> rfl

end

theorem micaRegisterService_eq {svc : MicaService} {host : Host}
    (running : host.client.state = .running) (registrable : svc.Registrable) :
    micaRegisterService svc host =
      (⟨((host.client.initService svc).bindAll host.client.services.length svc.bindCb
          (host.remoteEptList.filter (svc.accepts host.client.id))).addService svc,
        host.remoteEptList.filter fun ept => !svc.accepts host.client.id ept⟩, 0) := by
  simp only [micaRegisterService, running, ne_eq, not_true_eq_false, if_false]
  rw [← Client.initService]
  cases nsMatch : svc.rpmsgNsMatch with
  | none =>
      have acceptsNone : svc.accepts host.client.id = fun _ => false := by
        funext ept
        simp [MicaService.accepts, nsMatch]
      simp [acceptsNone, Client.bindAll]
  | some predicate =>
      cases bindCb : svc.rpmsgNsBindCb with
      | none => simp [MicaService.Registrable, nsMatch, bindCb] at registrable
      | some callback =>
          have acceptsSome : svc.accepts host.client.id =
              fun ept => predicate host.client.id ept.name ept.addr ept.destAddr := by
            funext ept
            simp [MicaService.accepts, nsMatch]
          simp only [bindPending_eq, Client.id_initService, Client.services_initService,
            MicaService.bindCb, bindCb,
            Option.getD_some, acceptsSome]

theorem micaRegisterService_ret (svc : MicaService) (host : Host) :
    (micaRegisterService svc host).2 = 0 ↔
      host.client.state = .running ∧ svc.Registrable := by
  by_cases running : host.client.state = .running
  · by_cases registrable : svc.Registrable
    · simp [micaRegisterService_eq running registrable, running, registrable]
    · have rejected := registrable
      simp only [MicaService.Registrable, Classical.not_imp,
        Option.not_isSome_iff_eq_none] at rejected
      rcases rejected with ⟨hasMatch, noBind⟩
      rcases Option.isSome_iff_exists.mp hasMatch with ⟨nsMatch, nsMatchEq⟩
      simp [micaRegisterService, running, nsMatchEq, noBind, einval, registrable]
  · simp [micaRegisterService, running, eperm]

theorem lookupService_eq (id : ℕ) (ept : RemoteEpt) (destAny : ept.destAddr = rpmsgAddrAny)
    {services : List MicaService} (registrable : ∀ svc ∈ services, svc.Registrable)
    (position : ℕ) :
    lookupService id ept.name ept.addr services position =
      match services.findIdx? fun svc => svc.accepts id ept with
      | none => .unmatched
      | some index =>
          .matched (position + index) ((services[index]?.map MicaService.bindCb).getD
            fun _ _ _ _ device => device) := by
  induction services generalizing position with
  | nil => rfl
  | cons svc rest ih =>
      have restStep := ih (fun other otherMem =>
        registrable other (List.mem_cons_of_mem _ otherMem))
        (position + 1)
      have next : (match (rest.findIdx? fun svc => svc.accepts id ept).map (· + 1) with
          | none => NsLookup.unmatched
          | some index => .matched (position + index)
              (((svc :: rest)[index]?.map MicaService.bindCb).getD fun _ _ _ _ device => device)) =
          lookupService id ept.name ept.addr rest (position + 1) := by
        rw [restStep]
        cases rest.findIdx? fun svc => svc.accepts id ept with
        | none => rfl
        | some index => simp [Nat.add_comm, Nat.add_left_comm]
      rw [List.findIdx?_cons]
      cases nsMatch : svc.rpmsgNsMatch with
      | none =>
          simp only [lookupService, nsMatch, MicaService.accepts, Bool.false_eq_true, if_false]
          exact next.symm
      | some predicate =>
          have hasCallback := registrable svc List.mem_cons_self
          cases bindCb : svc.rpmsgNsBindCb with
          | none => simp [MicaService.Registrable, nsMatch, bindCb] at hasCallback
          | some callback =>
              simp only [lookupService, nsMatch, bindCb, MicaService.accepts]
              rw [← destAny]
              cases predicate id ept.name ept.addr ept.destAddr with
              | true => simp [MicaService.bindCb, bindCb]
              | false =>
                  simp only [Bool.false_eq_true, if_false]
                  exact next.symm

end Endpoint

end Mica
