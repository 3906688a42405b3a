import Mica.Endpoint.Services
import Mica.Lib.Buffer
import Mica.Lib.Run
import Mica.Micad.ServiceState

/-!
# Services whose initialisation fails

`mica_register_service` calls `init` and ignores what it returns, so a service whose `init` has
failed is registered like any other, and `mica_unregister_all_services` calls its `remove`. The
results of `malloc` and of `init` come from outside.

What should happen is stated over whole runs of a client: a registration succeeds only if `init`
does, one that fails changes neither list, and unregistering removes each initialised service once
and no other. That is so exactly if no `init` of a service that gets registered fails.

The last part shows what `remove` meets after a failed `init` of the two services that have one.
-/

namespace Mica

namespace Endpoint

open Errno

/-- There is no `init`, or it returns 0. -/
def MicaService.Initialises (svc : MicaService) : Prop := ∀ ret ∈ svc.init, ret = 0

instance (svc : MicaService) : Decidable svc.Initialises :=
  inferInstanceAs (Decidable (∀ ret ∈ svc.init, ret = 0))

/-- `mica_register_service`, with the result of its `malloc`. -/
def registerService (allocated : Bool) (svc : MicaService) (host : Host) : Host × Int :=
  if host.client.state ≠ .running then (host, -eperm)
  else if !allocated then (host, -enomem)
  else micaRegisterService svc host

/-- What happens to a client and to the list `remote_ept_list`, which others change as well. -/
inductive ServiceEvent
  | start (own : List RpmsgEndpoint) (rscTable : Option FwRscEpt)
  | register (svc : MicaService) (allocated : Bool)
  | announce (announcement : Announcement)
  | otherClients (remoteEptList : List RemoteEpt)
  | stop

/-- A client with its history: the positions of the services that have been initialised since the
last stop and have a `remove` that is due. -/
structure Registrations where
  host : Host
  due : List ℕ

namespace Registrations

/-- A client that has just been created. -/
def created (id : ℕ) (remoteEptList : List RemoteEpt) : Registrations where
  host :=
    { client :=
        { id := id
          state := .offline
          rdev := []
          ttys := noTerminals
          services := []
          rscTable := none
          run := 0
          callbacks := [] }
      remoteEptList := remoteEptList }
  due := []

/-- The registration initialises the service. A service that is turned down afterwards, because it
cannot bind, is removed by the registration itself. -/
def Initialised (registrations : Registrations) (svc : MicaService) (allocated : Bool) : Prop :=
  registrations.host.client.state = .running ∧ allocated ∧ svc.Registrable ∧ svc.Initialises

instance (registrations : Registrations) (svc : MicaService) (allocated : Bool) :
    Decidable (registrations.Initialised svc allocated) :=
  inferInstanceAs (Decidable (_ ∧ _))

def step (registrations : Registrations) : ServiceEvent → Registrations
  | .start own rscTable =>
      { registrations with
        host.client := micaStart own rscTable registrations.host.client }
  | .register svc allocated =>
      { host := (registerService allocated svc registrations.host).1
        due :=
          if registrations.Initialised svc allocated ∧ svc.remove then
            registrations.due ++ [registrations.host.client.services.length]
          else registrations.due }
  | .announce announcement =>
      { registrations with
        host := micaNsBindCb announcement.name announcement.dest registrations.host }
  | .otherClients remoteEptList =>
      { registrations with host.remoteEptList := remoteEptList }
  | .stop =>
      { host.client := micaStop registrations.host.client
        host.remoteEptList := registrations.host.remoteEptList
        due := [] }

/-- A registration that succeeds appends an initialised service, and one that fails leaves both
lists alone. A stop calls `remove` once for each service that is due, and for no other. -/
def Paired (registrations : Registrations) : ServiceEvent → Prop
  | .register svc allocated =>
      let (host, ret) := registerService allocated svc registrations.host
      (ret = 0 →
        host.client.services = registrations.host.client.services ++ [svc] ∧ svc.Initialises) ∧
      (ret ≠ 0 →
        host.client.services = registrations.host.client.services ∧
          host.remoteEptList = registrations.host.remoteEptList)
  | .stop =>
      registrations.due.Nodup ∧
        (micaUnregisterAllServices registrations.host.client).callbacks =
          registrations.host.client.callbacks ++ registrations.due.map Callback.remove
  | _ => True

/-- The `init` of a service that gets registered does not fail. -/
def InitSucceeds (registrations : Registrations) : ServiceEvent → Prop
  | .register svc allocated =>
      registrations.host.client.state = .running → allocated → svc.Registrable → svc.Initialises
  | _ => True

end Registrations

section Calls

variable {allocated : Bool} {svc : MicaService} {host : Host}

theorem registerService_of_accepted (running : host.client.state = .running)
    (hasMemory : allocated = true) (registrable : svc.Registrable) :
    (registerService allocated svc host).2 = 0 ∧
      (registerService allocated svc host).1.client.services = host.client.services ++ [svc] := by
  simp [registerService, running, hasMemory, micaRegisterService_eq running registrable,
    Client.addService]

theorem registerService_of_refused
    (refused : ¬(host.client.state = .running ∧ allocated ∧ svc.Registrable)) :
    (registerService allocated svc host).2 ≠ 0 ∧
      (registerService allocated svc host).1.client.services = host.client.services ∧
      (registerService allocated svc host).1.remoteEptList = host.remoteEptList := by
  by_cases running : host.client.state = .running
  · cases allocated with
    | false => simp [registerService, running, enomem]
    | true =>
        have rejected : ¬svc.Registrable := fun registrable => refused ⟨running, rfl, registrable⟩
        rw [MicaService.Registrable, Classical.not_imp, Option.not_isSome_iff_eq_none] at rejected
        rcases rejected with ⟨hasMatch, noBind⟩
        rcases Option.isSome_iff_exists.mp hasMatch with ⟨nsMatch, nsMatchEq⟩
        simp only [registerService, micaRegisterService, running, nsMatchEq, noBind]
        split_ifs <;> simp_all [einval, Client.note]
  · simp [registerService, running, eperm]

theorem services_micaNsBindCb (name : CString) (dest : UInt32) (host : Host) :
    (micaNsBindCb name dest host).client.services = host.client.services := by
  simp only [micaNsBindCb]
  split <;> rfl

end Calls

/-- The positions of the services with a `remove`. -/
def removable (services : List MicaService) : List ℕ :=
  (services.zipIdx.filter (·.1.remove)).map Prod.snd

theorem removable_concat (services : List MicaService) (svc : MicaService) :
    removable (services ++ [svc]) =
      if svc.remove then removable services ++ [services.length] else removable services := by
  rw [removable, List.zipIdx_append, List.filter_append, List.map_append]
  split_ifs with removes <;> simp [removable, removes]

theorem nodup_removable (services : List MicaService) : (removable services).Nodup := by
  have positions : (services.zipIdx.map Prod.snd).Nodup := by
    rw [List.zipIdx_map_snd]
    exact List.nodup_range'
  exact positions.sublist (List.filter_sublist.map Prod.snd)

theorem callbacks_micaUnregisterAllServices (client : Client) :
    (micaUnregisterAllServices client).callbacks =
      client.callbacks ++ (removable client.services).map Callback.remove := by
  rw [micaUnregisterAllServices, removable, List.map_map]
  rfl

namespace Registrations

/-- The services that are due are the registered ones with a `remove`. -/
def Consistent (registrations : Registrations) : Prop :=
  registrations.due = removable registrations.host.client.services

variable {registrations : Registrations} {event : ServiceEvent}

theorem paired_iff (consistent : registrations.Consistent) :
    registrations.Paired event ↔ registrations.InitSucceeds event := by
  cases event with
  | register svc allocated =>
      simp only [Paired, InitSucceeds]
      by_cases accepted : registrations.host.client.state = .running ∧ allocated ∧ svc.Registrable
      · rcases accepted with ⟨running, hasMemory, registrable⟩
        rcases registerService_of_accepted running hasMemory registrable with ⟨ret, appended⟩
        refine ⟨fun paired _ _ _ => (paired.1 ret).2, fun succeeds => ⟨fun _ => ⟨appended, ?_⟩, ?_⟩⟩
        · exact succeeds running hasMemory registrable
        · exact fun nonzero => absurd ret nonzero
      · rcases registerService_of_refused accepted with ⟨ret, services, list⟩
        refine iff_of_true ⟨fun zero => absurd zero ret, fun _ => ⟨services, list⟩⟩ ?_
        exact fun running hasMemory registrable =>
          absurd ⟨running, hasMemory, registrable⟩ accepted
  | stop =>
      refine iff_of_true ⟨?_, ?_⟩ trivial
      · rw [consistent]
        exact nodup_removable _
      · rw [callbacks_micaUnregisterAllServices, consistent]
  | start own rscTable => exact Iff.rfl
  | announce announcement => exact Iff.rfl
  | otherClients remoteEptList => exact Iff.rfl

theorem Consistent.step (consistent : registrations.Consistent)
    (succeeds : registrations.InitSucceeds event) : (registrations.step event).Consistent := by
  cases event with
  | register svc allocated =>
      by_cases accepted : registrations.host.client.state = .running ∧ allocated ∧ svc.Registrable
      · rcases accepted with ⟨running, hasMemory, registrable⟩
        have initialises := succeeds running hasMemory registrable
        have initialised : registrations.Initialised svc allocated :=
          ⟨running, hasMemory, registrable, initialises⟩
        rcases registerService_of_accepted running hasMemory registrable with ⟨-, appended⟩
        rw [Consistent, Registrations.step, appended, removable_concat, ← consistent]
        simp [initialised]
      · rcases registerService_of_refused accepted with ⟨-, services, -⟩
        have uninitialised : ¬registrations.Initialised svc allocated :=
          fun initialised => accepted ⟨initialised.1, initialised.2.1, initialised.2.2.1⟩
        rw [Consistent, Registrations.step, services, ← consistent]
        simp [uninitialised]
  | stop => rfl
  | start own rscTable => exact consistent
  | announce announcement =>
      rw [Consistent, Registrations.step, services_micaNsBindCb]
      exact consistent
  | otherClients remoteEptList => exact consistent

theorem consistent_created (id : ℕ) (remoteEptList : List RemoteEpt) :
    (created id remoteEptList).Consistent := rfl

theorem allSteps_paired_iff (consistent : registrations.Consistent) (events : List ServiceEvent) :
    Run.AllSteps step registrations Paired events ↔
      Run.AllSteps step registrations InitSucceeds events :=
  Run.allSteps_iff_allSteps consistent (fun _ _ holds succeeds => holds.step succeeds)
    (fun _ _ holds => paired_iff holds) events

/-- Registrations and removals of a client are paired over a whole run exactly if no `init` of a
service that gets registered fails. -/
theorem paired_iff_init_succeeds (id : ℕ) (remoteEptList : List RemoteEpt)
    (events : List ServiceEvent) :
    Run.AllSteps step (created id remoteEptList) Paired events ↔
      Run.AllSteps step (created id remoteEptList) InitSucceeds events :=
  allSteps_paired_iff (consistent_created id remoteEptList) events

end Registrations

/-! ## The services with an `init` -/

/-- `create_tty_dev_lists`: what it returns, and `svc->priv` afterwards, which points to the list of
devices or is `NULL` as in the descriptor. -/
def createTtyDevLists (allocated : Bool) : Int × Option (List ℕ) :=
  if allocated then (0, some []) else (-enomem, none)

/-- `remove_tty_dev_lists`: the devices that are unbound. The walk over the list at `priv` starts
with its links. -/
def removeTtyDevLists (priv : Option (List ℕ)) : Outcome (List ℕ) :=
  match priv with
  | none => .fault
  | some devices => .ok devices

/-- `rpmsg_tty_service`, with the result of the `malloc` of its `init`. -/
def ttyService (amp : OpenAmp) (allocated : Bool) : MicaService :=
  { rpmsgTtyService amp with init := some (createTtyDevLists allocated).1 }

/-- A removal after a failed `init` follows a null pointer. -/
theorem removeTtyDevLists_eq_fault_iff (amp : OpenAmp) (allocated : Bool) :
    removeTtyDevLists (createTtyDevLists allocated).2 = .fault ↔
      ¬(ttyService amp allocated).Initialises := by
  cases allocated <;> simp [createTtyDevLists, removeTtyDevLists, ttyService,
    MicaService.Initialises, enomem]

/-- If the thread of the gdb server could not be created, `debug_stop` frees the module again. -/
theorem debugStop_noServerThread (client : ℕ) (globals : Micad.DebugGlobals) :
    Micad.debugStop (Micad.debugStart client globals .noServerThread) = none := by
  simp only [Micad.debugStop, Micad.debugStart, Micad.freeResourcesForRingBufferModule,
    Micad.startRingBufferModule, Allocations.giveBack, Allocations.alloc, Nat.add_sub_cancel]
  rw [if_neg Allocations.not_live_release]
  rfl

namespace Registrations

/-- The tty service is registered without memory for its list, and the client is stopped. -/
def ttyWithoutMemory : List ServiceEvent :=
  [.start [] none, .register (ttyService fixedAmp false) true, .stop]

/-- The service is registered although its `init` has failed, and `remove` is called for it. -/
theorem not_paired_ttyWithoutMemory :
    ¬Run.AllSteps step (created 0 []) Paired ttyWithoutMemory ∧
      (ttyWithoutMemory.foldl step (created 0 [])).host.client.callbacks =
        [.init 0, .remove 0] ∧
      removeTtyDevLists (createTtyDevLists false).2 = .fault := by
  refine ⟨?_, rfl, rfl⟩
  rw [allSteps_paired_iff (consistent_created 0 [])]
  intro succeeds
  have registered := succeeds [.start [] none] _ (List.prefix_append _ [ServiceEvent.stop])
  exact absurd (registered rfl rfl (by decide)) (by decide)

end Registrations

end Endpoint

end Mica
