import Mica.Endpoint.Basic
import Mica.Lib.Rendezvous

/-!
# Binding endpoints to services

Registrations and announcements of one client. `mica_register_service` looks
through the waiting endpoints and `mica_ns_bind_cb` through the services; the
pair is a rendezvous in the sense of `Mica.Lib.Rendezvous`, with the services as
subscribers and the endpoints as items, and inherits its independence of the
interleaving.

The name of an announcement comes out of the `RPMSG_NAME_SIZE` bytes of a name
service message, terminator included. A longer name would be truncated on its
way through `remote_ept_list` and not on the direct path.
-/

namespace Mica

namespace Endpoint

/-- A name service message. -/
structure Announcement where
  name : CString
  dest : UInt32
  fits : name.length < rpmsgNameSize
deriving DecidableEq

def Announcement.remoteEpt (announcement : Announcement) (origin : Origin) : RemoteEpt :=
  ⟨announcement.name, announcement.dest, rpmsgAddrAny, origin⟩

/-- The calls of one client. -/
inductive Event
  | register (svc : MicaService)
  | announce (announcement : Announcement)

namespace Event

def service? : Event → Option MicaService
  | register svc => some svc
  | announce _ => none

def announcement? : Event → Option Announcement
  | register _ => none
  | announce announcement => some announcement

/-- The event of the rendezvous a call amounts to. -/
def abstract (origin : Origin) : Event → Rendezvous.Event RemoteEpt MicaService
  | register svc => .subscribe svc
  | announce announcement => .announce (announcement.remoteEpt origin)

end Event

def Callback.bind? : Callback → Option (ℕ × RemoteEpt)
  | bind _ position ept => some (position, ept)
  | _ => none

/-- The calls of bind callbacks, with the position of the service. -/
def Client.binds (client : Client) : List (ℕ × RemoteEpt) :=
  client.callbacks.filterMap Callback.bind?

namespace Host

def step (host : Host) : Event → Host
  | .register svc => (micaRegisterService svc host).1
  | .announce announcement => micaNsBindCb announcement.name announcement.dest host

def run (host : Host) (events : List Event) : Host :=
  events.foldl step host

/-- The rendezvous a host implements. -/
def registry (host : Host) : Rendezvous.Registry RemoteEpt MicaService where
  subscribers := host.client.services
  waiting := host.remoteEptList
  delivered := host.client.binds

/-- Registrations succeed and all registered services can bind. -/
structure Serving (host : Host) : Prop where
  running : host.client.state = .running
  registrable : ∀ svc ∈ host.client.services, svc.Registrable

end Host

@[simp]
theorem Client.binds_bind (client : Client) (position : ℕ) (bindCb : NsBindCb) (ept : RemoteEpt) :
    (client.bind position bindCb ept).binds = client.binds ++ [(position, ept)] := by
  simp [Client.binds, Client.bind, List.filterMap_append, Callback.bind?]

@[simp]
theorem Client.binds_bindAll (client : Client) (position : ℕ) (bindCb : NsBindCb)
    (epts : List RemoteEpt) :
    (client.bindAll position bindCb epts).binds = client.binds ++ epts.map (position, ·) := by
  simp [Client.binds, List.filterMap_append, Function.comp_def, Callback.bind?]

@[simp]
theorem Client.binds_initService (client : Client) (svc : MicaService) :
    (client.initService svc).binds = client.binds := by
  simp only [Client.initService]
  split
  · simp [Client.note, Client.binds, List.filterMap_append, Callback.bind?]
  · rfl

theorem Client.binds_addService (client : Client) (svc : MicaService) :
    (client.addService svc).binds = client.binds := rfl

theorem registry_register {host : Host} {svc : MicaService} (serving : host.Serving)
    (registrable : svc.Registrable) :
    (host.step (.register svc)).registry =
      host.registry.subscribe (MicaService.accepts host.client.id) svc := by
  simp only [Host.step, micaRegisterService_eq serving.running registrable, Host.registry,
    Rendezvous.Registry.subscribe, Client.binds_addService, Client.binds_bindAll,
    Client.binds_initService]
  simp [Client.addService]

theorem registry_announce {host : Host} (serving : host.Serving) (announcement : Announcement) :
    (host.step (.announce announcement)).registry =
      host.registry.announce (MicaService.accepts host.client.id)
        (announcement.remoteEpt host.client.origin) := by
  have lookup := lookupService_eq host.client.id (announcement.remoteEpt host.client.origin) rfl
    serving.registrable 0
  simp only [Announcement.remoteEpt] at lookup
  simp only [Host.step, micaNsBindCb, lookup, Host.registry, Rendezvous.Registry.announce,
    Rendezvous.firstMatch, Announcement.remoteEpt]
  cases host.client.services.findIdx? _ with
  | none => simp [CString.strlcpy_of_lt announcement.fits]
  | some index =>
      simp only [Client.binds_bind, Nat.zero_add]
      rfl

/-- What an announcement does: it is bound to a service that accepts it, or it waits. -/
theorem announce_cases {host : Host} (serving : host.Serving) (announcement : Announcement) :
    (∃ position, ∃ svc ∈ host.client.services,
      svc.accepts host.client.id (announcement.remoteEpt host.client.origin) = true ∧
        host.step (.announce announcement) =
          { host with
            client := host.client.bind position svc.bindCb
              (announcement.remoteEpt host.client.origin) }) ∨
      (∀ svc ∈ host.client.services,
        svc.accepts host.client.id (announcement.remoteEpt host.client.origin) = false) ∧
        host.step (.announce announcement) =
          { host with
            remoteEptList :=
              host.remoteEptList ++ [announcement.remoteEpt host.client.origin] } := by
  have lookup := lookupService_eq host.client.id (announcement.remoteEpt host.client.origin) rfl
    serving.registrable 0
  simp only [Announcement.remoteEpt] at lookup
  simp only [Host.step, micaNsBindCb, lookup, Announcement.remoteEpt]
  cases found : host.client.services.findIdx? _ with
  | none =>
      right
      refine ⟨?_, ?_⟩
      · simpa [List.findIdx?_eq_none_iff] using found
      · simp [CString.strlcpy_of_lt announcement.fits]
  | some index =>
      left
      rcases List.findIdx?_eq_some_iff_getElem.mp found with ⟨bound, accepted, _⟩
      refine ⟨0 + index, host.client.services[index], List.getElem_mem bound, accepted, ?_⟩
      simp [bound]

/-! ## Runs -/

theorem origin_step (host : Host) (event : Event) :
    (host.step event).client.id = host.client.id ∧
      (host.step event).client.run = host.client.run := by
  cases event with
  | register svc =>
      simp only [Host.step, micaRegisterService]
      split
      · exact ⟨rfl, rfl⟩
      · rw [← Client.initService]
        cases svc.rpmsgNsMatch with
        | none => simp [Client.addService]
        | some nsMatch =>
            cases svc.rpmsgNsBindCb with
            | none =>
                cases svc.remove <;> simp [Client.note]
            | some bindCb => simp [bindPending_eq, Client.addService]
  | announce announcement =>
      simp only [Host.step, micaNsBindCb]
      split <;> exact ⟨rfl, rfl⟩

theorem Host.Serving.register {host : Host} (serving : host.Serving) {svc : MicaService}
    (registrable : svc.Registrable) : (host.step (.register svc)).Serving := by
  simp only [Host.step, micaRegisterService_eq serving.running registrable]
  refine ⟨?_, ?_⟩
  · simpa [Client.addService] using serving.running
  · intro other otherMem
    simp only [Client.addService, Client.services_bindAll, Client.services_initService,
      List.mem_append, List.mem_singleton] at otherMem
    rcases otherMem with before | rfl
    · exact serving.registrable other before
    · exact registrable

theorem Host.Serving.announce {host : Host} (serving : host.Serving)
    (announcement : Announcement) : (host.step (.announce announcement)).Serving := by
  simp only [Host.step, micaNsBindCb]
  split <;> exact ⟨serving.running, serving.registrable⟩

theorem registry_run {host : Host} (serving : host.Serving) (events : List Event)
    (registrable : ∀ svc ∈ events.filterMap Event.service?, svc.Registrable) :
    (host.run events).registry =
      host.registry.run (MicaService.accepts host.client.id)
        (events.map (Event.abstract host.client.origin)) := by
  induction events generalizing host with
  | nil => rfl
  | cons event rest ih =>
      have origin := origin_step host event
      cases event with
      | register svc =>
          have first : svc.Registrable := registrable svc (by simp [Event.service?])
          have later := ih (serving.register first) (fun other otherMem =>
            registrable other (by simp [Event.service?, otherMem]))
          simp only [Client.origin, origin.1, origin.2, registry_register serving first] at later
          exact later
      | announce announcement =>
          have later := ih (serving.announce announcement) (fun other otherMem =>
            registrable other (by simpa [Event.service?] using otherMem))
          simp only [Client.origin, origin.1, origin.2, registry_announce serving] at later
          exact later

/-- A host right after the start of its client. -/
def Host.started (id run : ℕ) (own : List RpmsgEndpoint) (rscTable : Option FwRscEpt) : Host :=
  ⟨micaStart own rscTable ⟨id, .offline, [], noTerminals, [], none, run, []⟩, []⟩

/-- The position of the earliest of the services that matches the announced endpoint. -/
def earliest (id run : ℕ) (services : List MicaService) (announcement : Announcement) :
    Option ℕ :=
  services.findIdx? fun svc => svc.accepts id (announcement.remoteEpt ⟨id, run⟩)

/--
For every interleaving of the registrations, in their order, with the
announcements, in any order, the bind callbacks are called once for each
announcement that some service matches, by the earliest such service, and the
other announcements are left waiting.
-/
theorem binds_run_earliest (id run : ℕ) (own : List RpmsgEndpoint) (rscTable : Option FwRscEpt)
    (services : List MicaService) (announcements : List Announcement) (events : List Event)
    (successful : ∀ svc ∈ services, svc.Registrable)
    (inOrder : events.filterMap Event.service? = services)
    (inAnyOrder : (events.filterMap Event.announcement?).Perm announcements) :
    let final := (Host.started id run own rscTable).run events
    final.client.services = services ∧
      final.client.binds.Perm (announcements.filterMap fun announcement =>
        (earliest id run services announcement).map
          (·, announcement.remoteEpt ⟨id, run⟩)) ∧
      final.remoteEptList.Perm
        ((announcements.filter fun announcement =>
          (earliest id run services announcement).isNone).map (·.remoteEpt ⟨id, run⟩)) := by
  intro final
  have serving : (Host.started id run own rscTable).Serving :=
    ⟨rfl, by simp [Host.started, micaStart]⟩
  have refines : final.registry = (Rendezvous.Registry.holding []).run (MicaService.accepts id)
      (events.map (Event.abstract ⟨id, run⟩)) :=
    registry_run serving events (by rwa [inOrder])
  have subscribers : (events.map (Event.abstract ⟨id, run⟩)).filterMap
      Rendezvous.Event.subscriber? = services := by
    rw [List.filterMap_map, ← inOrder]
    congr 1
    funext event
    cases event <;> rfl
  have items : ((events.map (Event.abstract ⟨id, run⟩)).filterMap Rendezvous.Event.item?).Perm
      (announcements.map (·.remoteEpt ⟨id, run⟩)) := by
    have itemsEq : (events.map (Event.abstract ⟨id, run⟩)).filterMap Rendezvous.Event.item? =
        (events.filterMap Event.announcement?).map (·.remoteEpt ⟨id, run⟩) := by
      rw [List.filterMap_map, List.map_filterMap]
      congr 1
      funext event
      cases event <;> rfl
    rw [itemsEq]
    exact inAnyOrder.map _
  have settled := Rendezvous.run_holding (MicaService.accepts id) [] subscribers items
  rw [← refines] at settled
  refine ⟨settled.1, ?_, ?_⟩
  · simpa [Host.registry, Rendezvous.assigned, Rendezvous.firstMatch, earliest,
      List.filterMap_map, Function.comp_def] using settled.2.1
  · simpa [Host.registry, Rendezvous.unmatched, Rendezvous.firstMatch, earliest,
      List.filter_map, Function.comp_def] using settled.2.2

/-- The announcement of an endpoint named "a" with address 7. -/
def announcementA : Announcement := ⟨⟨[97], by decide⟩, 7, by decide⟩

/-- A service that matches every endpoint and creates none. -/
def matchAll : MicaService where
  init := none
  remove := false
  rpmsgNsMatch := some fun _ _ _ _ => true
  rpmsgNsBindCb := some fun _ _ _ _ device => device

theorem binds_run_earliest_matchAll :
    ((Host.started 0 0 [] none).run
      [.announce announcementA, .register matchAll, .register matchAll]).client.binds.Perm
        [(0, announcementA.remoteEpt ⟨0, 0⟩)] := by
  have settled := binds_run_earliest 0 0 [] none [matchAll, matchAll] [announcementA]
    [.announce announcementA, .register matchAll, .register matchAll]
      (by simp [matchAll, MicaService.Registrable])
    rfl (List.Perm.refl _)
  exact settled.2.1

end Endpoint

end Mica
