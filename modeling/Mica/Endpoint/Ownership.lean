import Mica.Endpoint.Services
import Mica.Lib.Run

/-!
# Whose endpoints a client binds

All clients of one micad. Each has its own services, rpmsg device and resource
table, but the endpoints that wait for a service are in one list,
`remote_ept_list`, without a note whose they are, and `mica_stop` leaves the
list as it is. `mica_ns_bind_cb` finds its client through the device; a
registration walks over the endpoints of everybody.

So a bind callback is called for a foreign or a stale endpoint exactly when a
service is registered while such an endpoint is waiting and matches. What the callback
then does is of no importance here; the terminals, which are numbered for all clients
together, are those of one client.
-/

namespace Mica

namespace Endpoint

/-- The state of micad; a client is at the index of its `id`. -/
structure Micad where
  clients : ℕ → Client
  remoteEptList : List RemoteEpt
  ids : ∀ index, (clients index).id = index

namespace Micad

def host (micad : Micad) (index : ℕ) : Host := ⟨micad.clients index, micad.remoteEptList⟩

/-- Put back what a call on one client has changed. -/
def put (micad : Micad) (index : ℕ) (host : Host) (sameId : host.client.id = index) : Micad where
  clients := Function.update micad.clients index host.client
  remoteEptList := host.remoteEptList
  ids := by
    intro other
    by_cases same : other = index
    · rw [same, Function.update_self]
      exact sameId
    · rw [Function.update_of_ne same]
      exact micad.ids other

end Micad

inductive MicadEvent
  | announce (index : ℕ) (name : CString) (dest : UInt32)
  | restore (index : ℕ) (name : CString) (addr destAddr : UInt32)
  | register (index : ℕ) (svc : MicaService)
  | start (index : ℕ) (own : List RpmsgEndpoint) (rscTable : Option FwRscEpt)
  | stop (index : ℕ)

theorem id_micaNsBindCb (name : CString) (dest : UInt32) (host : Host) :
    (micaNsBindCb name dest host).client.id = host.client.id := by
  simp only [micaNsBindCb]
  split <;> rfl

namespace Micad

def step (micad : Micad) : MicadEvent → Micad
  | .announce index name dest =>
      -- OpenAMP delivers announcements through the device of a running client
      if (micad.clients index).state = .running then
        micad.put index (micaNsBindCb name dest (micad.host index)) (by
          rw [id_micaNsBindCb]
          exact micad.ids index)
      else micad
  | .restore index name addr destAddr =>
      { micad with
        remoteEptList := registerRemoteEpt (micad.clients index).origin name addr destAddr
          micad.remoteEptList }
  | .register index svc =>
      micad.put index ((micad.host index).step (.register svc)) (by
        rw [(origin_step _ _).1]
        exact micad.ids index)
  | .start index own rscTable =>
      micad.put index
        { micad.host index with client := micaStart own rscTable (micad.clients index) }
        (micad.ids index)
  | .stop index =>
      micad.put index { micad.host index with client := micaStop (micad.clients index) }
        (micad.ids index)

/-- No client has been started. -/
def idle : Micad where
  clients index := ⟨index, .offline, [], noTerminals, [], none, 0, []⟩
  remoteEptList := []
  ids _ := rfl

end Micad

/-- The callback was called for an endpoint of this client in its current run. -/
def OwnBind (index : ℕ) : Callback → Prop
  | .bind run _ ept => ept.origin = ⟨index, run⟩
  | _ => True

def Client.OwnBinds (index : ℕ) (client : Client) : Prop :=
  ∀ callback ∈ client.callbacks, OwnBind index callback

/-- Every bind callback so far was called for an own endpoint of the client. -/
def Micad.OwnBinds (micad : Micad) : Prop :=
  ∀ index, (micad.clients index).OwnBinds index

/-- The waiting endpoints the service would be bound to are the client's own. -/
def MatchesOwn (micad : Micad) (index : ℕ) (svc : MicaService) : Prop :=
  (micad.clients index).state = .running → svc.rpmsgNsBindCb.isSome = true →
    ∀ ept ∈ micad.remoteEptList, svc.accepts index ept = true →
      ept.origin = (micad.clients index).origin

/-! ## One step -/

@[simp]
theorem ownBind_bind {index run position : ℕ} {ept : RemoteEpt} :
    OwnBind index (.bind run position ept) ↔ ept.origin = ⟨index, run⟩ := Iff.rfl

theorem ownBinds_note {index : ℕ} {client : Client} (callback : Callback)
    (notBind : OwnBind index callback) :
    (client.note callback).OwnBinds index ↔ client.OwnBinds index := by
  simp only [Client.OwnBinds, Client.note, List.forall_mem_append, List.forall_mem_singleton,
    notBind, and_true]

theorem ownBinds_initService {index : ℕ} {client : Client} {svc : MicaService} :
    (client.initService svc).OwnBinds index ↔ client.OwnBinds index := by
  simp only [Client.initService]
  split
  · exact ownBinds_note (.init _) trivial
  · exact Iff.rfl

theorem ownBinds_bindAll {index position : ℕ} {client : Client} {bindCb : NsBindCb}
    {epts : List RemoteEpt} :
    (client.bindAll position bindCb epts).OwnBinds index ↔
      client.OwnBinds index ∧ ∀ ept ∈ epts, ept.origin = ⟨index, client.run⟩ := by
  simp only [Client.OwnBinds, Client.callbacks_bindAll, List.forall_mem_append,
    List.forall_mem_map, ownBind_bind]

theorem ownBinds_register_iff (host : Host) (svc : MicaService) :
    (host.step (.register svc)).client.OwnBinds host.client.id ↔
      host.client.OwnBinds host.client.id ∧
        (host.client.state = .running → svc.rpmsgNsBindCb.isSome = true →
          ∀ ept ∈ host.remoteEptList, svc.accepts host.client.id ept = true →
            ept.origin = host.client.origin) := by
  by_cases running : host.client.state = .running
  · by_cases registrable : svc.Registrable
    · have registered : (host.step (.register svc)).client.OwnBinds host.client.id ↔
          host.client.OwnBinds host.client.id ∧
            ∀ ept ∈ host.remoteEptList.filter (svc.accepts host.client.id),
              ept.origin = host.client.origin := by
        simp only [Host.step, micaRegisterService_eq running registrable]
        refine ownBinds_bindAll.trans (and_congr ownBinds_initService ?_)
        rw [Client.run_initService]
        rfl
      rw [registered]
      refine and_congr_right fun _ => ⟨?_, ?_⟩
      · intro own _ _ ept eptMem accepted
        exact own ept (List.mem_filter.mpr ⟨eptMem, accepted⟩)
      · intro own ept eptMem
        rcases List.mem_filter.mp eptMem with ⟨eptMem, accepted⟩
        refine own running (registrable ?_) ept eptMem accepted
        cases nsMatch : svc.rpmsgNsMatch with
        | none => simp [MicaService.accepts, nsMatch] at accepted
        | some _ => rfl
    · have rejected := registrable
      simp only [MicaService.Registrable, Classical.not_imp,
        Option.not_isSome_iff_eq_none] at rejected
      rcases rejected with ⟨hasMatch, noBind⟩
      rcases Option.isSome_iff_exists.mp hasMatch with ⟨nsMatch, nsMatchEq⟩
      have unchanged : (host.step (.register svc)).client.OwnBinds host.client.id ↔
          host.client.OwnBinds host.client.id := by
        simp only [Host.step, micaRegisterService, running, nsMatchEq, noBind, ne_eq,
          not_true_eq_false, if_false]
        rw [← Client.initService]
        split
        · rw [ownBinds_note (.remove _) trivial, ownBinds_initService]
        · exact ownBinds_initService
      simp [unchanged, noBind]
  · simp [Host.step, micaRegisterService, running]

theorem ownBinds_micaNsBindCb_iff (name : CString) (dest : UInt32) (host : Host) :
    (micaNsBindCb name dest host).client.OwnBinds host.client.id ↔
      host.client.OwnBinds host.client.id := by
  simp only [micaNsBindCb]
  split
  · simp only [Client.OwnBinds, Client.bind, List.forall_mem_append, List.forall_mem_singleton,
      ownBind_bind, Client.origin, and_true]
  · exact Iff.rfl
  · exact Iff.rfl

theorem ownBinds_micaStop_iff (index : ℕ) (client : Client) :
    (micaStop client).OwnBinds index ↔ client.OwnBinds index := by
  simp only [Client.OwnBinds, micaStop, micaUnregisterAllServices, List.forall_mem_append,
    List.forall_mem_map]
  exact and_iff_left fun _ _ => trivial

theorem ownBinds_put_iff (micad : Micad) (index : ℕ) (host : Host)
    (sameId : host.client.id = index)
    (property : Prop)
    (here : host.client.OwnBinds index ↔ (micad.clients index).OwnBinds index ∧ property) :
    (micad.put index host sameId).OwnBinds ↔ micad.OwnBinds ∧ property := by
  have putSelf : (micad.put index host sameId).clients index = host.client :=
    Function.update_self _ _ _
  have putOther : ∀ other, other ≠ index →
      (micad.put index host sameId).clients other = micad.clients other :=
    fun other different => Function.update_of_ne different _ _
  constructor
  · intro all
    have atIndex := all index
    rw [putSelf, here] at atIndex
    refine ⟨?_, atIndex.2⟩
    intro other
    by_cases same : other = index
    · rw [same]
      exact atIndex.1
    · rw [← putOther other same]
      exact all other
  · rintro ⟨all, property⟩ other
    by_cases same : other = index
    · rw [same, putSelf]
      exact here.mpr ⟨all index, property⟩
    · rw [putOther other same]
      exact all other

/-- What an event has to respect to bind own endpoints only. -/
def MicadEvent.Respects (micad : Micad) : MicadEvent → Prop
  | .register index svc => MatchesOwn micad index svc
  | _ => True

theorem ownBinds_step_iff (micad : Micad) (event : MicadEvent) :
    (micad.step event).OwnBinds ↔ micad.OwnBinds ∧ event.Respects micad := by
  cases event with
  | announce index name dest =>
      have here := ownBinds_micaNsBindCb_iff name dest (micad.host index)
      rw [show (micad.host index).client.id = index from micad.ids index] at here
      simp only [Micad.step]
      split
      · exact ownBinds_put_iff micad index _ _ _ (here.trans (and_iff_left trivial).symm)
      · exact (and_iff_left trivial).symm
  | restore index name addr destAddr => exact (and_iff_left trivial).symm
  | register index svc =>
      have here := ownBinds_register_iff (micad.host index) svc
      rw [show (micad.host index).client.id = index from micad.ids index] at here
      exact ownBinds_put_iff micad index _ ((origin_step _ _).1.trans (micad.ids index)) _ here
  | start index own rscTable =>
      exact ownBinds_put_iff micad index _ (micad.ids index) _ (and_iff_left trivial).symm
  | stop index =>
      exact ownBinds_put_iff micad index _ (micad.ids index) _
        ((ownBinds_micaStop_iff index _).trans (and_iff_left trivial).symm)

/-! ## Runs -/

/--
Over a whole run from the idle daemon, bind callbacks are called for own
endpoints of the client in its current run only, exactly if no registration
finds a foreign or stale endpoint that matches.
-/
theorem ownBinds_run_iff (events : List MicadEvent) :
    (events.foldl Micad.step Micad.idle).OwnBinds ↔
      Run.AllSteps Micad.step Micad.idle (fun micad event => event.Respects micad) events := by
  induction events using List.reverseRecOn with
  | nil =>
      refine iff_of_true ?_ Run.allSteps_nil
      intro index callback callbackMem
      exact absurd callbackMem List.not_mem_nil
  | append_singleton events last ih =>
      rw [Run.foldl_concat, ownBinds_step_iff, Run.allSteps_concat, ih]

/-- Client 1 announces a tty, then client 0 registers its tty service. -/
def foreignTty : List MicadEvent :=
  [.start 0 [] none, .start 1 [] none, .announce 1 rpmsgTtyName 1025,
    .register 0 (rpmsgTtyService fixedAmp)]

/-- A tty announced before client 0 was stopped is still there after its restart. -/
def staleTty : List MicadEvent :=
  [.start 0 [] none, .announce 0 rpmsgTtyName 1025, .stop 0, .start 0 [] none,
    .register 0 (rpmsgTtyService fixedAmp)]

theorem not_ownBinds_tty :
    ¬(foreignTty.foldl Micad.step Micad.idle).OwnBinds ∧
      ¬(staleTty.foldl Micad.step Micad.idle).OwnBinds := by
  refine ⟨?_, ?_⟩
  · intro own
    have foreign := own 0 (.bind 0 0 ⟨rpmsgTtyName, 1025, rpmsgAddrAny, ⟨1, 0⟩⟩) (by decide)
    exact absurd foreign (by simp)
  · intro own
    have stale := own 0 (.bind 1 0 ⟨rpmsgTtyName, 1025, rpmsgAddrAny, ⟨0, 0⟩⟩) (by decide)
    exact absurd stale (by simp)

end Endpoint

end Mica
