import Mica.Endpoint.Recovery
import Mica.Lib.Run
import Mathlib.Data.List.Induction
import Mathlib.Data.List.Nodup

/-!
# Durability of the endpoint table

Runs of registrations, announcements and crashes of the host. A crash loses the
memory of micad; the endpoint table lies in shared memory and survives. The new
process restores the endpoints it finds in the table and binds them again one
service after another.

The table is rewritten from the endpoints of the device each time an endpoint is
bound. Endpoints that were restored and wait for their service are not among
them, unless every device has them, as OpenAMP's name service endpoint. So the
table keeps what it recorded exactly as long as every call that binds an endpoint
creates all restored endpoints that were missing; a registration that binds some of
them and leaves others drops the others, and a second crash before they are bound
loses them.
-/

namespace Mica

namespace Endpoint

/-- A call of the client or a crash of the host followed by its restart. -/
inductive HostEvent
  | call (event : Event)
  | crash

namespace HostEvent

def service? : HostEvent → Option MicaService
  | call event => event.service?
  | crash => none

def announcement? : HostEvent → Option Announcement
  | call event => event.announcement?
  | crash => none

end HostEvent

namespace Host

/-- The process that is started after a crash. -/
def restart (own : List RpmsgEndpoint) (host : Host) : Host :=
  match host.client.rscTable with
  | some table => restarted host.client.id host.client.run own table
  | none => started host.client.id host.client.run own none

def liveStep (own : List RpmsgEndpoint) (host : Host) : HostEvent → Host
  | .call event => host.step event
  | .crash => host.restart own

def live (own : List RpmsgEndpoint) (host : Host) (events : List HostEvent) : Host :=
  events.foldl (liveStep own) host

theorem live_concat (own : List RpmsgEndpoint) (host : Host) (events : List HostEvent)
    (event : HostEvent) :
    host.live own (events ++ [event]) = (host.live own events).liveStep own event := by
  simp [live]

/-- The entries of the endpoint table. -/
def recorded (host : Host) : List EptInfo :=
  match host.client.rscTable with
  | some table => table.endpoints
  | none => []

end Host

/-- The table entry of a waiting endpoint. -/
def RemoteEpt.info (ept : RemoteEpt) : EptInfo := ⟨ept.name, ept.addr, ept.destAddr⟩

/-- The endpoint was restored from the table: its local address is known. -/
def RemoteEpt.isRestored (ept : RemoteEpt) : Bool := ept.destAddr ≠ rpmsgAddrAny

/-- The endpoint was restored and the device of a new process does not have it by itself. -/
def RemoteEpt.IsMissing (own : List RpmsgEndpoint) (ept : RemoteEpt) : Prop :=
  ept.isRestored = true ∧ ept.info ∉ boundInfos own

instance (own : List RpmsgEndpoint) (ept : RemoteEpt) : Decidable (ept.IsMissing own) :=
  inferInstanceAs (Decidable (_ ∧ _))

/--
What is once recorded is recorded in every later state, and a crash there is
followed by a restart that has it in `remote_ept_list`.
-/
def Durable (own : List RpmsgEndpoint) (start : Host) (events : List HostEvent) : Prop :=
  ∀ early late, early <+: late → late <+: events →
    ∀ info ∈ (start.live own early).recorded,
      info ∈ (start.live own late).recorded ∧
        ∃ ept ∈ (start.live own (late ++ [.crash])).remoteEptList, ept.info = info

/-- The service accepts the waiting endpoint and has a terminal left for it if it makes terminals.
-/
def Host.Serves (amp : OpenAmp) (host : Host) (svc : MicaService) (ept : RemoteEpt) : Prop :=
  svc.accepts host.client.id ept = true ∧
    (svc.IsTty amp →
      ept ∈ (host.remoteEptList.filter (svc.accepts host.client.id)).take host.client.ttys.free)

/--
A registration whose service accepts some waiting endpoint serves all that are
missing; an announcement that some service accepts finds none that is missing.
-/
def HostEvent.Rebinds (amp : OpenAmp) (own : List RpmsgEndpoint) (host : Host) : HostEvent → Prop
  | .call (.register svc) =>
      (∃ ept ∈ host.remoteEptList, svc.accepts host.client.id ept = true) →
        ∀ ept ∈ host.remoteEptList, ept.IsMissing own → host.Serves amp svc ept
  | .call (.announce announcement) =>
      (∃ svc ∈ host.client.services,
        svc.accepts host.client.id (announcement.remoteEpt host.client.origin) = true) →
        ∀ ept ∈ host.remoteEptList, ¬ept.IsMissing own
  | .crash => True

def RebindsAtOnce (amp : OpenAmp) (own : List RpmsgEndpoint) (start : Host)
    (events : List HostEvent) : Prop :=
  Run.AllSteps (Host.liveStep own) start (fun host event => event.Rebinds amp own host) events

/-- The runs the table is made for, on a device that is created with the endpoints `own`. -/
structure WellFormed (amp : OpenAmp) (id run : ℕ) (own : List RpmsgEndpoint)
    (events : List HostEvent) : Prop where
  creates : ∀ svc ∈ events.filterMap HostEvent.service?, svc.CreatesEpt amp
  foreign : ∀ svc ∈ events.filterMap HostEvent.service?, ∀ info ∈ boundInfos own,
    svc.accepts id (info.restored ⟨id, run⟩) = false
  names : ((boundInfos own).map EptInfo.name ++
    (events.filterMap HostEvent.announcement?).map Announcement.name).Nodup
  addresses : ((boundInfos own).map EptInfo.addr ++
    (events.filterMap HostEvent.announcement?).map Announcement.dest).Nodup
  nonzero : ∀ addr ∈ (boundInfos own).map EptInfo.addr ++
    (events.filterMap HostEvent.announcement?).map Announcement.dest, addr ≠ 0
  few : (boundInfos own).length + (events.filterMap HostEvent.announcement?).length ≤ maxNumOfEpts

/-! ## The endpoints of a device and their records -/

/-- The endpoint of the host was created for the endpoint of the remote. -/
structure CreatedFor (ept : RemoteEpt) (new : RpmsgEndpoint) : Prop where
  name : new.name = ept.name
  destAddr : new.destAddr = ept.addr
  addr_ne_any : new.addr ≠ rpmsgAddrAny
  addr : ept.isRestored = true → new.addr = ept.destAddr

theorem createEpts_eq (amp : OpenAmp) (rdev : List RpmsgEndpoint) (epts : List RemoteEpt) :
    ∃ created, createEpts amp rdev epts = rdev ++ created ∧
      List.Forall₂ CreatedFor epts created := by
  induction epts generalizing rdev with
  | nil => exact ⟨[], by simp [createEpts], List.Forall₂.nil⟩
  | cons ept rest ih =>
      rcases ih (rpmsgCreateEpt amp ept.name ept.destAddr ept.addr rdev) with
        ⟨created, createdEq, createdFor⟩
      refine ⟨amp.newEpt rdev ept.name ept.destAddr ept.addr :: created, ?_, ?_⟩
      · simp only [createEpts, List.foldl_cons] at createdEq ⊢
        rw [createdEq]
        simp [rpmsgCreateEpt]
      · refine List.Forall₂.cons ⟨rfl, rfl, ?_, ?_⟩ createdFor
        · simp only [OpenAmp.newEpt]
          split
          · exact amp.localAddr_ne_any rdev
          · assumption
        · intro restored
          simp only [RemoteEpt.isRestored, decide_eq_true_eq] at restored
          simp [OpenAmp.newEpt, restored]

theorem CreatedFor.isBound {ept : RemoteEpt} {new : RpmsgEndpoint}
    (createdFor : CreatedFor ept new) : new.isBound = true ↔ ept.addr ≠ rpmsgAddrAny := by
  simp [RpmsgEndpoint.isBound, createdFor.addr_ne_any, createdFor.destAddr]

theorem restorable_of_mem_boundInfos {rdev : List RpmsgEndpoint} {info : EptInfo}
    (infoMem : info ∈ boundInfos rdev) :
    info.name.length < rpmsgNameSize ∧ info.addr ≠ rpmsgAddrAny ∧
      info.destAddr ≠ rpmsgAddrAny := by
  rcases List.mem_map.mp infoMem with ⟨ept, eptMem, rfl⟩
  have isBound := (List.mem_filter.mp eptMem).2
  simp only [RpmsgEndpoint.isBound, decide_eq_true_eq] at isBound
  exact ⟨CString.length_strlcpy_lt (by decide) _, isBound.2, isBound.1⟩

section

variable {amp : OpenAmp} {own : List RpmsgEndpoint}

variable (amp own) in
theorem names_boundInfos_sublist {epts : List RemoteEpt}
    (short : ∀ ept ∈ epts, ept.name.length < rpmsgNameSize) :
    ((boundInfos (createEpts amp own epts)).map EptInfo.name).Sublist
      ((boundInfos own).map EptInfo.name ++ epts.map RemoteEpt.name) := by
  rcases createEpts_eq amp own epts with ⟨created, createdEq, createdFor⟩
  rw [createdEq, boundInfos_append, List.map_append]
  apply List.Sublist.append_left
  clear createdEq
  induction createdFor with
  | nil => exact List.Sublist.refl _
  | @cons ept new epts created first _ ih =>
      have later := ih (fun other otherMem => short other (List.mem_cons_of_mem _ otherMem))
      have name : new.info.name = ept.name := by
        simp only [RpmsgEndpoint.info, first.name]
        exact CString.strlcpy_of_lt (short ept List.mem_cons_self)
      simp only [boundInfos, List.filter_cons, List.map_cons] at later ⊢
      cases new.isBound with
      | true =>
          simp only [if_true, List.map_cons, name]
          exact later.cons_cons _
      | false => exact later.cons _

theorem mem_boundInfos_of_restored {epts : List RemoteEpt} {ept : RemoteEpt} (eptMem : ept ∈ epts)
    (restored : ept.isRestored = true) (addr : ept.addr ≠ rpmsgAddrAny)
    (short : ept.name.length < rpmsgNameSize) :
    ept.info ∈ boundInfos (createEpts amp own epts) := by
  rcases createEpts_eq amp own epts with ⟨created, createdEq, createdFor⟩
  rcases List.forall₂_iff_get.mp createdFor with ⟨sameLength, each⟩
  rcases List.getElem_of_mem eptMem with ⟨index, inEpts, rfl⟩
  have first := each index inEpts (sameLength ▸ inEpts)
  rw [createdEq, boundInfos_append, List.mem_append]
  right
  refine List.mem_map.mpr ⟨created.get ⟨index, sameLength ▸ inEpts⟩, ?_, ?_⟩
  · exact List.mem_filter.mpr ⟨List.get_mem _ _, first.isBound.mpr addr⟩
  · have name := CString.strlcpy_of_lt short
    simp only [List.get_eq_getElem] at first name
    simp [RpmsgEndpoint.info, RemoteEpt.info, first.name, first.destAddr, first.addr restored, name]

theorem exists_of_mem_boundInfos {epts : List RemoteEpt} {info : EptInfo}
    (infoMem : info ∈ boundInfos (createEpts amp own epts)) :
    info ∈ boundInfos own ∨
      ∃ ept ∈ epts, info.name = ept.name.strlcpy rpmsgNameSize ∧ info.addr = ept.addr := by
  rcases createEpts_eq amp own epts with ⟨created, createdEq, createdFor⟩
  rw [createdEq, boundInfos_append, List.mem_append] at infoMem
  refine infoMem.imp_right ?_
  intro infoMem
  rcases List.mem_map.mp infoMem with ⟨new, newMem, rfl⟩
  rcases List.getElem_of_mem (List.mem_filter.mp newMem).1 with ⟨index, inCreated, rfl⟩
  rcases List.forall₂_iff_get.mp createdFor with ⟨sameLength, each⟩
  have first := each index (sameLength ▸ inCreated) inCreated
  simp only [List.get_eq_getElem] at first
  refine ⟨_, List.getElem_mem _, ?_, first.destAddr⟩
  simp [RpmsgEndpoint.info, first.name]

theorem boundInfos_createEpts_append (epts more : List RemoteEpt) :
    boundInfos (createEpts amp own epts) ⊆ boundInfos (createEpts amp own (epts ++ more)) := by
  rw [createEpts_append]
  rcases createEpts_eq amp (createEpts amp own epts) more with ⟨created, createdEq, _⟩
  rw [createdEq, boundInfos_append]
  exact List.subset_append_left _ _

theorem recorded_of_bound {table : FwRscEpt} {created : List RemoteEpt} {host : Host}
    (tracks : Tracks amp own table created host.client) (bound : host.client.boundEpts ≠ [])
    (short : ∀ ept ∈ created, ept.name.length < rpmsgNameSize)
    (few : (boundInfos own).length + created.length ≤ maxNumOfEpts) :
    host.recorded = boundInfos (createEpts amp own created) := by
  have length : (boundInfos host.client.rdev).length ≤ maxNumOfEpts := by
    have sublist := (names_boundInfos_sublist amp own short).length_le
    rw [List.length_append, List.length_map, List.length_map, List.length_map,
      ← tracks.rdev] at sublist
    omega
  rcases rscUpdateEptTable_eq table host.client.rdev length with ⟨updated, updatedEq, infos⟩
  have rscTable := tracks.rscTable
  rw [if_neg bound, updatedEq] at rscTable
  rw [Host.recorded, rscTable]
  change updated.endpoints = _
  rw [infos, tracks.rdev]

end

/-! ## The invariant -/

/-- The endpoint was announced or belongs to every device, and can be recorded and restored. -/
structure Known (own : List RpmsgEndpoint) (announced : List Announcement) (ept : RemoteEpt) :
    Prop where
  listed : ept.info ∈ boundInfos own ∨ ept.name ∈ announced.map Announcement.name
  short : ept.name.length < rpmsgNameSize
  nonzero : ept.addr ≠ 0
  bound : ept.isRestored = true → ept.addr ≠ rpmsgAddrAny

theorem Known.mem_names {own : List RpmsgEndpoint} {announced : List Announcement}
    {ept : RemoteEpt} (known : Known own announced ept) :
    ept.name ∈ (boundInfos own).map EptInfo.name ++ announced.map Announcement.name := by
  rw [List.mem_append]
  exact known.listed.imp_left fun infoMem => List.mem_map_of_mem infoMem

/-- The run so far, with the endpoints that the process has created. -/
structure Consistent (amp : OpenAmp) (id : ℕ) (own : List RpmsgEndpoint)
    (announced : List Announcement) (created : List RemoteEpt) (host : Host) : Prop where
  isId : host.client.id = id
  serving : host.Serving
  creates : ∀ svc ∈ host.client.services, svc.CreatesEpt amp
  tracks : ∃ table, Tracks amp own table created host.client
  createdBound : created.Sublist host.client.boundEpts
  boundAnnounced : ∀ ept ∈ host.client.boundEpts, ept.name ∈ announced.map Announcement.name
  distinct : ((host.client.boundEpts ++ host.remoteEptList).map RemoteEpt.name).Nodup
  known : ∀ ept ∈ host.client.boundEpts ++ host.remoteEptList, Known own announced ept

/--
The process has lost nothing: either it has bound nothing yet and the table
holds exactly the restored endpoints, or no waiting endpoint is missing any more.
-/
def Intact (own : List RpmsgEndpoint) (host : Host) : Prop :=
  host.client.boundEpts = [] ∧ host.recorded.Perm
      ((host.remoteEptList.filter RemoteEpt.isRestored).map RemoteEpt.info) ∨
    host.client.boundEpts ≠ [] ∧ ∀ ept ∈ host.remoteEptList, ¬ept.IsMissing own

/-- The endpoint a call announces. -/
def Event.fresh (origin : Origin) (event : Event) : List RemoteEpt :=
  (event.announcement?.map (·.remoteEpt origin)).toList

/-- What a run has to respect when it makes a call. -/
structure Admissible (amp : OpenAmp) (id : ℕ) (own : List RpmsgEndpoint)
    (announced : List Announcement) (event : Event) : Prop where
  creates : ∀ svc, event.service? = some svc → svc.CreatesEpt amp
  foreign : ∀ svc, event.service? = some svc → ∀ ept : RemoteEpt, ept.info ∈ boundInfos own →
    svc.accepts id ept = false
  newName : ∀ announcement, event.announcement? = some announcement →
    announcement.name ∉ (boundInfos own).map EptInfo.name ++ announced.map Announcement.name
  nonzero : ∀ announcement, event.announcement? = some announcement → announcement.dest ≠ 0

theorem Admissible.fresh_known {amp : OpenAmp} {id : ℕ} {own : List RpmsgEndpoint}
    {announced : List Announcement} {event : Event}
    (admissible : Admissible amp id own announced event) {origin : Origin} {ept : RemoteEpt}
    (eptMem : ept ∈ event.fresh origin) :
    Known own (announced ++ event.announcement?.toList) ept ∧ ept.isRestored = false ∧
      ept.name ∉ (boundInfos own).map EptInfo.name ++ announced.map Announcement.name ∧
      ept.name ∈ (announced ++ event.announcement?.toList).map Announcement.name := by
  simp only [Event.fresh, Option.mem_toList, Option.map_eq_some_iff] at eptMem
  rcases eptMem with ⟨announcement, isAnnounced, rfl⟩
  have notRestored : (announcement.remoteEpt origin).isRestored = false := by
    simp [RemoteEpt.isRestored, Announcement.remoteEpt]
  have isNow : (announcement.remoteEpt origin).name ∈
      (announced ++ event.announcement?.toList).map Announcement.name := by
    simp [isAnnounced, Announcement.remoteEpt]
  refine ⟨⟨Or.inr isNow, announcement.fits, admissible.nonzero announcement isAnnounced, ?_⟩,
    notRestored, admissible.newName announcement isAnnounced, isNow⟩
  intro restored
  rw [notRestored] at restored
  exact absurd restored (by decide)

/-- What a call does: `new` is bound, and of it `granted` is created. -/
structure Effect (amp : OpenAmp) (own : List RpmsgEndpoint) (announced : List Announcement)
    (host : Host) (event : Event) (new granted : List RemoteEpt) : Prop where
  bound : (host.step event).client.boundEpts = host.client.boundEpts ++ new
  perm : (new ++ (host.step event).remoteEptList).Perm
    (host.remoteEptList ++ event.fresh host.client.origin)
  grantedNew : granted.Sublist new
  announced : ∀ ept ∈ new,
    ept.name ∈ (announced ++ event.announcement?.toList).map Announcement.name
  tracks : ∀ table created, Tracks amp own table created host.client →
    Tracks amp own table (created ++ granted) (host.step event).client
  rebinds : (HostEvent.call event).Rebinds amp own host ↔
    (new ≠ [] → ∀ ept ∈ host.remoteEptList, ept.IsMissing own → ept ∈ granted)

namespace Consistent

variable {amp : OpenAmp} {id : ℕ} {own : List RpmsgEndpoint} {announced : List Announcement}
  {created : List RemoteEpt} {host : Host}

theorem effect_register (consistent : Consistent amp id own announced created host)
    {svc : MicaService} (admissible : Admissible amp id own announced (.register svc)) :
    ∃ new granted, Effect amp own announced host (.register svc) new granted := by
  have creates := admissible.creates svc rfl
  have running := consistent.serving.running
  rcases boundEpts_register running creates.registrable with ⟨bound, waiting⟩
  rcases consistent.tracks with ⟨table, tracks⟩
  rcases tracks.register running creates with ⟨granted, grants, -⟩
  refine ⟨host.remoteEptList.filter (svc.accepts host.client.id), granted,
    bound, ?_, ?_, ?_, ?_, ?_⟩
  · rw [waiting]
    simpa [Event.fresh, Event.announcement?] using
      List.filter_append_perm (svc.accepts host.client.id) host.remoteEptList
  · exact grants.sublist
  · intro ept eptMem
    rcases List.mem_filter.mp eptMem with ⟨eptMem, accepted⟩
    rcases (consistent.known ept (List.mem_append_right _ eptMem)).listed with infoMem | isAnnounced
    · rw [consistent.isId, admissible.foreign svc rfl ept infoMem] at accepted
      exact absurd accepted (by decide)
    · rw [List.map_append]
      exact List.mem_append_left _ isAnnounced
  · intro table created tracks
    rcases tracks.register running creates with ⟨other, otherGrants, after, -⟩
    rwa [grants.unique otherGrants]
  · have nonempty : host.remoteEptList.filter (svc.accepts host.client.id) ≠ [] ↔
        ∃ ept ∈ host.remoteEptList, svc.accepts host.client.id ept = true := by
      simp
    rw [HostEvent.Rebinds, nonempty]
    refine imp_congr_right fun _ => forall_congr' fun ept => imp_congr_right fun eptMem =>
      imp_congr_right fun _ => ?_
    rw [grants.mem_iff, List.mem_filter, Host.Serves, and_iff_right eptMem]

theorem effect_announce (consistent : Consistent amp id own announced created host)
    {announcement : Announcement}
    (admissible : Admissible amp id own announced (.announce announcement)) :
    ∃ new granted, Effect amp own announced host (.announce announcement) new granted := by
  rcases announce_cases consistent.serving announcement with
    ⟨position, svc, svcMem, accepted, step⟩ | ⟨noneAccepts, step⟩
  · rcases consistent.tracks with ⟨table, tracks⟩
    have creates := consistent.creates svc svcMem (MicaService.isSome_of_accepts accepted)
    rcases tracks.bindAll creates position [announcement.remoteEpt host.client.origin] with
      ⟨granted, grants, -⟩
    have fresh : ∀ ept ∈ [announcement.remoteEpt host.client.origin], _ :=
      fun ept eptMem => admissible.fresh_known eptMem
    refine ⟨[announcement.remoteEpt host.client.origin], granted, ?_, ?_, grants.sublist,
      fun ept eptMem => (fresh ept eptMem).2.2.2, ?_, ?_⟩
    · simp [step, Client.boundEpts]
    · rw [step]
      exact List.perm_append_comm
    · intro table created tracks
      rcases tracks.bindAll creates position [announcement.remoteEpt host.client.origin] with
        ⟨other, otherGrants, after, -⟩
      rw [step, grants.unique otherGrants]
      exact after
    · -- what is announced was not restored, so nothing missing is created
      rw [HostEvent.Rebinds]
      refine ⟨fun rebinds _ ept eptMem missing => ?_, fun rebinds _ ept eptMem missing => ?_⟩
      · exact absurd missing (rebinds ⟨svc, svcMem, accepted⟩ ept eptMem)
      · have isFresh := grants.sublist.subset (rebinds (List.cons_ne_nil _ _) ept eptMem missing)
        rw [RemoteEpt.IsMissing, (fresh ept isFresh).2.1] at missing
        exact absurd missing.1 (by decide)
  · refine ⟨[], [], ?_, ?_, List.Sublist.refl _, ?_, ?_, ?_⟩
    · rw [step, List.append_nil]
    · rw [step]
      exact List.Perm.refl _
    · exact fun _ eptMem => absurd eptMem List.not_mem_nil
    · intro table created tracks
      rw [step, List.append_nil]
      exact tracks
    · refine iff_of_true ?_ (fun nonempty => absurd rfl nonempty)
      rintro ⟨svc, svcMem, accepted⟩
      rw [noneAccepts svc svcMem] at accepted
      exact absurd accepted (by decide)

theorem effect (consistent : Consistent amp id own announced created host) {event : Event}
    (admissible : Admissible amp id own announced event) :
    ∃ new granted, Effect amp own announced host event new granted := by
  cases event with
  | register svc => exact consistent.effect_register admissible
  | announce announcement => exact consistent.effect_announce admissible

theorem length_created_le (consistent : Consistent amp id own announced created host) :
    created.length ≤ announced.length := by
  have distinct := consistent.distinct
  rw [List.map_append] at distinct
  have subset : host.client.boundEpts.map RemoteEpt.name ⊆ announced.map Announcement.name := by
    intro name nameMem
    rcases List.mem_map.mp nameMem with ⟨ept, eptMem, rfl⟩
    exact consistent.boundAnnounced ept eptMem
  have subperm := (List.subperm_of_subset distinct.of_append_left subset).length_le
  rw [List.length_map, List.length_map] at subperm
  exact consistent.createdBound.length_le.trans subperm

theorem known_created (consistent : Consistent amp id own announced created host) {ept : RemoteEpt}
    (eptMem : ept ∈ created) : Known own announced ept :=
  consistent.known ept (List.mem_append_left _ (consistent.createdBound.subset eptMem))

theorem recorded_eq (consistent : Consistent amp id own announced created host)
    (few : (boundInfos own).length + announced.length ≤ maxNumOfEpts)
    (bound : host.client.boundEpts ≠ []) :
    host.recorded = boundInfos (createEpts amp own created) := by
  rcases consistent.tracks with ⟨table, tracks⟩
  apply recorded_of_bound tracks bound
  · intro ept eptMem
    exact (consistent.known_created eptMem).short
  · have length := consistent.length_created_le
    omega

theorem recorded_known (consistent : Consistent amp id own announced created host)
    (intact : Intact own host) (nonzero : ∀ info ∈ boundInfos own, info.addr ≠ 0)
    (few : (boundInfos own).length + announced.length ≤ maxNumOfEpts)
    (origin : Origin) {info : EptInfo} (infoMem : info ∈ host.recorded) :
    (info.restored origin).info = info ∧ (info.restored origin).isRestored = true ∧
      Known own announced (info.restored origin) := by
  have entry : info.name.length < rpmsgNameSize ∧ info.addr ≠ rpmsgAddrAny ∧
      info.destAddr ≠ rpmsgAddrAny ∧ info.addr ≠ 0 ∧
      (info ∈ boundInfos own ∨ info.name ∈ announced.map Announcement.name) := by
    rcases intact with ⟨_, recorded⟩ | ⟨bound, _⟩
    · rcases List.mem_map.mp (recorded.subset infoMem) with ⟨ept, eptMem, rfl⟩
      rcases List.mem_filter.mp eptMem with ⟨eptMem, restored⟩
      have known := consistent.known ept (List.mem_append_right _ eptMem)
      refine ⟨known.short, known.bound restored, ?_, known.nonzero, known.listed⟩
      simpa [RemoteEpt.isRestored, RemoteEpt.info] using restored
    · rw [consistent.recorded_eq few bound] at infoMem
      rcases restorable_of_mem_boundInfos infoMem with ⟨short, addr, destAddr⟩
      refine ⟨short, addr, destAddr, ?_⟩
      rcases exists_of_mem_boundInfos infoMem with isOwn | ⟨ept, eptMem, name, addrEq⟩
      · exact ⟨nonzero info isOwn, Or.inl isOwn⟩
      · have known := consistent.known_created eptMem
        rw [CString.strlcpy_of_lt known.short] at name
        rw [addrEq, name]
        exact ⟨known.nonzero,
          Or.inr (consistent.boundAnnounced ept (consistent.createdBound.subset eptMem))⟩
  rcases entry with ⟨short, addr, destAddr, addrNonzero, listed⟩
  have same : (info.restored origin).info = info := by
    simp [EptInfo.restored, RemoteEpt.info, CString.strlcpy_of_lt short]
  have name : (info.restored origin).name = info.name := congrArg EptInfo.name same
  refine ⟨same, by simp [EptInfo.restored, RemoteEpt.isRestored, destAddr], ?_, ?_, addrNonzero,
    fun _ => addr⟩
  · rwa [same, name]
  · rwa [name]

theorem names_recorded (consistent : Consistent amp id own announced created host)
    (intact : Intact own host)
    (names : ((boundInfos own).map EptInfo.name ++ announced.map Announcement.name).Nodup)
    (few : (boundInfos own).length + announced.length ≤ maxNumOfEpts) :
    (host.recorded.map EptInfo.name).Nodup := by
  have distinct := consistent.distinct
  rw [List.map_append] at distinct
  rcases intact with ⟨_, recorded⟩ | ⟨bound, _⟩
  · rw [(recorded.map EptInfo.name).nodup_iff, List.map_map]
    exact List.Nodup.sublist (List.filter_sublist.map RemoteEpt.name) distinct.of_append_right
  · rw [consistent.recorded_eq few bound]
    refine List.Nodup.sublist (names_boundInfos_sublist amp own
      fun ept eptMem => (consistent.known_created eptMem).short) ?_
    rw [List.nodup_append] at names ⊢
    refine ⟨names.1, distinct.of_append_left.sublist (consistent.createdBound.map _), ?_⟩
    intro name nameMem other otherMem
    rcases List.mem_map.mp otherMem with ⟨ept, eptMem, rfl⟩
    exact names.2.2 name nameMem _
      (consistent.boundAnnounced ept (consistent.createdBound.subset eptMem))

theorem creates_step (consistent : Consistent amp id own announced created host) {event : Event}
    (admissible : Admissible amp id own announced event) :
    (host.step event).Serving ∧ ∀ svc ∈ (host.step event).client.services, svc.CreatesEpt amp := by
  cases event with
  | register svc =>
      have creates := admissible.creates svc rfl
      refine ⟨consistent.serving.register creates.registrable, ?_⟩
      simp only [Host.step, micaRegisterService_eq consistent.serving.running creates.registrable]
      intro other otherMem
      simp only [Client.addService, Client.services_bindAll, Client.services_initService,
        List.mem_append, List.mem_singleton] at otherMem
      rcases otherMem with before | rfl
      · exact consistent.creates other before
      · exact creates
  | announce announcement =>
      refine ⟨consistent.serving.announce announcement, ?_⟩
      rcases announce_cases consistent.serving announcement with ⟨_, _, _, _, step⟩ | ⟨_, step⟩
      · rw [step]
        exact consistent.creates
      · rw [step]
        exact consistent.creates

theorem names_step (consistent : Consistent amp id own announced created host) {event : Event}
    (admissible : Admissible amp id own announced event) (origin : Origin) :
    (((host.client.boundEpts ++ host.remoteEptList) ++ event.fresh origin).map
      RemoteEpt.name).Nodup := by
  rw [List.map_append, List.nodup_append]
  refine ⟨consistent.distinct, ?_, ?_⟩
  · rw [Event.fresh]
    cases event.announcement? <;> simp
  · intro name nameMem other otherMem same
    rcases List.mem_map.mp nameMem with ⟨ept, eptMem, rfl⟩
    rcases List.mem_map.mp otherMem with ⟨new, newMem, rfl⟩
    have newName := (admissible.fresh_known newMem).2.2.1
    rw [← same] at newName
    exact newName (consistent.known ept eptMem).mem_names

theorem step (consistent : Consistent amp id own announced created host) {event : Event}
    (admissible : Admissible amp id own announced event) {new granted : List RemoteEpt}
    (effect : Effect amp own announced host event new granted) :
    Consistent amp id own (announced ++ event.announcement?.toList) (created ++ granted)
      (host.step event) := by
  -- the endpoints after the call are those before it and the announced one
  have all : ((host.step event).client.boundEpts ++ (host.step event).remoteEptList).Perm
      ((host.client.boundEpts ++ host.remoteEptList) ++ event.fresh host.client.origin) := by
    rw [effect.bound, List.append_assoc, List.append_assoc]
    exact effect.perm.append_left _
  have earlier : ∀ {name : CString}, name ∈ announced.map Announcement.name →
      name ∈ (announced ++ event.announcement?.toList).map Announcement.name := by
    intro name nameMem
    rw [List.map_append]
    exact List.mem_append_left _ nameMem
  rcases consistent.tracks with ⟨table, tracks⟩
  rcases consistent.creates_step admissible with ⟨serving, creates⟩
  refine ⟨(origin_step _ _).1.trans consistent.isId, serving, creates,
    ⟨table, effect.tracks table created tracks⟩, ?_, ?_, ?_, ?_⟩
  · rw [effect.bound]
    exact consistent.createdBound.append effect.grantedNew
  · intro ept eptMem
    rw [effect.bound] at eptMem
    rcases List.mem_append.mp eptMem with before | isNew
    · exact earlier (consistent.boundAnnounced ept before)
    · exact effect.announced ept isNew
  · rw [(all.map RemoteEpt.name).nodup_iff]
    exact consistent.names_step admissible host.client.origin
  · intro ept eptMem
    rcases List.mem_append.mp (all.subset eptMem) with before | fresh
    · have known := consistent.known ept before
      exact ⟨known.listed.imp_right earlier, known.short, known.nonzero, known.bound⟩
    · exact (admissible.fresh_known fresh).1

theorem recorded_step_of_nil (consistent : Consistent amp id own announced created host)
    {event : Event} {granted : List RemoteEpt}
    (effect : Effect amp own announced host event [] granted) :
    (host.step event).recorded = host.recorded := by
  rcases consistent.tracks with ⟨table, tracks⟩
  have after := effect.tracks table created tracks
  rw [List.sublist_nil.1 effect.grantedNew, List.append_nil] at after
  have tableEq : (host.step event).client.rscTable = host.client.rscTable := by
    rw [after.rscTable, tracks.rscTable, after.rdev, tracks.rdev, effect.bound, List.append_nil]
  simp only [Host.recorded, tableEq]

theorem intact_step (consistent : Consistent amp id own announced created host)
    (intact : Intact own host) {event : Event}
    (admissible : Admissible amp id own announced event) {new granted : List RemoteEpt}
    (effect : Effect amp own announced host event new granted)
    (rebinds : (HostEvent.call event).Rebinds amp own host) : Intact own (host.step event) := by
  have notMissing : ∀ ept ∈ event.fresh host.client.origin, ¬ept.IsMissing own := by
    intro ept eptMem missing
    rw [RemoteEpt.IsMissing, (admissible.fresh_known eptMem).2.1] at missing
    exact absurd missing.1 (by decide)
  rcases eq_or_ne new [] with rfl | nonempty
  · have bound := effect.bound
    have perm := effect.perm
    rw [List.append_nil] at bound
    rw [List.nil_append] at perm
    simp only [Intact, bound, consistent.recorded_step_of_nil effect]
    rcases intact with ⟨empty, recorded⟩ | ⟨nonempty, noneMissing⟩
    · refine Or.inl ⟨empty, recorded.trans ?_⟩
      have restored := (perm.filter RemoteEpt.isRestored).map RemoteEpt.info
      have freshNone : (event.fresh host.client.origin).filter RemoteEpt.isRestored = [] := by
        rw [List.filter_eq_nil_iff]
        intro ept eptMem
        simp [(admissible.fresh_known eptMem).2.1]
      rw [List.filter_append, freshNone, List.append_nil] at restored
      exact restored.symm
    · refine Or.inr ⟨nonempty, ?_⟩
      intro ept eptMem
      rcases List.mem_append.mp (perm.subset eptMem) with before | fresh
      · exact noneMissing ept before
      · exact notMissing ept fresh
  · refine Or.inr ⟨by simp [effect.bound, nonempty], ?_⟩
    intro ept eptMem missing
    rcases List.mem_append.mp (effect.perm.subset (List.mem_append_right _ eptMem)) with
      before | fresh
    · -- it was created, so it does not wait any more
      have isNew := effect.grantedNew.subset (effect.rebinds.mp rebinds nonempty ept before missing)
      have distinct := (consistent.step admissible effect).distinct
      rw [effect.bound, List.map_append, List.map_append, List.nodup_append] at distinct
      exact distinct.2.2 _ (List.mem_append_right _ (List.mem_map_of_mem isNew)) _
        (List.mem_map_of_mem eptMem) rfl
    · exact notMissing ept fresh missing

theorem recorded_subset_iff (consistent : Consistent amp id own announced created host)
    (intact : Intact own host) {event : Event}
    (admissible : Admissible amp id own announced event)
    (few : (boundInfos own).length + (announced ++ event.announcement?.toList).length ≤
      maxNumOfEpts) {new granted : List RemoteEpt}
    (effect : Effect amp own announced host event new granted) :
    host.recorded ⊆ (host.step event).recorded ↔
      (HostEvent.call event).Rebinds amp own host := by
  rw [effect.rebinds]
  have after := consistent.step admissible effect
  rcases eq_or_ne new [] with rfl | nonempty
  · rw [consistent.recorded_step_of_nil effect]
    exact iff_of_true (List.Subset.refl _) fun nonempty => absurd rfl nonempty
  have recordedAfter := after.recorded_eq few (by simp [effect.bound, nonempty])
  rw [recordedAfter]
  constructor
  · intro kept _ ept eptMem missing
    rcases intact with ⟨empty, recorded⟩ | ⟨_, noneMissing⟩
    · -- the entry of the waiting endpoint now belongs to a created one of the same name
      have infoMem := kept (recorded.symm.subset
        (List.mem_map_of_mem (List.mem_filter.mpr ⟨eptMem, missing.1⟩)))
      have nothing : created = [] := List.sublist_nil.1 (empty ▸ consistent.createdBound)
      rw [nothing, List.nil_append] at infoMem
      rcases exists_of_mem_boundInfos infoMem with isOwn | ⟨other, otherMem, name, _⟩
      · exact absurd isOwn missing.2
      have otherNew := effect.grantedNew.subset otherMem
      have short := (after.known other (by simp [effect.bound, otherNew])).short
      rw [CString.strlcpy_of_lt short] at name
      have distinct := consistent.names_step admissible host.client.origin
      rw [empty, List.nil_append] at distinct
      have same := List.inj_on_of_nodup_map distinct (List.mem_append_left _ eptMem)
        (effect.perm.subset (List.mem_append_left _ otherNew)) name
      rwa [same]
    · exact absurd missing (noneMissing ept eptMem)
  · intro rebinds info infoMem
    rcases intact with ⟨_, recorded⟩ | ⟨bound, _⟩
    · rcases List.mem_map.mp (recorded.subset infoMem) with ⟨ept, eptMem, rfl⟩
      rcases List.mem_filter.mp eptMem with ⟨eptMem, restored⟩
      by_cases isOwn : ept.info ∈ boundInfos own
      · exact boundInfos_createEpts_append [] _ isOwn
      have grantedMem := rebinds nonempty ept eptMem ⟨restored, isOwn⟩
      have known := after.known_created (List.mem_append_right _ grantedMem)
      exact mem_boundInfos_of_restored (List.mem_append_right _ grantedMem) restored
        (known.bound restored) known.short
    · rw [consistent.recorded_eq (by rw [List.length_append] at few; omega) bound] at infoMem
      exact boundInfos_createEpts_append _ _ infoMem

theorem rscTable_eq (consistent : Consistent amp id own announced created host) :
    ∃ table, host.client.rscTable = some table ∧ table.endpoints = host.recorded := by
  rcases consistent.tracks with ⟨_, tracks⟩
  rcases tracks.exists_rscTable with ⟨current, currentEq⟩
  exact ⟨current, currentEq, by simp [Host.recorded, currentEq]⟩

theorem recorded_restart (consistent : Consistent amp id own announced created host) :
    (host.restart own).recorded = host.recorded := by
  rcases consistent.rscTable_eq with ⟨table, tableEq, recorded⟩
  simp only [Host.restart, tableEq]
  exact recorded

theorem remoteEptList_restart (consistent : Consistent amp id own announced created host)
    (intact : Intact own host) (nonzero : ∀ info ∈ boundInfos own, info.addr ≠ 0)
    (few : (boundInfos own).length + announced.length ≤ maxNumOfEpts) :
    (host.restart own).remoteEptList =
      host.recorded.map (EptInfo.restored host.client.origin) := by
  rcases consistent.rscTable_eq with ⟨table, tableEq, recorded⟩
  simp only [Host.restart, tableEq, Host.restarted]
  rw [handleMicaRsc_eq, recorded, List.nil_append, List.filter_eq_self.mpr]
  · rfl
  · intro info infoMem
    have known := (consistent.recorded_known intact nonzero few host.client.origin infoMem).2.2
    exact decide_eq_true known.nonzero

theorem restart (consistent : Consistent amp id own announced created host)
    (intact : Intact own host) (nonzero : ∀ info ∈ boundInfos own, info.addr ≠ 0)
    (names : ((boundInfos own).map EptInfo.name ++ announced.map Announcement.name).Nodup)
    (few : (boundInfos own).length + announced.length ≤ maxNumOfEpts) :
    Consistent amp id own announced [] (host.restart own) ∧ Intact own (host.restart own) := by
  have known := fun info (infoMem : info ∈ host.recorded) =>
    consistent.recorded_known intact nonzero few host.client.origin infoMem
  have waiting := consistent.remoteEptList_restart intact nonzero few
  have recorded := consistent.recorded_restart
  have distinct := consistent.names_recorded intact names few
  rcases consistent.rscTable_eq with ⟨table, tableEq, _⟩
  have restartEq : host.restart own = Host.restarted host.client.id host.client.run own table := by
    simp only [Host.restart, tableEq]
  have noneBound : (host.restart own).client.boundEpts = [] := by
    rw [restartEq]
    rfl
  refine ⟨⟨?_, ?_, ?_, ⟨table, ?_⟩, List.nil_sublist _, ?_, ?_, ?_⟩, Or.inl ⟨noneBound, ?_⟩⟩
  · rw [restartEq]
    exact consistent.isId
  · rw [restartEq]
    exact serving_restarted _ _ _ _
  · rw [restartEq]
    exact fun _ svcMem => absurd svcMem List.not_mem_nil
  · rw [restartEq]
    exact tracks_restarted _ _ _ _ _
  · rw [noneBound]
    exact fun _ eptMem => absurd eptMem List.not_mem_nil
  · rw [noneBound, List.nil_append, waiting, List.map_map]
    have namesEq : host.recorded.map (RemoteEpt.name ∘ EptInfo.restored host.client.origin) =
        host.recorded.map EptInfo.name := by
      apply List.map_congr_left
      intro info infoMem
      exact congrArg EptInfo.name (known info infoMem).1
    rwa [namesEq]
  · intro ept eptMem
    rw [noneBound, List.nil_append, waiting] at eptMem
    rcases List.mem_map.mp eptMem with ⟨info, infoMem, rfl⟩
    exact (known info infoMem).2.2
  · rw [recorded, waiting, List.filter_eq_self.mpr, List.map_map]
    · have infosEq : host.recorded.map (RemoteEpt.info ∘ EptInfo.restored host.client.origin) =
          host.recorded.map fun info => info := by
        apply List.map_congr_left
        intro info infoMem
        exact (known info infoMem).1
      rw [infosEq, List.map_id']
    · intro ept eptMem
      rcases List.mem_map.mp eptMem with ⟨info, infoMem, rfl⟩
      exact (known info infoMem).2.1

end Consistent

/-! ## Runs -/

/-- The first process: no endpoint has been recorded. -/
def Host.firstBoot (id run : ℕ) (own : List RpmsgEndpoint) : Host :=
  Host.started id run own (some FwRscEpt.cleared)

section

variable {amp : OpenAmp} {own : List RpmsgEndpoint} {id run : ℕ}

theorem consistent_firstBoot :
    Consistent amp id own [] [] (Host.firstBoot id run own) ∧
      Intact own (Host.firstBoot id run own) := by
  refine ⟨⟨rfl, ?_, ?_, ⟨FwRscEpt.cleared, ?_⟩, List.Sublist.refl _, ?_, ?_, ?_⟩,
    Or.inl ⟨rfl, ?_⟩⟩
  · exact ⟨rfl, fun _ svcMem => absurd svcMem List.not_mem_nil⟩
  · exact fun _ svcMem => absurd svcMem List.not_mem_nil
  · exact ⟨rfl, rfl⟩
  · exact fun _ eptMem => absurd eptMem List.not_mem_nil
  · exact List.nodup_nil
  · exact fun _ eptMem => absurd eptMem List.not_mem_nil
  · exact List.Perm.refl _

namespace WellFormed

theorem mono {events whole : List HostEvent} (wellFormed : WellFormed amp id run own whole)
    (isPrefix : events <+: whole) : WellFormed amp id run own events := by
  have services := isPrefix.sublist.filterMap HostEvent.service?
  have announcements := isPrefix.sublist.filterMap HostEvent.announcement?
  refine ⟨?_, ?_, ?_, ?_, ?_, ?_⟩
  · exact fun svc svcMem => wellFormed.creates svc (services.subset svcMem)
  · exact fun svc svcMem => wellFormed.foreign svc (services.subset svcMem)
  · exact wellFormed.names.sublist ((announcements.map _).append_left _)
  · exact wellFormed.addresses.sublist ((announcements.map _).append_left _)
  · exact fun addr addrMem =>
      wellFormed.nonzero addr (((announcements.map _).append_left _).subset addrMem)
  · have length := announcements.length_le
    have few := wellFormed.few
    omega

theorem nonzero_own {events : List HostEvent} (wellFormed : WellFormed amp id run own events) :
    ∀ info ∈ boundInfos own, info.addr ≠ 0 := by
  intro info infoMem
  exact wellFormed.nonzero _ (List.mem_append_left _ (List.mem_map_of_mem infoMem))

theorem admissible {events : List HostEvent} {event : Event}
    (wellFormed : WellFormed amp id run own (events ++ [.call event])) :
    Admissible amp id own (events.filterMap HostEvent.announcement?) event := by
  have service : ∀ svc, event.service? = some svc →
      svc ∈ (events ++ [HostEvent.call event]).filterMap HostEvent.service? := by
    intro svc isService
    simp [HostEvent.service?, isService]
  refine ⟨?_, ?_, ?_, ?_⟩
  · exact fun svc isService => wellFormed.creates svc (service svc isService)
  · intro svc isService ept infoMem
    have short : ept.name.length < rpmsgNameSize := (restorable_of_mem_boundInfos infoMem).1
    have rejected := wellFormed.foreign svc (service svc isService) ept.info infoMem
    rwa [EptInfo.restored, RemoteEpt.info, CString.strlcpy_of_lt short] at rejected
  · intro announcement isAnnouncement
    have names := wellFormed.names
    simp only [List.filterMap_append, List.filterMap_cons, HostEvent.announcement?,
      isAnnouncement, List.filterMap_nil, List.map_append, List.map_cons, List.map_nil,
      ← List.append_assoc] at names
    rw [List.nodup_append] at names
    intro nameMem
    exact names.2.2 _ nameMem _ List.mem_cons_self rfl
  · intro announcement isAnnouncement
    apply wellFormed.nonzero
    simp [HostEvent.announcement?, isAnnouncement]

end WellFormed

theorem announcements_concat_call (events : List HostEvent) (event : Event) :
    (events ++ [HostEvent.call event]).filterMap HostEvent.announcement? =
      events.filterMap HostEvent.announcement? ++ event.announcement?.toList := by
  rw [List.filterMap_append]
  cases event <;> rfl

theorem announcements_concat_crash (events : List HostEvent) :
    (events ++ [HostEvent.crash]).filterMap HostEvent.announcement? =
      events.filterMap HostEvent.announcement? := by
  simp [HostEvent.announcement?]

theorem consistent_live {events : List HostEvent} (wellFormed : WellFormed amp id run own events)
    (rebinds : RebindsAtOnce amp own (Host.firstBoot id run own) events) :
    ∃ created, Consistent amp id own (events.filterMap HostEvent.announcement?) created
        ((Host.firstBoot id run own).live own events) ∧
      Intact own ((Host.firstBoot id run own).live own events) := by
  induction events using List.reverseRecOn with
  | nil => exact ⟨[], consistent_firstBoot⟩
  | append_singleton events event ih =>
      have before := wellFormed.mono (List.prefix_append events [event])
      rcases Run.allSteps_concat.1 rebinds with ⟨earlier, last⟩
      rcases ih before earlier with ⟨created, consistent, intact⟩
      rw [Host.live_concat]
      cases event with
      | call event =>
          rw [announcements_concat_call]
          have admissible := wellFormed.admissible
          rcases consistent.effect admissible with ⟨new, granted, effect⟩
          exact ⟨_, consistent.step admissible effect,
            consistent.intact_step intact admissible effect last⟩
      | crash =>
          rw [announcements_concat_crash]
          exact ⟨[], consistent.restart intact before.nonzero_own before.names before.few⟩

theorem recorded_call_iff {events : List HostEvent} {event : Event}
    (wellFormed : WellFormed amp id run own (events ++ [.call event]))
    (rebinds : RebindsAtOnce amp own (Host.firstBoot id run own) events) :
    ((Host.firstBoot id run own).live own events).recorded ⊆
        ((Host.firstBoot id run own).live own (events ++ [.call event])).recorded ↔
      (HostEvent.call event).Rebinds amp own ((Host.firstBoot id run own).live own events) := by
  rcases consistent_live (wellFormed.mono (List.prefix_append _ _)) rebinds with
    ⟨created, consistent, intact⟩
  rcases consistent.effect wellFormed.admissible with ⟨new, granted, effect⟩
  have few := wellFormed.few
  rw [announcements_concat_call] at few
  rw [Host.live_concat]
  exact consistent.recorded_subset_iff intact wellFormed.admissible few effect

theorem recorded_mono {early late : List HostEvent} (isPrefix : early <+: late)
    (wellFormed : WellFormed amp id run own late)
    (rebinds : RebindsAtOnce amp own (Host.firstBoot id run own) late) :
    ((Host.firstBoot id run own).live own early).recorded ⊆
      ((Host.firstBoot id run own).live own late).recorded := by
  induction late using List.reverseRecOn with
  | nil =>
      rw [List.prefix_nil.mp isPrefix]
      exact List.Subset.refl _
  | append_singleton late event ih =>
      rcases List.prefix_concat_iff.mp isPrefix with same | isBefore
      · rw [same]
        exact List.Subset.refl _
      have before := wellFormed.mono (List.prefix_append late [event])
      rcases Run.allSteps_concat.1 rebinds with ⟨earlier, last⟩
      apply List.Subset.trans (ih isBefore before earlier)
      cases event with
      | call event => exact (recorded_call_iff wellFormed earlier).2 last
      | crash =>
          rcases consistent_live before earlier with ⟨created, consistent, intact⟩
          rw [Host.live_concat, Host.liveStep, consistent.recorded_restart]
          exact List.Subset.refl _

theorem rebindsAtOnce_of_durable {events : List HostEvent}
    (wellFormed : WellFormed amp id run own events)
    (durable : Durable own (Host.firstBoot id run own) events) :
    RebindsAtOnce amp own (Host.firstBoot id run own) events := by
  induction events using List.reverseRecOn with
  | nil => exact Run.allSteps_nil
  | append_singleton events last ih =>
      have isPrefix : events <+: events ++ [last] := List.prefix_append _ _
      have earlier := ih (wellFormed.mono isPrefix)
        (fun early late earlier later => durable early late earlier (later.trans isPrefix))
      refine Run.allSteps_concat.2 ⟨earlier, ?_⟩
      cases last with
      | crash => trivial
      | call event =>
          apply (recorded_call_iff wellFormed earlier).1
          intro info infoMem
          exact (durable events _ isPrefix (List.prefix_refl _) info infoMem).1

end

/--
The table is durable on exactly the runs in which every call that binds an
endpoint creates all restored endpoints that are missing.
-/
theorem durable_iff_rebindsAtOnce (amp : OpenAmp) (id run : ℕ) (own : List RpmsgEndpoint)
    (events : List HostEvent) (wellFormed : WellFormed amp id run own events) :
    Durable own (Host.firstBoot id run own) events ↔
      RebindsAtOnce amp own (Host.firstBoot id run own) events := by
  constructor
  · exact rebindsAtOnce_of_durable wellFormed
  · intro rebinds early late earlier later info infoMem
    have wellFormedLate := wellFormed.mono later
    have rebindsLate := Run.AllSteps.mono rebinds later
    have kept := recorded_mono earlier wellFormedLate rebindsLate infoMem
    refine ⟨kept, ?_⟩
    rcases consistent_live wellFormedLate rebindsLate with ⟨created, consistent, intact⟩
    have nonzero := wellFormedLate.nonzero_own
    rw [Host.live_concat, Host.liveStep,
      consistent.remoteEptList_restart intact nonzero wellFormedLate.few]
    exact ⟨_, List.mem_map_of_mem kept,
      (consistent.recorded_known intact nonzero wellFormedLate.few _ kept).1⟩

def announceTty : HostEvent := .call (.announce ⟨rpmsgTtyName, 1025, by decide⟩)

def announceRpc : HostEvent := .call (.announce ⟨rpmsgRpcEptName, 1026, by decide⟩)

def registerTty : HostEvent := .call (.register (rpmsgTtyService fixedAmp))

def registerRpc : HostEvent := .call (.register (rpmsgRpcService fixedAmp))

/-- Two services and their endpoints. -/
def twoServices : List HostEvent := [registerTty, registerRpc, announceTty, announceRpc]

theorem wellFormed_of_services {events : List HostEvent}
    (services : ∀ svc ∈ events.filterMap HostEvent.service?,
      svc ∈ [rpmsgRpcService fixedAmp, rpmsgTtyService fixedAmp])
    (names : ((boundInfos [nsEpt]).map EptInfo.name ++
      (events.filterMap HostEvent.announcement?).map Announcement.name).Nodup)
    (addresses : ((boundInfos [nsEpt]).map EptInfo.addr ++
      (events.filterMap HostEvent.announcement?).map Announcement.dest).Nodup)
    (nonzero : 0 ∉ (boundInfos [nsEpt]).map EptInfo.addr ++
      (events.filterMap HostEvent.announcement?).map Announcement.dest)
    (few : (boundInfos [nsEpt]).length + (events.filterMap HostEvent.announcement?).length ≤
      maxNumOfEpts) : WellFormed fixedAmp 0 0 [nsEpt] events := by
  refine ⟨fun svc svcMem => createsEpt_services svc (services svc svcMem), ?_, names, addresses,
    fun addr addrMem zero => nonzero (zero ▸ addrMem), few⟩
  intro svc svcMem
  have known := services svc svcMem
  simp only [List.mem_cons, List.not_mem_nil, or_false] at known
  rcases known with rfl | rfl
  · decide
  · decide

/-- Between the two registrations of a recovery the endpoint of the second is not on record. -/
theorem not_durable_second_crash :
    WellFormed fixedAmp 0 0 [nsEpt] (twoServices ++ [.crash, registerTty]) ∧
      ¬Durable [nsEpt] (Host.firstBoot 0 0 [nsEpt]) (twoServices ++ [.crash, registerTty]) := by
  refine ⟨wellFormed_of_services ?_ (by decide) (by decide) (by decide) (by decide), ?_⟩
  · simp [twoServices, registerTty, registerRpc, announceTty, announceRpc, HostEvent.service?,
      Event.service?]
  · intro durable
    have kept := durable twoServices (twoServices ++ [.crash, registerTty])
      (List.prefix_append _ _) (List.prefix_refl _) ⟨rpmsgRpcEptName, 1026, 1024⟩ (by decide)
    exact absurd kept.1 (by decide)

/-- One service recovers its endpoint. -/
theorem durable_one_service :
    Durable [nsEpt] (Host.firstBoot 0 0 [nsEpt])
      [registerTty, announceTty, .crash, registerTty] := by
  apply (durable_iff_rebindsAtOnce fixedAmp 0 0 [nsEpt] _
    (wellFormed_of_services ?_ (by decide) (by decide) (by decide) (by decide))).mpr
  · simp only [RebindsAtOnce, Run.allSteps_cons]
    refine ⟨?_, ?_, trivial, ?_, Run.allSteps_nil⟩
    · rintro ⟨ept, eptMem, -⟩
      exact absurd eptMem List.not_mem_nil
    · rintro - ept eptMem
      exact absurd eptMem List.not_mem_nil
    · have served : ∀ ept ∈ ((Host.firstBoot 0 0 [nsEpt]).live [nsEpt]
            [registerTty, announceTty, .crash]).remoteEptList, ept.IsMissing [nsEpt] →
          (rpmsgTtyService fixedAmp).accepts 0 ept = true ∧
            ept ∈ (((Host.firstBoot 0 0 [nsEpt]).live [nsEpt]
              [registerTty, announceTty, .crash]).remoteEptList.filter
                ((rpmsgTtyService fixedAmp).accepts 0)).take 10 := by
        decide
      intro _ ept eptMem missing
      exact ⟨(served ept eptMem missing).1, fun _ => (served ept eptMem missing).2⟩
  · simp [registerTty, announceTty, HostEvent.service?, Event.service?]

end Endpoint

end Mica
