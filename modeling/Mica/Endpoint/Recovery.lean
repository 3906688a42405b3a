import Mica.Endpoint.Services

/-!
# Recovery of endpoints

After a crash of the host a new process finds the endpoints of the old one in
the shared endpoint table, restores them to `remote_ept_list` and binds them
again while its services are registered. The local and the remote address are
exchanged when an endpoint is recorded and exchanged back by the argument order
of `rpmsg_create_ept`.

The name service endpoint of OpenAMP has the address 0x35 on both sides. So it is
recorded and restored like the others, but no service matches it, and the device of
the new process has it anyway.
-/

namespace Mica

namespace Endpoint

/-- The host of a new process that found `table`: the endpoints in it wait for services. -/
def Host.restarted (id run : ℕ) (own : List RpmsgEndpoint) (table : FwRscEpt) : Host :=
  { Host.started id run own (some table) with
    remoteEptList := handleMicaRsc ⟨id, run⟩ table [] }

def Host.registerAll (host : Host) (services : List MicaService) : Host :=
  host.run (services.map Event.register)

/-- The endpoint of the remote a bound endpoint of the host talks to. -/
def RpmsgEndpoint.remote (origin : Origin) (ept : RpmsgEndpoint) : RemoteEpt :=
  ⟨ept.name, ept.destAddr, ept.addr, origin⟩

/-- Some service accepts the endpoint. -/
def matchedBy (services : List MicaService) (id : ℕ) (ept : RemoteEpt) : Bool :=
  services.any fun svc => svc.accepts id ept

/-- A service that makes terminals accepts the endpoint. -/
def TtyMatched (amp : OpenAmp) (services : List MicaService) (id : ℕ) (ept : RemoteEpt) : Prop :=
  ∃ svc ∈ services, svc.IsTty amp ∧ svc.accepts id ept = true

theorem tracks_restarted (amp : OpenAmp) (id run : ℕ) (own : List RpmsgEndpoint)
    (table : FwRscEpt) : Tracks amp own table [] (Host.restarted id run own table).client :=
  ⟨rfl, rfl⟩

theorem serving_restarted (id run : ℕ) (own : List RpmsgEndpoint) (table : FwRscEpt) :
    (Host.restarted id run own table).Serving :=
  ⟨rfl, fun _ svcMem => absurd svcMem List.not_mem_nil⟩

theorem boundEpts_register {host : Host} (running : host.client.state = .running)
    {svc : MicaService} (registrable : svc.Registrable) :
    (host.step (.register svc)).client.boundEpts = host.client.boundEpts ++
        host.remoteEptList.filter (svc.accepts host.client.id) ∧
      (host.step (.register svc)).remoteEptList =
        host.remoteEptList.filter fun ept => !svc.accepts host.client.id ept := by
  simp only [Host.step, micaRegisterService_eq running registrable, Client.boundEpts,
    Client.binds_addService, Client.binds_bindAll, Client.binds_initService, and_true]
  simp [Function.comp_def]

section Terminals

open Classical

variable {amp : OpenAmp} {own : List RpmsgEndpoint} {table : FwRscEpt} {services : List MicaService}
  {all : List RemoteEpt} {id : ℕ} {host : Host}

/-- The recovery so far: every endpoint is bound or waits, there is an endpoint of the host for each
that is bound, and terminals have been made only for those that need one. -/
structure Recovering (amp : OpenAmp) (own : List RpmsgEndpoint) (table : FwRscEpt)
    (services : List MicaService) (id : ℕ) (all : List RemoteEpt) (host : Host) : Prop where
  isId : host.client.id = id
  serving : host.Serving
  tracks : Tracks amp own table host.client.boundEpts host.client
  perm : (host.client.boundEpts ++ host.remoteEptList).Perm all
  indices : Pty.rpmsgTtyMaxDev ≤ host.client.ttys.free +
    (host.client.boundEpts.filter (TtyMatched amp services id)).length

theorem Recovering.register (recovering : Recovering amp own table services id all host)
    (few : (all.filter (TtyMatched amp services id)).length ≤ Pty.rpmsgTtyMaxDev)
    {svc : MicaService} (svcMem : svc ∈ services) (creates : svc.CreatesEpt amp) :
    Recovering amp own table services id all (host.step (.register svc)) := by
  have running := recovering.serving.running
  rcases boundEpts_register running creates.registrable with ⟨bound, waiting⟩
  rcases recovering.tracks.register running creates with ⟨granted, grants, tracks, left, same⟩
  rw [recovering.isId] at bound waiting grants left
  generalize isNew : host.remoteEptList.filter (svc.accepts id) = new at *
  have split : (new ++ host.remoteEptList.filter fun ept => !svc.accepts id ept).Perm
      host.remoteEptList := by
    rw [← isNew]
    exact List.filter_append_perm _ _
  have newTty : svc.IsTty amp → new.filter (TtyMatched amp services id) = new := by
    intro isTty
    rw [List.filter_eq_self]
    intro ept eptMem
    rw [← isNew] at eptMem
    exact decide_eq_true ⟨svc, svcMem, isTty, (List.mem_filter.1 eptMem).2⟩
  -- the terminals of all endpoints together do not exceed the table
  have counted := ((split.append_left host.client.boundEpts).trans recovering.perm).filter
    (TtyMatched amp services id) |>.length_eq
  simp only [List.filter_append, List.length_append] at counted
  have indices := recovering.indices
  have enough : svc.IsTty amp → new.length ≤ host.client.ttys.free := by
    intro isTty
    rw [newTty isTty] at counted
    omega
  have all : granted = new := by
    by_cases isTty : svc.IsTty amp
    · rw [grants.1 isTty, List.take_of_length_le (enough isTty)]
    · exact grants.2 isTty
  refine ⟨(origin_step _ _).1.trans recovering.isId,
    recovering.serving.register creates.registrable,
    ?_, ?_, ?_⟩
  · rw [bound, ← all]
    exact tracks
  · rw [bound, waiting, List.append_assoc]
    exact (split.append_left _).trans recovering.perm
  · rw [bound, List.filter_append, List.length_append]
    by_cases isTty : svc.IsTty amp
    · have fits := enough isTty
      rw [left isTty, newTty isTty]
      omega
    · rw [same isTty]
      omega

theorem Recovering.registerAll (recovering : Recovering amp own table services id all host)
    (few : (all.filter (TtyMatched amp services id)).length ≤ Pty.rpmsgTtyMaxDev)
    {rest : List MicaService} (subset : rest ⊆ services)
    (creates : ∀ svc ∈ services, svc.CreatesEpt amp) :
    Recovering amp own table services id all (host.registerAll rest) := by
  induction rest generalizing host with
  | nil => exact recovering
  | cons svc rest ih =>
      rcases List.cons_subset.1 subset with ⟨svcMem, subset⟩
      exact ih (recovering.register few svcMem (creates svc svcMem)) subset

end Terminals

theorem registerAll_restarted {id run : ℕ} (own : List RpmsgEndpoint) {table : FwRscEpt}
    {services : List MicaService} (registrable : ∀ svc ∈ services, svc.Registrable) :
    let final := (Host.restarted id run own table).registerAll services
    final.client.boundEpts.Perm
      ((handleMicaRsc ⟨id, run⟩ table []).filter (matchedBy services id)) ∧
      final.remoteEptList.Perm
        ((handleMicaRsc ⟨id, run⟩ table []).filter fun ept => !matchedBy services id ept) := by
  intro final
  have refines : final.registry =
      (Rendezvous.Registry.holding (handleMicaRsc ⟨id, run⟩ table [])).run
      (MicaService.accepts id) ((services.map Event.register).map (Event.abstract ⟨id, run⟩)) :=
    registry_run (serving_restarted id run own table) (services.map Event.register)
      (by simpa [List.filterMap_map, Function.comp_def, Event.service?] using registrable)
  have subscribers : ((services.map Event.register).map (Event.abstract ⟨id, run⟩)).filterMap
      Rendezvous.Event.subscriber? = services := by
    simp [List.filterMap_map, Function.comp_def, Event.abstract, Rendezvous.Event.subscriber?]
  have items : ((services.map Event.register).map (Event.abstract ⟨id, run⟩)).filterMap
      Rendezvous.Event.item? = [] := by
    simp [List.filterMap_map, Function.comp_def, Event.abstract, Rendezvous.Event.item?]
  have settled := Rendezvous.run_holding (MicaService.accepts id)
    (handleMicaRsc ⟨id, run⟩ table []) subscribers (by rw [items, List.append_nil])
  rw [← refines] at settled
  refine ⟨?_, ?_⟩
  · have delivered := settled.2.1.map Prod.snd
    rwa [Rendezvous.map_snd_assigned] at delivered
  · have waiting := settled.2.2
    rwa [Rendezvous.unmatched_eq_filter] at waiting

/-- The endpoint of the host that is created for a restored endpoint of the remote. -/
def RemoteEpt.hostEpt (ept : RemoteEpt) : RpmsgEndpoint := ⟨ept.name, ept.destAddr, ept.addr⟩

theorem createEpts_restored (amp : OpenAmp) (rdev : List RpmsgEndpoint) {epts : List RemoteEpt}
    (restored : ∀ ept ∈ epts, ept.destAddr ≠ rpmsgAddrAny) :
    createEpts amp rdev epts = rdev ++ epts.map RemoteEpt.hostEpt := by
  induction epts generalizing rdev with
  | nil => simp [createEpts]
  | cons ept rest ih =>
      have first := restored ept List.mem_cons_self
      have later := ih (rpmsgCreateEpt amp ept.name ept.destAddr ept.addr rdev)
        (fun other otherMem => restored other (List.mem_cons_of_mem _ otherMem))
      simp only [createEpts, List.foldl_cons] at later ⊢
      rw [later]
      simp [rpmsgCreateEpt, OpenAmp.newEpt, first, RemoteEpt.hostEpt]

theorem handleMicaRsc_recorded (origin : Origin) {table : FwRscEpt} {rdev : List RpmsgEndpoint}
    (recorded : table.endpoints = boundInfos rdev)
    (nonzero : ∀ ept ∈ rdev, ept.isBound = true → ept.destAddr ≠ 0)
    (short : ∀ ept ∈ rdev, ept.isBound = true → ept.name.length < rpmsgNameSize) :
    handleMicaRsc origin table [] =
      (rdev.filter RpmsgEndpoint.isBound).map (RpmsgEndpoint.remote origin) := by
  rw [handleMicaRsc_eq, recorded, boundInfos, List.nil_append, List.filter_map, List.map_map,
    List.filter_eq_self.mpr]
  · apply List.map_congr_left
    intro ept eptMem
    rcases List.mem_filter.mp eptMem with ⟨eptMem, isBound⟩
    have name := CString.strlcpy_of_lt (short ept eptMem isBound)
    simp [RpmsgEndpoint.info, EptInfo.restored, RpmsgEndpoint.remote, name]
  · intro ept eptMem
    rcases List.mem_filter.mp eptMem with ⟨eptMem, isBound⟩
    exact decide_eq_true (nonzero ept eptMem isBound)

/-- The bound endpoints of a device for which some service is registered, and those for which there
is none. -/
def matchedEpts (services : List MicaService) (origin : Origin) (rdev : List RpmsgEndpoint) :
    List RpmsgEndpoint :=
  (rdev.filter RpmsgEndpoint.isBound).filter fun ept =>
    matchedBy services origin.client (ept.remote origin)

def unmatchedEpts (services : List MicaService) (origin : Origin) (rdev : List RpmsgEndpoint) :
    List RpmsgEndpoint :=
  (rdev.filter RpmsgEndpoint.isBound).filter fun ept =>
    !matchedBy services origin.client (ept.remote origin)

section

open Classical

/--
Recording the endpoints of a host, restoring them in a new process and
registering services in any order calls a bind callback once for each endpoint
that was bound and is matched, re-creates exactly these endpoints, leaves the
others waiting and records the same entries again. The others are those that the
device of the new process has by itself, and there are no more terminals than
`tty_id` has room for.
-/
theorem recovery_round_trip (amp : OpenAmp) (id run : ℕ) (stale : FwRscEpt)
    (original own : List RpmsgEndpoint) (services : List MicaService)
    (few : (original.filter RpmsgEndpoint.isBound).length ≤ maxNumOfEpts)
    (nonzero : ∀ ept ∈ original, ept.isBound = true → ept.destAddr ≠ 0)
    (short : ∀ ept ∈ original, ept.isBound = true → ept.name.length < rpmsgNameSize)
    (creates : ∀ svc ∈ services, svc.CreatesEpt amp)
    (ownAgain : (unmatchedEpts services ⟨id, run⟩ original).Perm
      (own.filter RpmsgEndpoint.isBound))
    (terminals : ((original.filter RpmsgEndpoint.isBound).filter fun ept =>
      TtyMatched amp services id (ept.remote ⟨id, run⟩)).length ≤ Pty.rpmsgTtyMaxDev) :
    ∃ table, rscUpdateEptTable (some stale) original = (some table, 0) ∧
      let final := (Host.restarted id run own table).registerAll services
      final.client.boundEpts.Perm
          ((matchedEpts services ⟨id, run⟩ original).map (RpmsgEndpoint.remote ⟨id, run⟩)) ∧
        (∃ created, final.client.rdev = own ++ created ∧
          created.Perm (matchedEpts services ⟨id, run⟩ original)) ∧
        final.remoteEptList.Perm
          ((unmatchedEpts services ⟨id, run⟩ original).map (RpmsgEndpoint.remote ⟨id, run⟩)) ∧
        ∃ rewritten, final.client.rscTable = some rewritten ∧
          rewritten.endpoints.Perm table.endpoints := by
  rcases rscUpdateEptTable_eq stale original (by simpa [boundInfos] using few) with
    ⟨table, updated, recorded⟩
  refine ⟨table, updated, ?_⟩
  intro final
  have restored := handleMicaRsc_recorded ⟨id, run⟩ recorded nonzero short
  have infos := (List.filter_append_perm (fun ept => matchedBy services id (ept.remote ⟨id, run⟩))
    (original.filter RpmsgEndpoint.isBound)).map RpmsgEndpoint.info
  have starts : Recovering amp own table services id (handleMicaRsc ⟨id, run⟩ table [])
      (Host.restarted id run own table) :=
    ⟨rfl, serving_restarted id run own table, tracks_restarted amp id run own table,
      List.Perm.refl _, by simp [Host.restarted, Host.started, micaStart, noTerminals,
        Pty.Ttys.free_initial]⟩
  have recovered := starts.registerAll
    (by rwa [restored, List.filter_map, List.length_map]) (List.Subset.refl services) creates
  have settled := @registerAll_restarted id run own table services
    fun svc svcMem => (creates svc svcMem).registrable
  rw [restored, List.filter_map, List.filter_map] at settled
  rcases settled with ⟨bound, waits⟩
  have created : final.client.rdev = own ++ final.client.boundEpts.map RemoteEpt.hostEpt := by
    rw [recovered.tracks.rdev]
    apply createEpts_restored
    intro ept eptMem
    rcases List.mem_map.mp (bound.subset eptMem) with ⟨host, hostMem, rfl⟩
    have isBound := (List.mem_filter.mp (List.mem_filter.mp hostMem).1).2
    simp only [RpmsgEndpoint.isBound, decide_eq_true_eq] at isBound
    exact isBound.1
  have createdPerm : (final.client.boundEpts.map RemoteEpt.hostEpt).Perm
      (matchedEpts services ⟨id, run⟩ original) := by
    have locals := bound.map RemoteEpt.hostEpt
    rwa [List.map_map,
      show RemoteEpt.hostEpt ∘ RpmsgEndpoint.remote ⟨id, run⟩ = fun ept => ept from rfl,
      List.map_id'] at locals
  refine ⟨bound, ⟨_, created, createdPerm⟩, waits, ?_⟩
  have sameInfos : (boundInfos final.client.rdev).Perm table.endpoints := by
    have matched := (createdPerm.filter RpmsgEndpoint.isBound).map RpmsgEndpoint.info
    have unmatched := ownAgain.symm.map RpmsgEndpoint.info
    have allBound : (matchedEpts services ⟨id, run⟩ original).filter RpmsgEndpoint.isBound =
        matchedEpts services ⟨id, run⟩ original :=
      List.filter_eq_self.2 fun ept eptMem =>
        (List.mem_filter.1 (List.mem_filter.1 eptMem).1).2
    rw [allBound] at matched
    rw [created, boundInfos_append, recorded]
    refine (unmatched.append matched).trans (List.perm_append_comm.trans ?_)
    rw [← List.map_append]
    exact infos
  rw [recovered.tracks.rscTable]
  split
  · exact ⟨table, rfl, List.Perm.refl _⟩
  · rcases rscUpdateEptTable_eq table final.client.rdev (sameInfos.length_eq ▸ table.fits) with
      ⟨rewritten, rewrittenEq, rewrittenInfos⟩
    refine ⟨rewritten, by rw [rewrittenEq], ?_⟩
    rwa [rewrittenInfos]

end

/-- The name service endpoint, which OpenAMP gives every device. -/
def nsEpt : RpmsgEndpoint := ⟨⟨[0x4e, 0x53], by decide⟩, 0x35, 0x35⟩

/-- A device with an endpoint for each of two services. -/
def twoServiceDevice : List RpmsgEndpoint :=
  [nsEpt, ⟨rpmsgTtyName, 1024, 1025⟩, ⟨rpmsgRpcEptName, 1026, 1027⟩]

theorem createsEpt_services : ∀ svc ∈ [rpmsgRpcService fixedAmp, rpmsgTtyService fixedAmp],
    svc.CreatesEpt fixedAmp := by
  intro svc svcMem _
  simp only [List.mem_cons, List.not_mem_nil, or_false] at svcMem
  rcases svcMem with rfl | rfl
  · exact Or.inl rfl
  · exact Or.inr rfl

theorem recovery_round_trip_twoServices :
    ∃ table, rscUpdateEptTable (some FwRscEpt.cleared) twoServiceDevice = (some table, 0) ∧
      let final := (Host.restarted 0 0 [nsEpt] table).registerAll
        [rpmsgRpcService fixedAmp, rpmsgTtyService fixedAmp]
      (∃ created, final.client.rdev = [nsEpt] ++ created ∧
        created.Perm [⟨rpmsgTtyName, 1024, 1025⟩, ⟨rpmsgRpcEptName, 1026, 1027⟩]) ∧
      final.remoteEptList.Perm [nsEpt.remote ⟨0, 0⟩] := by
  rcases recovery_round_trip fixedAmp 0 0 FwRscEpt.cleared twoServiceDevice [nsEpt]
    [rpmsgRpcService fixedAmp, rpmsgTtyService fixedAmp] (by decide) (by decide) (by decide)
    createsEpt_services (by decide) ((List.length_filter_le _ _).trans (by decide)) with
    ⟨table, updated, -, created, waiting, -⟩
  exact ⟨table, updated, created, waiting⟩

/-- "rpmsg-tty0" and so on -/
def ttyName (number : Fin 11) : CString :=
  ⟨rpmsgTtyName.bytes ++ [0x30 + number.val.toUInt8], by revert number; decide⟩

/-- One endpoint more than there are terminals. -/
def elevenTtys : List RpmsgEndpoint :=
  (List.finRange 11).map fun number =>
    ⟨ttyName number, 1024 + number.val.toUInt32, 2048 + number.val.toUInt32⟩

/-- The callback is called for the last endpoint, which is not created again and is no longer on
record. -/
theorem not_recovered_elevenTtys :
    ∃ table, rscUpdateEptTable (some FwRscEpt.cleared) elevenTtys = (some table, 0) ∧
      (∀ ept ∈ elevenTtys, (rpmsgTtyService fixedAmp).accepts 0 (ept.remote ⟨0, 0⟩) = true) ∧
      let final := (Host.restarted 0 0 [nsEpt] table).registerAll [rpmsgTtyService fixedAmp]
      final.client.boundEpts.length = 11 ∧
        (∃ lost ∈ elevenTtys, lost.info ∈ table.endpoints ∧ lost ∉ final.client.rdev ∧
          ∀ rewritten, final.client.rscTable = some rewritten → lost.info ∉ rewritten.endpoints) ∧
        final.remoteEptList = [] := by
  refine ⟨_, rfl, by decide +kernel, by decide +kernel, ?_, by decide +kernel⟩
  refine ⟨⟨ttyName 10, 1034, 2058⟩, by decide +kernel, by decide +kernel, by decide +kernel, ?_⟩
  rintro rewritten ⟨⟩
  decide +kernel

end Endpoint

end Mica
