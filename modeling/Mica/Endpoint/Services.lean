import Mica.Endpoint.Binding

/-!
# The services of micad

The three services that bind endpoints: `rpmsg_tty_service` of
`services/pty/rpmsg_pty.c`, `rpmsg_rpc_service` of `services/rpc/rpmsg_rpc.c`
and `rpmsg_umt_service` of `services/umt/rpmsg_umt.c`. Their bind callbacks
create an endpoint with `rpmsg_create_ept`, that of the ttys only if there is an
index left in `tty_id`; what else they need (memory, a pseudo terminal, a thread)
is taken to be available.

`rpmsg_create_ept` belongs to OpenAMP. It appends an endpoint with the given
local and remote address to `rdev->endpoints`; for the local address
`RPMSG_ADDR_ANY` it picks one itself.
-/

namespace Mica

namespace Endpoint

/-- The choice of a local address by OpenAMP. -/
structure OpenAmp where
  localAddr : List RpmsgEndpoint → UInt32
  localAddr_ne_any : ∀ rdev, localAddr rdev ≠ rpmsgAddrAny

/-- An OpenAMP with a fixed choice of the local address. -/
def fixedAmp : OpenAmp := ⟨fun _ => 1024, fun _ => by decide⟩

/-- The endpoint created by `rpmsg_create_ept(ept, rdev, name, src, dest, ..)`. -/
def OpenAmp.newEpt (amp : OpenAmp) (rdev : List RpmsgEndpoint) (name : CString)
    (src dest : UInt32) : RpmsgEndpoint :=
  ⟨name, if src = rpmsgAddrAny then amp.localAddr rdev else src, dest⟩

def rpmsgCreateEpt (amp : OpenAmp) (name : CString) (src dest : UInt32)
    (rdev : List RpmsgEndpoint) : List RpmsgEndpoint :=
  rdev ++ [amp.newEpt rdev name src dest]

/-- The part that the bind callbacks have in common. -/
def createEptCb (amp : OpenAmp) : NsBindCb := fun _ name remoteAddr remoteDest device =>
  (rpmsgCreateEpt amp name remoteDest remoteAddr device.1, device.2)

/-- Without a terminal there is no endpoint either. -/
def rpmsgTtyInit (amp : OpenAmp) : NsBindCb := fun _ name remoteAddr remoteDest device =>
  let terminal := Pty.rpmsgTtyInit Pty.smooth device.2
  (if terminal.1 then rpmsgCreateEpt amp name remoteDest remoteAddr device.1 else device.1,
    terminal.2)

def rpcServiceInit (amp : OpenAmp) : NsBindCb := createEptCb amp

def umtServiceInit (amp : OpenAmp) : NsBindCb := createEptCb amp

/-- `strncmp(left, right, count) == 0` -/
def strncmpEq (left right : CString) (count : ℕ) : Bool :=
  left.bytes.take count = right.bytes.take count

/-- "rpmsg-tty" -/
def rpmsgTtyName : CString := ⟨[0x72, 0x70, 0x6d, 0x73, 0x67, 0x2d, 0x74, 0x74, 0x79], by decide⟩

/-- "rpmsg-rpc" -/
def rpmsgRpcEptName : CString :=
  ⟨[0x72, 0x70, 0x6d, 0x73, 0x67, 0x2d, 0x72, 0x70, 0x63], by decide⟩

/-- "rpmsg-umt" -/
def rpmsgUmtName : CString := ⟨[0x72, 0x70, 0x6d, 0x73, 0x67, 0x2d, 0x75, 0x6d, 0x74], by decide⟩

def rpmsgTtyMatch : NsMatch := fun _ name _ _ =>
  let len0 := name.length
  let len1 := rpmsgTtyName.length
  let len0 := if len0 < len1 then len0 else len1
  strncmpEq name rpmsgTtyName len0

def rpcNameMatch : NsMatch := fun _ name _ _ => name = rpmsgRpcEptName

def umtNameMatch : NsMatch := fun _ name _ _ => name = rpmsgUmtName

def rpmsgTtyService (amp : OpenAmp) : MicaService where
  init := some 0
  remove := true
  rpmsgNsMatch := some rpmsgTtyMatch
  rpmsgNsBindCb := some (rpmsgTtyInit amp)

def rpmsgRpcService (amp : OpenAmp) : MicaService where
  init := none
  remove := true
  rpmsgNsMatch := some rpcNameMatch
  rpmsgNsBindCb := some (rpcServiceInit amp)

def rpmsgUmtService (amp : OpenAmp) : MicaService where
  init := none
  remove := true
  rpmsgNsMatch := some umtNameMatch
  rpmsgNsBindCb := some (umtServiceInit amp)

/-! ## Endpoints of a process -/

/-- The service makes a terminal for every endpoint. -/
def MicaService.IsTty (amp : OpenAmp) (svc : MicaService) : Prop :=
  svc.rpmsgNsBindCb = some (rpmsgTtyInit amp)

/-- The service binds by creating an endpoint. -/
def MicaService.CreatesEpt (amp : OpenAmp) (svc : MicaService) : Prop :=
  svc.rpmsgNsMatch.isSome → svc.rpmsgNsBindCb = some (createEptCb amp) ∨ svc.IsTty amp

theorem MicaService.CreatesEpt.registrable {amp : OpenAmp} {svc : MicaService}
    (creates : svc.CreatesEpt amp) : svc.Registrable := by
  intro hasMatch
  rcases creates hasMatch with isCreate | isTty
  · rw [isCreate]
    rfl
  · rw [isTty]
    rfl

theorem MicaService.isSome_of_accepts {svc : MicaService} {id : ℕ} {ept : RemoteEpt}
    (accepted : svc.accepts id ept = true) : svc.rpmsgNsMatch.isSome := by
  cases nsMatch : svc.rpmsgNsMatch with
  | none => simp [MicaService.accepts, nsMatch] at accepted
  | some _ => rfl

/-- Of the endpoints that a service is bound to one after another, those that get an endpoint of the
host: all, or as many as there are indices left for terminals. -/
def MicaService.Grants (amp : OpenAmp) (svc : MicaService) (free : ℕ)
    (epts granted : List RemoteEpt) : Prop :=
  (svc.IsTty amp → granted = epts.take free) ∧ (¬svc.IsTty amp → granted = epts)

theorem MicaService.Grants.mem_iff {amp : OpenAmp} {svc : MicaService} {free : ℕ}
    {epts granted : List RemoteEpt} (grants : svc.Grants amp free epts granted) {ept : RemoteEpt} :
    ept ∈ granted ↔ ept ∈ epts ∧ (svc.IsTty amp → ept ∈ epts.take free) := by
  by_cases isTty : svc.IsTty amp
  · rw [grants.1 isTty]
    exact ⟨fun member => ⟨List.mem_of_mem_take member, fun _ => member⟩, fun both => both.2 isTty⟩
  · rw [grants.2 isTty]
    exact ⟨fun member => ⟨member, fun tty => absurd tty isTty⟩, And.left⟩

theorem MicaService.Grants.sublist {amp : OpenAmp} {svc : MicaService} {free : ℕ}
    {epts granted : List RemoteEpt} (grants : svc.Grants amp free epts granted) :
    granted.Sublist epts := by
  by_cases isTty : svc.IsTty amp
  · rw [grants.1 isTty]
    exact List.take_sublist _ _
  · rw [grants.2 isTty]

theorem MicaService.Grants.unique {amp : OpenAmp} {svc : MicaService} {free : ℕ}
    {epts granted other : List RemoteEpt} (grants : svc.Grants amp free epts granted)
    (otherGrants : svc.Grants amp free epts other) : granted = other := by
  by_cases isTty : svc.IsTty amp
  · rw [grants.1 isTty, otherGrants.1 isTty]
  · rw [grants.2 isTty, otherGrants.2 isTty]

theorem createEptCb_ne_rpmsgTtyInit (amp : OpenAmp) : createEptCb amp ≠ rpmsgTtyInit amp := by
  intro same
  have full : Pty.rpmsgTtyInit Pty.smooth ⟨fun _ => 1, ∅, []⟩ =
      (false, ⟨fun _ => 1, ∅, []⟩) := rfl
  have lengths := congrArg (fun bindCb : NsBindCb =>
    (bindCb 0 ⟨[], CString.noNul_nil⟩ 0 0 ([], ⟨fun _ => 1, ∅, []⟩)).1.length) same
  simp [createEptCb, rpmsgTtyInit, full, rpmsgCreateEpt] at lengths

/-- The endpoints of the device after the given endpoints of the remote were bound to it. -/
def createEpts (amp : OpenAmp) (rdev : List RpmsgEndpoint) (epts : List RemoteEpt) :
    List RpmsgEndpoint :=
  epts.foldl (fun rdev ept => rpmsgCreateEpt amp ept.name ept.destAddr ept.addr rdev) rdev

theorem createEpts_append (amp : OpenAmp) (rdev : List RpmsgEndpoint)
    (first second : List RemoteEpt) :
    createEpts amp rdev (first ++ second) =
      createEpts amp (createEpts amp rdev first) second :=
  List.foldl_append

/-- The endpoints bound to services since the process started. -/
def Client.boundEpts (client : Client) : List RemoteEpt := client.binds.map Prod.snd

/--
Device and table follow the bind callbacks: the device has the endpoints it was
created with and one for each endpoint that was granted one, and the table is the
one found at the start of the process until the first callback, and afterwards the
record of the device.
-/
structure Tracks (amp : OpenAmp) (own : List RpmsgEndpoint) (table : FwRscEpt)
    (created : List RemoteEpt) (client : Client) : Prop where
  rdev : client.rdev = createEpts amp own created
  rscTable : client.rscTable =
    if client.boundEpts = [] then some table else (rscUpdateEptTable (some table) client.rdev).1

namespace Tracks

variable {amp : OpenAmp} {own : List RpmsgEndpoint} {table : FwRscEpt} {client : Client}
  {created : List RemoteEpt}

theorem exists_rscTable (tracks : Tracks amp own table created client) :
    ∃ current, client.rscTable = some current := by
  rw [tracks.rscTable]
  split
  · exact ⟨table, rfl⟩
  · exact ⟨_, rfl⟩

theorem bind (tracks : Tracks amp own table created client) {position : ℕ} {bindCb : NsBindCb}
    {ept : RemoteEpt} {granted : List RemoteEpt}
    (effect : (client.bind position bindCb ept).rdev = createEpts amp client.rdev granted) :
    Tracks amp own table (created ++ granted) (client.bind position bindCb ept) := by
  rcases tracks.exists_rscTable with ⟨current, currentEq⟩
  refine ⟨?_, ?_⟩
  · rw [effect, tracks.rdev, createEpts_append]
  · simp only [Client.boundEpts, Client.binds_bind, List.map_append, List.map_cons, List.map_nil,
      List.append_eq_nil_iff, List.cons_ne_nil, and_false, if_false]
    simp only [Client.bind, currentEq]
    rfl

theorem bindAll_createEptCb (tracks : Tracks amp own table created client) (position : ℕ)
    (epts : List RemoteEpt) :
    Tracks amp own table (created ++ epts) (client.bindAll position (createEptCb amp) epts) ∧
      (client.bindAll position (createEptCb amp) epts).ttys = client.ttys := by
  induction epts generalizing client created with
  | nil => exact ⟨(List.append_nil created).symm ▸ tracks, rfl⟩
  | cons ept rest ih =>
      have first : Tracks amp own table (created ++ [ept])
          (client.bind position (createEptCb amp) ept) := tracks.bind rfl
      have later := ih first
      rw [List.append_assoc] at later
      exact later

theorem bind_rpmsgTtyInit (tracks : Tracks amp own table created client) (position : ℕ)
    (ept : RemoteEpt) :
    Tracks amp own table (created ++ [ept].take client.ttys.free)
        (client.bind position (rpmsgTtyInit amp) ept) ∧
      (client.bind position (rpmsgTtyInit amp) ept).ttys.free = client.ttys.free - 1 := by
  rcases Pty.rpmsgTtyInit_smooth client.ttys with ⟨started, left⟩
  refine ⟨tracks.bind ?_, left⟩
  simp only [Client.bind, rpmsgTtyInit, started, decide_eq_true_eq]
  cases client.ttys.free with
  | zero => rfl
  | succ free =>
      rw [if_pos (Nat.succ_pos free), List.take_succ_cons, List.take_nil]
      rfl

theorem bindAll_rpmsgTtyInit (tracks : Tracks amp own table created client) (position : ℕ)
    (epts : List RemoteEpt) :
    Tracks amp own table (created ++ epts.take client.ttys.free)
        (client.bindAll position (rpmsgTtyInit amp) epts) ∧
      (client.bindAll position (rpmsgTtyInit amp) epts).ttys.free =
        client.ttys.free - epts.length := by
  induction epts generalizing client created with
  | nil =>
      rw [List.take_nil, List.append_nil]
      exact ⟨tracks, rfl⟩
  | cons ept rest ih =>
      rcases tracks.bind_rpmsgTtyInit position ept with ⟨first, left⟩
      have later := ih first
      rw [left, List.append_assoc] at later
      refine ⟨?_, later.2.trans (by rw [List.length_cons]; omega)⟩
      have taken : (ept :: rest).take client.ttys.free =
          [ept].take client.ttys.free ++ rest.take (client.ttys.free - 1) := by
        cases client.ttys.free with
        | zero => simp
        | succ free => simp
      rw [taken]
      exact later.1

theorem congr {other : Client} (tracks : Tracks amp own table created client)
    (rdev : other.rdev = client.rdev) (rscTable : other.rscTable = client.rscTable)
    (binds : other.binds = client.binds) : Tracks amp own table created other := by
  refine ⟨?_, ?_⟩
  · rw [rdev, tracks.rdev]
  · rw [rscTable, tracks.rscTable, rdev, Client.boundEpts, Client.boundEpts, binds]

theorem bindAll (tracks : Tracks amp own table created client) {svc : MicaService}
    (creates : svc.rpmsgNsBindCb = some (createEptCb amp) ∨ svc.IsTty amp) (position : ℕ)
    (epts : List RemoteEpt) :
    ∃ granted, svc.Grants amp client.ttys.free epts granted ∧
      Tracks amp own table (created ++ granted) (client.bindAll position svc.bindCb epts) ∧
      (svc.IsTty amp → (client.bindAll position svc.bindCb epts).ttys.free =
        client.ttys.free - epts.length) ∧
      (¬svc.IsTty amp →
        (client.bindAll position svc.bindCb epts).ttys.free = client.ttys.free) := by
  rcases creates with isCreate | isTty
  · have notTty : ¬svc.IsTty amp := by
      intro isTty
      exact createEptCb_ne_rpmsgTtyInit amp (Option.some.inj (isCreate.symm.trans isTty))
    have callback : svc.bindCb = createEptCb amp := by simp [MicaService.bindCb, isCreate]
    rcases tracks.bindAll_createEptCb position epts with ⟨after, same⟩
    rw [callback]
    exact ⟨epts, ⟨fun isTty => absurd isTty notTty, fun _ => rfl⟩, after,
      fun isTty => absurd isTty notTty, fun _ => congrArg Pty.Ttys.free same⟩
  · have callback : svc.bindCb = rpmsgTtyInit amp := by
      simp [MicaService.bindCb, show svc.rpmsgNsBindCb = _ from isTty]
    rcases tracks.bindAll_rpmsgTtyInit position epts with ⟨after, left⟩
    rw [callback]
    exact ⟨_, ⟨fun _ => rfl, fun notTty => absurd isTty notTty⟩, after, fun _ => left,
      fun notTty => absurd isTty notTty⟩

theorem register {host : Host} (tracks : Tracks amp own table created host.client)
    (running : host.client.state = .running) {svc : MicaService} (creates : svc.CreatesEpt amp) :
    ∃ granted, svc.Grants amp host.client.ttys.free
        (host.remoteEptList.filter (svc.accepts host.client.id)) granted ∧
      Tracks amp own table (created ++ granted) (host.step (.register svc)).client ∧
      (svc.IsTty amp → (host.step (.register svc)).client.ttys.free = host.client.ttys.free -
        (host.remoteEptList.filter (svc.accepts host.client.id)).length) ∧
      (¬svc.IsTty amp →
        (host.step (.register svc)).client.ttys.free = host.client.ttys.free) := by
  simp only [Host.step, micaRegisterService_eq running creates.registrable]
  have started : Tracks amp own table created (host.client.initService svc) :=
    tracks.congr (Client.rdev_initService _ _) (Client.rscTable_initService _ _)
      (Client.binds_initService _ _)
  cases hasMatch : svc.rpmsgNsMatch with
  | none =>
      have acceptsNone : svc.accepts host.client.id = fun _ => false := by
        funext ept
        simp [MicaService.accepts, hasMatch]
      have same : (host.client.initService svc).ttys.free = host.client.ttys.free :=
        congrArg Pty.Ttys.free (Client.ttys_initService _ _)
      simp only [acceptsNone, List.filter_false]
      refine ⟨[], ⟨fun _ => List.take_nil.symm, fun _ => rfl⟩, ?_, fun _ => same, fun _ => same⟩
      rw [List.append_nil]
      exact started.congr rfl rfl rfl
  | some nsMatch =>
      have effect := started.bindAll (creates (by simp [hasMatch])) host.client.services.length
        (host.remoteEptList.filter (svc.accepts host.client.id))
      rw [Client.ttys_initService] at effect
      rcases effect with ⟨granted, grants, after, left⟩
      exact ⟨granted, grants, after.congr rfl rfl rfl, left⟩

end Tracks

end Endpoint

end Mica
