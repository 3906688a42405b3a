import Mica.Lib.Allocations
import Mica.Rpc.StandardFile
import Mathlib.Logic.Function.Basic

/-!
# What the services of micad share

The user-message service (`services/umt/rpmsg_umt.c`), the debug service
(`services/debug/mica_debug.c` and `mica_debug_ring_buffer.c`) and the RPC service
(`services/rpc/rpc_backend.c`) keep what they have acquired in variables of the file,
while they are registered and removed client by client. Here are these variables, what
a client adds to them and what the `remove` callbacks give back.

A callback may give back what has been given back before: free freed memory, close a
closed stream, or close a descriptor whose number may belong to another file by now.
What that hits cannot be told, and the result is `none`.
-/

namespace Mica.Micad

open Errno

/-! ## The user-message service -/

/-- The names of instance 0: `SHM_NAME`, `SEM_USER_TO_MICAD` and `SEM_MICAD_TO_USER`. -/
inductive UmtName where
  | shm
  | semUserToMicad
  | semMicadToUser
deriving DecidableEq

/-- `struct rpmsg_umt_service`: the client whose endpoint it serves, and the shared memory and the
semaphores that it has opened. -/
structure UmtService where
  owner : ℕ
  objects : UmtName → ℕ

/-- `umt_service_init` does not support several instances. -/
def UmtService.instanceId (_ : UmtService) : ℕ := 0

structure UmtGlobals where
  /-- `g_umt_list` -/
  umtList : List UmtService
  /-- What the names stand for. -/
  names : UmtName → Option ℕ
  /-- The number of the next object. -/
  next : ℕ

namespace UmtGlobals

def empty : UmtGlobals := ⟨[], fun _ => none, 0⟩

/-- `shm_open` and `sem_open` with `O_CREAT`. -/
def openName (globals : UmtGlobals) (name : UmtName) : UmtGlobals × ℕ :=
  match globals.names name with
  | some object => (globals, object)
  | none =>
      ({ globals with
          names := Function.update globals.names name (some globals.next)
          next := globals.next + 1 }, globals.next)

end UmtGlobals

/-- How far `umt_service_init` gets: if it fails, it has opened some of the names, which stay, and
everything else is undone. -/
inductive UmtInit where
  | failed (opened : List UmtName)
  | bound

def umtServiceInit (owner : ℕ) (globals : UmtGlobals) : UmtInit → UmtGlobals
  | .failed opened => opened.foldl (fun globals name => (globals.openName name).1) globals
  | .bound =>
      let (globals, shm) := globals.openName .shm
      let (globals, userToMicad) := globals.openName .semUserToMicad
      let (globals, micadToUser) := globals.openName .semMicadToUser
      let objects : UmtName → ℕ
        | .shm => shm
        | .semUserToMicad => userToMicad
        | .semMicadToUser => micadToUser
      { globals with umtList := globals.umtList ++ [⟨owner, objects⟩] }

/-- `rpmsg_umt_unbind` of the service at the position: it leaves the list, its objects are closed
and the names are unlinked. -/
def rpmsgUmtUnbind (globals : UmtGlobals) (position : ℕ) : UmtGlobals :=
  { globals with umtList := globals.umtList.eraseIdx position, names := fun _ => none }

/-- The first service with the instance number 0, whoever it belongs to. -/
def removeUmtService (globals : UmtGlobals) : UmtGlobals :=
  match globals.umtList.findIdx? fun service => service.instanceId = 0 with
  | none => globals
  | some position => rpmsgUmtUnbind globals position

theorem removeUmtService_of_nil {globals : UmtGlobals} (none : globals.umtList = []) :
    removeUmtService globals = globals := by
  rw [removeUmtService, none]
  rfl

theorem removeUmtService_of_cons {globals : UmtGlobals} {first : UmtService}
    {rest : List UmtService} (some : globals.umtList = first :: rest) :
    removeUmtService globals = { globals with umtList := rest, names := fun _ => .none } := by
  have found : globals.umtList.findIdx? (fun service => service.instanceId = 0) = .some 0 := by
    rw [some]
    rfl
  rw [removeUmtService, found]
  simp only [rpmsgUmtUnbind, some, List.eraseIdx_zero, List.tail_cons]

/-- The services of a client stay in the list, and the names that stand for their objects keep
doing so. -/
structure UmtKept (client : ℕ) (before after : UmtGlobals) : Prop where
  services : after.umtList.filter (fun service => service.owner = client) =
    before.umtList.filter fun service => service.owner = client
  names : ∀ service ∈ before.umtList, service.owner = client → ∀ name,
    before.names name = some (service.objects name) → after.names name = some (service.objects name)

/-- The first service is not the client's, and no name stands for an object of its services. -/
structure UmtSpared (client : ℕ) (globals : UmtGlobals) : Prop where
  first : ∀ service ∈ globals.umtList.head?, service.owner ≠ client
  names : ∀ service ∈ globals.umtList, service.owner = client → ∀ name,
    globals.names name ≠ some (service.objects name)

theorem UmtKept.refl (client : ℕ) (globals : UmtGlobals) : UmtKept client globals globals :=
  ⟨rfl, fun _ _ _ _ same => same⟩

theorem umtKept_removeUmtService_iff {client : ℕ} {globals : UmtGlobals} :
    UmtKept client globals (removeUmtService globals) ↔ UmtSpared client globals := by
  cases listed : globals.umtList with
  | nil =>
      rw [removeUmtService_of_nil listed]
      refine iff_of_true (UmtKept.refl client globals) ⟨?_, ?_⟩
      · simp [listed]
      · simp [listed]
  | cons first rest =>
      rw [removeUmtService_of_cons listed]
      constructor
      · rintro ⟨services, names⟩
        refine ⟨?_, fun service present owned name stands => ?_⟩
        · rintro service isFirst owned
          rw [listed] at isFirst services
          cases isFirst
          -- the list without its first service is shorter
          rw [List.filter_cons_of_pos (by simpa using owned)] at services
          exact absurd (congrArg List.length services) (by simp)
        · have kept := names service present owned name stands
          cases kept
      · rintro ⟨foreign, unnamed⟩
        refine ⟨?_, fun service present owned name stands => ?_⟩
        · have other : first.owner ≠ client := foreign first (by rw [listed]; rfl)
          rw [listed, List.filter_cons_of_neg (by simpa using other)]
        · exact absurd stands (unnamed service present owned name)

/-! ## The debug service -/

/-- The modules allocated by `start_ring_buffer_module`, each with its two threads, and the client
that each was started for. -/
structure DebugGlobals where
  modules : Allocations
  owner : ℕ → ℕ
  /-- `g_ring_buffer_module_data` -/
  ringBufferModuleData : Option ℕ

def DebugGlobals.empty : DebugGlobals := ⟨.none, fun _ => 0, none⟩

/-- How far `debug_start` gets. -/
inductive DebugStart where
  | noMessageQueue
  | noServerThread
  | started

def freeResourcesForRingBufferModule (globals : DebugGlobals) (data : Option ℕ) :
    Option DebugGlobals :=
  (globals.modules.giveBack data).map fun modules => { globals with modules := modules }

def startRingBufferModule (client : ℕ) (globals : DebugGlobals) : DebugGlobals where
  modules := globals.modules.alloc
  owner := Function.update globals.owner globals.modules.count client
  ringBufferModuleData := some globals.modules.count

/-- If the thread of the gdb server cannot be created, the module is freed at once, and the variable
keeps pointing to it. -/
def debugStart (client : ℕ) (globals : DebugGlobals) : DebugStart → DebugGlobals
  | .noMessageQueue => globals
  | .noServerThread =>
      let globals := startRingBufferModule client globals
      { globals with modules := globals.modules.release (globals.modules.count - 1) }
  | .started => startRingBufferModule client globals

/-- The module of the client that was started last, whichever client is stopped. -/
def debugStop (globals : DebugGlobals) : Option DebugGlobals :=
  freeResourcesForRingBufferModule globals globals.ringBufferModuleData

/-- The modules of a client are not freed. -/
def DebugKept (client : ℕ) (before after : DebugGlobals) : Prop :=
  ∀ data, before.owner data = client → before.modules.Live data → after.modules.Live data

/-- The module that the variable points to has not been freed and is not the client's. -/
def DebugSpared (client : ℕ) (globals : DebugGlobals) : Prop :=
  ∀ data ∈ globals.ringBufferModuleData,
    globals.modules.Live data ∧ globals.owner data ≠ client

theorem debugKept_debugStop_iff {client : ℕ} {globals : DebugGlobals} :
    (∃ after ∈ debugStop globals, DebugKept client globals after) ↔ DebugSpared client globals := by
  simp only [debugStop, freeResourcesForRingBufferModule, Option.mem_def, Option.map_eq_some_iff,
    Allocations.giveBack_eq_some_iff]
  constructor
  · rintro ⟨_, ⟨_, ⟨live, rfl⟩, rfl⟩, kept⟩ data isData
    refine ⟨live data isData, fun owned => ?_⟩
    have after := kept data owned (live data isData)
    rw [isData] at after
    exact Allocations.not_live_release after
  · intro spared
    refine ⟨_, ⟨_, ⟨fun data isData => (spared data isData).1, rfl⟩, rfl⟩, ?_⟩
    intro data owned live
    cases isData : globals.ringBufferModuleData with
    | none => exact live
    | some freed =>
        refine Allocations.live_release_iff.2 ⟨live, ?_⟩
        rintro rfl
        exact (spared _ isData).2 owned

/-! ## The RPC service -/

/-- The files that `rpmsg_rpc_service_init` has opened. -/
structure LogGlobals where
  descriptors : Allocations
  streams : Allocations
  /-- `lfd`; `none` is `STDOUT_FILENO` -/
  lfd : Option ℕ
  /-- `fp`; `none` is the null pointer -/
  fp : Option ℕ

def LogGlobals.empty : LogGlobals := ⟨.none, .none, none, none⟩

/-- `opened` and `fopened` tell whether `open` and `fopen` succeed. If `fopen` fails, the descriptor
is closed, and `lfd` keeps it. -/
def rpmsgRpcServiceInit (opened fopened : Bool) (globals : LogGlobals) : LogGlobals :=
  let globals :=
    if opened then
      { globals with
        descriptors := globals.descriptors.alloc
        lfd := some globals.descriptors.count }
    else { globals with lfd := none }
  if fopened then
    { globals with streams := globals.streams.alloc, fp := some globals.streams.count }
  else
    { globals with
      descriptors := globals.lfd.elim globals.descriptors globals.descriptors.release
      fp := none }

/-- The variables stand for those of the service's program. -/
structure LogGlobals.StandFor (globals : LogGlobals) (files : Rpc.LogFiles) : Prop where
  lfd : globals.lfd = none ↔ files.lfd = Rpc.stdoutFileno
  fp : globals.fp = none ↔ files.fp = 0

theorem standFor_rpmsgRpcServiceInit {results : ℕ → Rpc.OsResult} {table ret : ℤ}
    {start last : Rpc.State} {files : Rpc.LogFiles}
    (ends : (Rpc.rpmsgRpcServiceInit table).final results start = some ((ret, files), last)) :
    ∃ opened fopened, (fopened = true ↔ ret = 0) ∧
      ∀ globals, (rpmsgRpcServiceInit opened fopened globals).StandFor files := by
  rcases Rpc.final_rpmsgRpcServiceInit results table start with ⟨_, returns⟩
  rw [returns, Option.some.injEq, Prod.mk.injEq, Prod.mk.injEq] at ends
  rcases ends with ⟨⟨rfl, rfl⟩, -⟩
  generalize results start.clock = descriptor
  generalize results (start.clock + 1) = stream
  refine ⟨decide ((Rpc.LogFiles.assigned descriptor stream).lfd ≠ Rpc.stdoutFileno),
    decide (stream.pointer.toNat ≠ 0), ?_, fun globals => ⟨?_, ?_⟩⟩
  · simp [enomem]
  · simp only [rpmsgRpcServiceInit, decide_eq_true_eq]
    split_ifs <;> simp_all
  · simp only [rpmsgRpcServiceInit, decide_eq_true_eq, Rpc.LogFiles.assigned]
    split_ifs <;> simp_all

/-- `fclose(fp)` and `close(lfd)`; neither variable is reset. -/
def rpmsgRpcServiceTerminate (globals : LogGlobals) : Option LogGlobals :=
  (globals.streams.giveBack globals.fp).bind fun streams =>
    (globals.descriptors.giveBack globals.lfd).map fun descriptors =>
      { globals with streams := streams, descriptors := descriptors }

/-- The files that requests are logged to and written to stay open. -/
structure LogsKept (before after : LogGlobals) : Prop where
  fp : ∀ stream ∈ before.fp, before.streams.Live stream →
    after.fp = some stream ∧ after.streams.Live stream
  lfd : ∀ descriptor ∈ before.lfd, before.descriptors.Live descriptor →
    after.lfd = some descriptor ∧ after.descriptors.Live descriptor

theorem LogsKept.refl (globals : LogGlobals) : LogsKept globals globals :=
  ⟨fun _ isFp live => ⟨isFp, live⟩, fun _ isLfd live => ⟨isLfd, live⟩⟩

/-- Neither variable refers to a file that has been closed. -/
def LogsOpen (globals : LogGlobals) : Prop :=
  (∀ stream ∈ globals.fp, globals.streams.Live stream) ∧
    ∀ descriptor ∈ globals.lfd, globals.descriptors.Live descriptor

theorem terminate_eq_some_iff {globals after : LogGlobals} :
    rpmsgRpcServiceTerminate globals = some after ↔ LogsOpen globals ∧ after =
      { globals with
        streams := globals.fp.elim globals.streams globals.streams.release
        descriptors := globals.lfd.elim globals.descriptors globals.descriptors.release } := by
  simp only [rpmsgRpcServiceTerminate, Option.bind_eq_some_iff, Option.map_eq_some_iff,
    Allocations.giveBack_eq_some_iff, LogsOpen]
  constructor
  · rintro ⟨_, ⟨fpLive, rfl⟩, _, ⟨lfdLive, rfl⟩, rfl⟩
    exact ⟨⟨fpLive, lfdLive⟩, rfl⟩
  · rintro ⟨⟨fpLive, lfdLive⟩, rfl⟩
    exact ⟨_, ⟨fpLive, rfl⟩, _, ⟨lfdLive, rfl⟩, rfl⟩

theorem logsKept_terminate_iff {globals : LogGlobals} (uses : Prop) :
    (∃ after ∈ rpmsgRpcServiceTerminate globals, uses → LogsKept globals after) ↔
      LogsOpen globals ∧ (uses → globals.fp = none ∧ globals.lfd = none) := by
  simp only [Option.mem_def, terminate_eq_some_iff]
  constructor
  · rintro ⟨after, ⟨logsOpen, rfl⟩, kept⟩
    refine ⟨logsOpen, fun using_ => ⟨?_, ?_⟩⟩
    · cases isFp : globals.fp with
      | none => rfl
      | some stream =>
          have live := ((kept using_).fp stream isFp (logsOpen.1 stream isFp)).2
          rw [isFp] at live
          exact absurd live Allocations.not_live_release
    · cases isLfd : globals.lfd with
      | none => rfl
      | some descriptor =>
          have live := ((kept using_).lfd descriptor isLfd (logsOpen.2 descriptor isLfd)).2
          rw [isLfd] at live
          exact absurd live Allocations.not_live_release
  · rintro ⟨logsOpen, noFiles⟩
    refine ⟨_, ⟨logsOpen, rfl⟩, fun using_ => ?_⟩
    rcases noFiles using_ with ⟨noFp, noLfd⟩
    refine ⟨?_, ?_⟩
    · simp [noFp]
    · simp [noLfd]

end Mica.Micad
