import Mica.Lifecycle.RbufDevice

/-!
# Starting a client

A start goes through up to eight calls that share one `ret`. It is all or nothing as
long as nothing fails once the OS of the client runs: `mica_start` forgets that
`create_rpmsg_device` failed when it creates the ring-buffer device, and no error
path takes the client back to offline.
-/

namespace Mica.Lifecycle

open Errno

instance (client : Client) : (event : Event) → Decidable (client.Stops event)
  | ⟨.stop, _⟩ => inferInstanceAs (Decidable True)
  | ⟨.status, _⟩ => inferInstanceAs (Decidable (_ ∧ _))
  | ⟨.rm, _⟩ => inferInstanceAs (Decidable (_ ∧ _))
  | ⟨.start, _⟩ | ⟨.gdb, _⟩ | ⟨.other, _⟩ => inferInstanceAs (Decidable False)

/-- A client and what its listener has been answered. -/
structure Session where
  client : Client
  /-- The latest start was answered with `MICA_MSG_SUCCESS`, and there was no stop since. -/
  started : Bool
  /-- The last command was a start in state offline, answered with `MICA_MSG_FAILED`. -/
  refused : Bool

namespace Session

def created (debug : Bool) : Session := ⟨.created debug, false, false⟩

def handle (session : Session) (event : Event) : Session :=
  if session.client.removed then session
  else
    let (client, answer) := clientCtrlHandler event.results session.client event.command
    { client := client
      started :=
        if event.command = .start then answer = .success
        else session.started ∧ ¬session.client.Stops event
      refused := event.command = .start ∧ session.client.state = .offline ∧ answer = .failed }

end Session

namespace Client

/-- Everything a start sets up is there. -/
structure Complete (client : Client) : Prop where
  rdev : client.rdev = true
  rbufDev : client.debug = true →
    ∃ rbufDev, client.rbufDev = some rbufDev ∧ client.rbufDevices.Live rbufDev
  services : ∀ service ∈ ownServices client.debug, service ∈ client.services

/-- Nothing of a start is left, so the client can be started again. -/
structure Untouched (client : Client) : Prop where
  state : client.state = .offline
  services : client.services = []

end Client

namespace Session

def AllOrNothing (session : Session) : Prop :=
  (session.started = true → session.client.Complete) ∧
    (session.refused = true → session.client.Untouched)

end Session

namespace Results

/-- `create_rpmsg_device` succeeds. -/
def RpmsgDevice (results : Results) : Prop :=
  results.rpmsgMemory = true ∧ results.setupVdev = 0 ∧ results.virtio = true ∧
    results.rpmsgInitVdev = 0

/-- `create_rbuf_device` succeeds. -/
def RbufDevice (results : Results) : Prop :=
  results.rbufMemory = true ∧ results.rbufEntry = true ∧ results.rbufShmem = true

/-- Everything that a start does once the OS of the client runs succeeds. -/
structure SetsUp (results : Results) (debug : Bool) : Prop where
  rpmsg : results.RpmsgDevice
  rbuf : debug = true → results.RbufDevice
  services : ∀ service ∈ ownServices debug, results.serviceMemory service = true

end Results

/-- A start in state offline gets through everything, or it fails before the OS of the client runs
and leaves the client offline. -/
def Client.StartsCleanly (client : Client) (event : Event) : Prop :=
  event.command = .start → client.removed = false → client.state = .offline →
    ¬client.Loads event.results ∧ (loadClientImage event.results client).1.state = .offline ∨
    client.Loads event.results ∧ event.results.start.ret ≠ 0 ∧
      event.results.start.state = .offline ∨
    client.Loads event.results ∧ event.results.start.ret = 0 ∧ event.results.SetsUp client.debug

/-! ## What a start does -/

section Start

variable {results : Results} {client : Client}

theorem createRpmsgDevice_of_rpmsgDevice (succeeds : results.RpmsgDevice) :
    createRpmsgDevice results client = ({ client with rdev := true }, 0) := by
  rcases succeeds with ⟨memory, setup, virtio, init⟩
  simp [createRpmsgDevice, memory, setup, virtio, init]

theorem createRpmsgDevice_of_not_rpmsgDevice (fails : ¬results.RpmsgDevice) :
    (createRpmsgDevice results client).1 = client ∧
      (createRpmsgDevice results client).2 ≠ 0 := by
  rw [createRpmsgDevice]
  split_ifs with memory setup virtio init
  · exact ⟨rfl, setup⟩
  · exact ⟨rfl, init⟩
  · exact absurd ⟨memory, not_not.1 setup, virtio, not_not.1 init⟩ fails
  · exact ⟨rfl, (by decide : -einval ≠ 0)⟩
  · exact ⟨rfl, (by decide : -enomem ≠ 0)⟩

theorem ret_createRbufDevice :
    (createRbufDevice results client).2 = 0 ↔ results.RbufDevice := by
  rw [Results.RbufDevice, ← setupRbufDev_eq_zero]
  rcases createRbufDevice_cases results client with
    ⟨noMemory, same⟩ | ⟨memory, finished, made⟩ | ⟨memory, unfinished, lost⟩
  · simp [same, noMemory, enomem]
  · simp [made, memory, finished]
  · simp [lost, memory]

theorem registerServices_of_memory {services : List Service} (running : client.state = .running)
    (memory : ∀ service ∈ services, results.serviceMemory service = true) :
    registerServices results services client =
      ({ client with services := client.services ++ services }, 0) := by
  induction services generalizing client with
  | nil => simp [registerServices]
  | cons service rest ih =>
      have first : micaRegisterService results service client =
          ({ client with services := client.services ++ [service] }, 0) := by
        simp [micaRegisterService, running, memory service List.mem_cons_self]
      rw [registerServices, first]
      simp only [ne_eq, not_true_eq_false, if_false]
      rw [ih (by exact running) fun other listed => memory other (List.mem_cons_of_mem _ listed)]
      simp

theorem ret_registerServices_ne_zero {services : List Service}
    (noMemory : ¬∀ service ∈ services, results.serviceMemory service = true) :
    (registerServices results services client).2 ≠ 0 := by
  induction services generalizing client with
  | nil => exact absurd (fun service listed => nomatch listed) noMemory
  | cons service rest ih =>
      simp only [registerServices]
      split_ifs with failed
      · exact failed
      · apply ih
        intro memory
        apply noMemory
        intro other listed
        rcases List.mem_cons.1 listed with rfl | later
        · by_contra missing
          apply failed
          rw [micaRegisterService, if_pos missing]
          split
          · exact (by decide : -eperm ≠ 0)
          · exact (by decide : -enomem ≠ 0)
        · exact memory other later

theorem handleStart_of_ret_ne_zero (fails : (micaStart results client).2 ≠ 0) :
    handleStart results client = micaStart results client := by
  simp only [handleStart]
  rw [if_pos fails]

theorem handleStart_of_ret_eq_zero (succeeds : (micaStart results client).2 = 0) :
    handleStart results client =
      registerServices results (ownServices (micaStart results client).1.debug)
        (micaStart results client).1 := by
  simp only [handleStart]
  rw [if_neg (not_not.2 succeeds)]

theorem handleStart_of_not_loads (fails : ¬client.Loads results) :
    handleStart results client = loadClientImage results client := by
  have started := micaStart_of_not_loads fails
  rw [handleStart_of_ret_ne_zero, started]
  rw [started]
  exact fails

theorem handleStart_of_not_boots (loads : client.Loads results) (fails : results.start.ret ≠ 0) :
    handleStart results client = (client.booted results, results.start.ret) := by
  have started := micaStart_of_not_boots loads fails
  rw [handleStart_of_ret_ne_zero, started]
  rw [started]
  exact fails

theorem handleStart_of_boots (loads : client.Loads results)
    (boots : results.start.ret = 0) :
    (handleStart results client).1 =
      if (micaStart results client).2 ≠ 0 then (micaStart results client).1
      else (registerServices results (ownServices client.debug)
        (micaStart results client).1).1 := by
  have debug : (micaStart results client).1.debug = client.debug := by
    rcases booted_frame results client with ⟨_, _, _, booted⟩
    rcases createRpmsgDevice_frame results (client.booted results) with ⟨_, created⟩
    rcases createRbufDevice_frame results (createRpmsgDevice results (client.booted results)).1 with
      ⟨_, _, buffered⟩
    rw [micaStart_of_boots loads boots]
    split
    · rw [buffered, created, booted]
    · rw [created, booted]
  simp only [handleStart]
  rw [debug]
  split
  · rfl
  · rfl

theorem handleStart_of_not_offline (busy : client.state ≠ .offline) :
    (handleStart results client).1 = client ∧ (handleStart results client).2 ≠ 0 := by
  have refused : loadClientImage results client = (client, -einval) := by
    rw [loadClientImage, remoteprocConfig, if_pos busy]
    split
    · rfl
    · rfl
  have fails : ¬client.Loads results := by
    rw [Client.Loads, refused]
    exact (by decide : -einval ≠ 0)
  rw [handleStart_of_not_loads fails, refused]
  exact ⟨rfl, (by decide : -einval ≠ 0)⟩

theorem micaStart_of_setsUp (loads : client.Loads results) (boots : results.start.ret = 0)
    (rpmsg : results.RpmsgDevice) (rbuf : client.debug = true → results.RbufDevice) :
    ∃ rscTable mems nextVa rbufDev rbufDevices,
      micaStart results client =
        ({ client with
            state := .running, rscTable := rscTable, mems := mems, nextVa := nextVa
            rdev := true, rbufDev := rbufDev, rbufDevices := rbufDevices }, 0) ∧
      (client.debug = true →
        rbufDev = some client.rbufDevices.count ∧ rbufDevices = client.rbufDevices.alloc) := by
  rcases booted_frame results client with ⟨rscTable, mems, nextVa, booted⟩
  rw [results.start.running boots] at booted
  rw [micaStart_of_boots loads boots, createRpmsgDevice_of_rpmsgDevice rpmsg, booted]
  cases debug : client.debug with
  | false =>
      exact ⟨rscTable, mems, nextVa, client.rbufDev, client.rbufDevices, by simp,
        fun isDebug => nomatch isDebug⟩
  | true =>
      rcases rbuf debug with ⟨memory, setup⟩
      refine ⟨rscTable, mems, nextVa, _, _, ?_, fun _ => ⟨rfl, rfl⟩⟩
      rw [← setupRbufDev_eq_zero] at setup
      simp [createRbufDevice, memory, setup]

theorem complete_of_setsUp (tracks : client.TracksRbufDev) (loads : client.Loads results)
    (boots : results.start.ret = 0) (setsUp : results.SetsUp client.debug) :
    (handleStart results client).2 = 0 ∧ (handleStart results client).1.state = .running ∧
      (handleStart results client).1.Complete := by
  rcases micaStart_of_setsUp loads boots setsUp.rpmsg setsUp.rbuf with
    ⟨_, _, _, rbufDev, rbufDevices, started, device⟩
  have succeeds : (micaStart results client).2 = 0 := by rw [started]
  rw [handleStart_of_ret_eq_zero succeeds, started,
    registerServices_of_memory (by rfl) setsUp.services]
  refine ⟨rfl, rfl, rfl, ?_, ?_⟩
  · intro debug
    rcases device debug with ⟨rfl, rfl⟩
    exact ⟨_, rfl, tracks.bounded.live_alloc⟩
  · intro service own
    exact List.mem_append_right _ own

theorem incomplete_of_not_setsUp (loads : client.Loads results) (boots : results.start.ret = 0)
    (fails : ¬results.SetsUp client.debug) :
    (handleStart results client).1.state = .running ∧
      ((handleStart results client).2 ≠ 0 ∨
        (handleStart results client).1.rdev = client.rdev) := by
  rcases booted_frame results client with ⟨_, _, _, booted⟩
  rw [results.start.running boots] at booted
  rcases createRpmsgDevice_frame results (client.booted results) with ⟨_, created⟩
  rcases createRbufDevice_frame results (createRpmsgDevice results (client.booted results)).1 with
    ⟨_, _, buffered⟩
  rcases handleStart_frame results client with ⟨_, handled⟩
  have started := micaStart_of_boots loads boots
  have running : (micaStart results client).1.state = .running := by
    rw [started]
    split
    · rw [buffered, created, booted]
    · rw [created, booted]
  refine ⟨by rw [handled]; exact running, ?_⟩
  by_cases rpmsg : results.RpmsgDevice
  · left
    by_cases rbuf : client.debug = true → results.RbufDevice
    · rcases micaStart_of_setsUp loads boots rpmsg rbuf with ⟨_, _, _, _, _, succeeded, -⟩
      rw [handleStart_of_ret_eq_zero (by rw [succeeded]), succeeded]
      apply ret_registerServices_ne_zero
      intro memory
      exact fails ⟨rpmsg, rbuf, memory⟩
    · rw [Classical.not_imp] at rbuf
      have failed : (micaStart results client).2 ≠ 0 := by
        rw [started, if_pos rbuf.1]
        exact fun succeeds => rbuf.2 (ret_createRbufDevice.1 succeeds)
      rw [handleStart_of_ret_ne_zero failed]
      exact failed
  · right
    have same := (@createRpmsgDevice_of_not_rpmsgDevice results (client.booted results) rpmsg).1
    rw [same] at buffered
    rw [handled, started, same]
    split
    · rw [buffered, booted]
    · rw [same, booted]

end Start

/-! ## Runs -/

/-- A client that does not run has no services and no rpmsg device. -/
def Client.Idle (client : Client) : Prop :=
  client.state ≠ .running → client.services = [] ∧ client.rdev = false

theorem Client.Idle.handleStart {client : Client} (idle : client.Idle)
    (tracks : client.TracksRbufDev) (results : Results) :
    (handleStart results client).1.Idle := by
  by_cases offline : client.state = .offline
  · have nothing := idle (by rw [offline]; decide)
    by_cases loads : client.Loads results
    · by_cases boots : results.start.ret = 0
      · have running : (Lifecycle.handleStart results client).1.state = .running := by
          by_cases setsUp : results.SetsUp client.debug
          · exact (complete_of_setsUp tracks loads boots setsUp).2.1
          · exact (incomplete_of_not_setsUp loads boots setsUp).1
        exact fun idle => absurd running idle
      · rcases booted_frame results client with ⟨_, _, _, booted⟩
        rw [handleStart_of_not_boots loads boots, booted]
        exact fun _ => nothing
    · rcases loadClientImage_frame results client with ⟨_, _, _, _, loaded⟩
      rw [handleStart_of_not_loads loads, loaded]
      exact fun _ => nothing
  · rw [(handleStart_of_not_offline offline).1]
    exact idle

theorem Client.Idle.micaStop (client : Client) (results : Results) :
    (micaStop results client).Idle := by
  intro _
  cases debug : client.debug with
  | false =>
      rcases micaStop_of_not_debug results client debug with ⟨_, _, _, stopped⟩
      rw [stopped]
      exact ⟨rfl, rfl⟩
  | true =>
      rcases micaStop_of_debug results client debug with ⟨_, _, _, stopped⟩
      rw [stopped]
      exact ⟨rfl, rfl⟩

namespace Session

/-- The devices are accounted for, and a client that does not run is idle. -/
structure Consistent (session : Session) : Prop where
  tracks : session.client.TracksRbufDev
  idle : session.client.Idle

variable {session : Session} {event : Event}

theorem client_handle : (session.handle event).client = session.client.handle event := by
  rw [handle, Client.handle]
  split
  · rfl
  · rfl

theorem handle_of_start (present : session.client.removed = false)
    (isStart : event.command = .start) :
    session.handle event =
      ⟨(handleStart event.results session.client).1,
        decide ((handleStart event.results session.client).2 = 0),
        decide (session.client.state = .offline ∧
          (handleStart event.results session.client).2 ≠ 0)⟩ := by
  rw [handle, present, if_neg Bool.false_ne_true, isStart]
  by_cases succeeds : (handleStart event.results session.client).2 = 0
  · simp [clientCtrlHandler, answerOf, succeeds]
  · simp [clientCtrlHandler, answerOf, succeeds]

theorem Consistent.handle (consistent : session.Consistent) (event : Event) :
    (session.handle event).Consistent := by
  refine ⟨?_, ?_⟩
  · rw [client_handle]
    exact consistent.tracks.handle event
  · by_cases present : session.client.removed = false
    · by_cases isStart : event.command = .start
      · rw [handle_of_start present isStart]
        exact consistent.idle.handleStart consistent.tracks event.results
      · rw [client_handle]
        by_cases stops : session.client.Stops event
        · rcases handle_of_stops present stops with ⟨_, handled⟩
          rw [handled]
          exact Client.Idle.micaStop session.client event.results
        · rcases handle_of_not_stops isStart stops with ⟨_, handled⟩
          rw [handled]
          exact consistent.idle
    · rw [Session.handle, if_pos (Bool.not_eq_false _ ▸ present)]
      exact consistent.idle

theorem consistent_created (debug : Bool) : (created debug).Consistent :=
  ⟨Client.tracksRbufDev_created debug, fun _ => ⟨rfl, rfl⟩⟩

theorem allOrNothing_refused {client : Client} (idle : client.services = []) :
    (Session.mk client false true).AllOrNothing ↔ client.state = .offline := by
  constructor
  · intro whole
    exact (whole.2 rfl).state
  · intro offline
    exact ⟨fun started => (nomatch started), fun _ => ⟨offline, idle⟩⟩

theorem allOrNothing_start_iff (consistent : session.Consistent)
    (offline : session.client.state = .offline) (results : Results) :
    (Session.mk (handleStart results session.client).1
        (decide ((handleStart results session.client).2 = 0))
        (decide (session.client.state = .offline ∧
          (handleStart results session.client).2 ≠ 0))).AllOrNothing ↔
      ¬session.client.Loads results ∧
          (loadClientImage results session.client).1.state = .offline ∨
      session.client.Loads results ∧ results.start.ret ≠ 0 ∧ results.start.state = .offline ∨
      session.client.Loads results ∧ results.start.ret = 0 ∧
        results.SetsUp session.client.debug := by
  have nothing := consistent.idle (by rw [offline]; decide)
  simp only [offline, true_and]
  by_cases loads : session.client.Loads results
  · by_cases boots : results.start.ret = 0
    · by_cases setsUp : results.SetsUp session.client.debug
      · -- everything succeeds
        rcases complete_of_setsUp consistent.tracks loads boots setsUp with
          ⟨succeeds, -, complete⟩
        simp only [succeeds, ne_eq, not_true_eq_false, decide_true, decide_false]
        exact ⟨fun _ => Or.inr (Or.inr ⟨loads, boots, setsUp⟩),
          fun _ => ⟨fun _ => complete, fun refused => (nomatch refused)⟩⟩
      · -- the client stays running, or it is reported to be started without its rpmsg device
        rcases incomplete_of_not_setsUp loads boots setsUp with ⟨running, incomplete⟩
        have broken : ¬(Session.mk (handleStart results session.client).1
            (decide ((handleStart results session.client).2 = 0))
            (decide ((handleStart results session.client).2 ≠ 0))).AllOrNothing := by
          rintro ⟨complete, untouched⟩
          by_cases succeeds : (handleStart results session.client).2 = 0
          · have rdev := (complete (decide_eq_true succeeds)).rdev
            rcases incomplete with failed | same
            · exact failed succeeds
            · rw [same, nothing.2] at rdev
              cases rdev
          · have stopped := (untouched (decide_eq_true succeeds)).state
            rw [running] at stopped
            cases stopped
        exact iff_of_false broken (by simp [loads, boots, setsUp])
    · rcases booted_frame results session.client with ⟨_, _, _, booted⟩
      rw [handleStart_of_not_boots loads boots]
      simp only [boots, ne_eq, not_false_eq_true, decide_true, decide_false]
      rw [allOrNothing_refused (by rw [booted]; exact nothing.1), booted]
      simp [loads]
  · rcases loadClientImage_frame results session.client with ⟨_, _, _, _, loaded⟩
    rw [handleStart_of_not_loads loads]
    rw [Client.Loads] at loads
    simp only [loads, ne_eq, not_false_eq_true, decide_true, decide_false]
    rw [allOrNothing_refused (by rw [loaded]; exact nothing.1)]
    simp [Client.Loads, loads]

theorem allOrNothing_handle_iff (consistent : session.Consistent) (whole : session.AllOrNothing)
    (event : Event) :
    (session.handle event).AllOrNothing ↔ session.client.StartsCleanly event := by
  by_cases present : session.client.removed = false
  · by_cases isStart : event.command = .start
    · rw [handle_of_start present isStart]
      by_cases offline : session.client.state = .offline
      · rw [allOrNothing_start_iff consistent offline]
        exact ⟨fun clean _ _ _ => clean, fun clean => clean isStart present offline⟩
      · have refused := (@handleStart_of_not_offline event.results _ offline).2
        simp only [refused, offline, false_and, decide_false]
        exact ⟨fun _ _ _ isOffline => absurd isOffline offline,
          fun _ => ⟨fun started => (nomatch started), fun failed => (nomatch failed)⟩⟩
    · refine ⟨fun _ started => absurd started isStart, fun _ => ?_⟩
      have handled : session.handle event =
          ⟨session.client.handle event,
            decide (session.started ∧ ¬session.client.Stops event), false⟩ := by
        rw [← client_handle, handle, present, if_neg Bool.false_ne_true]
        simp [isStart]
      rw [handled]
      refine ⟨?_, fun refused => (nomatch refused)⟩
      intro started
      rcases of_decide_eq_true started with ⟨earlier, runs⟩
      rcases handle_of_not_stops isStart runs with ⟨_, same⟩
      have complete := whole.1 earlier
      rw [same]
      exact ⟨complete.rdev, complete.rbufDev, complete.services⟩
  · rw [handle, if_pos (Bool.not_eq_false _ ▸ present)]
    exact ⟨fun _ _ here => absurd here present, fun _ => whole⟩

/-- Start is all or nothing in all states of a run exactly if every start in state offline gets
through everything, or fails in `load_client_image` or `start_client` and leaves the client
offline. -/
theorem allOrNothing_throughout_iff (debug : Bool) (events : List Event) :
    Run.AllStates handle (created debug) AllOrNothing events ↔
      Run.AllSteps handle (created debug) (fun session => session.client.StartsCleanly) events := by
  apply Run.allStates_iff_allSteps (consistent_created debug)
  · intro session event consistent
    exact consistent.handle event
  · exact ⟨fun started => (nomatch started), fun refused => (nomatch refused)⟩
  · intro session event consistent whole
    exact allOrNothing_handle_iff consistent whole event

/-- The rpmsg device of a client with debugging cannot be created. The start is reported as a
success. -/
theorem not_allOrNothing_withoutRdev :
    ¬Run.AllStates handle (created true) AllOrNothing
      [⟨.start, { Results.smooth with virtio := false }⟩] := by
  intro whole
  have complete := (whole _ (List.prefix_refl _)).1 rfl
  exact absurd complete.rdev (by decide)

end Session

end Mica.Lifecycle
