import Mica.Lifecycle.Basic
import Mica.Lib.Run

/-!
# Ownership of the ring-buffer device

`create_rbuf_device` stores the device in `client->rbuf_dev` before it is set up, and
neither its error path nor `destroy_rbuf_device` clears the pointer. So the client
owns a device only as long as none has been freed: the first one that is freed stays
in `client->rbuf_dev`, and the next stop frees it again.
-/

namespace Mica.Lifecycle

namespace Client

/-- `client->rbuf_dev` is NULL or a device that has not been freed, and no device has been freed
twice. -/
def OwnsRbufDev (client : Client) : Prop :=
  (∀ rbufDev, client.rbufDev = some rbufDev → client.rbufDevices.Live rbufDev) ∧
    client.rbufDevices.released.Nodup

/-- A start that allocates a device gets through `setup_rbuf_dev`. -/
def FinishesRbufDev (client : Client) (results : Results) : Prop :=
  client.debug = true → client.Loads results → results.start.ret = 0 → results.rbufMemory = true →
    results.rbufEntry = true ∧ results.rbufShmem = true

/-- A stop finds no device. -/
def LacksRbufDev (client : Client) : Prop := client.debug = true → client.rbufDev = none

/-- The command frees no device. -/
def KeepsRbufDev (client : Client) (event : Event) : Prop :=
  client.removed = false →
    (client.Stops event → client.LacksRbufDev) ∧
      (event.command = .start → client.FinishesRbufDev event.results)

/-- The devices are among those that have been allocated. -/
structure TracksRbufDev (client : Client) : Prop where
  bounded : client.rbufDevices.Bounded
  allocated : ∀ rbufDev, client.rbufDev = some rbufDev → rbufDev < client.rbufDevices.count

/-- What a command does to the devices. -/
inductive RbufStep (client later : Client) : Prop where
  | kept (rbufDev : later.rbufDev = client.rbufDev)
    (devices : later.rbufDevices = client.rbufDevices)
  | made (rbufDev : later.rbufDev = some client.rbufDevices.count)
      (devices : later.rbufDevices = client.rbufDevices.alloc)

/-- A command leaves a device that has been freed in `client->rbuf_dev`. -/
inductive RbufLoss (client later : Client) : Prop where
  | unfinished (rbufDev : later.rbufDev = some client.rbufDevices.count)
      (devices : later.rbufDevices = client.rbufDevices.alloc.release client.rbufDevices.count)
  | destroyed {device : ℕ} (before : client.rbufDev = some device)
      (rbufDev : later.rbufDev = some device)
      (devices : later.rbufDevices = client.rbufDevices.release device)

variable {client later : Client}

theorem TracksRbufDev.step (tracks : client.TracksRbufDev) (step : RbufStep client later) :
    later.TracksRbufDev := by
  cases step with
  | kept rbufDev devices =>
      constructor
      · rw [devices]
        exact tracks.bounded
      · rw [devices, rbufDev]
        exact tracks.allocated
  | made rbufDev devices =>
      constructor
      · rw [devices]
        exact tracks.bounded.alloc
      · rw [devices, rbufDev]
        rintro device ⟨⟩
        exact Nat.lt_succ_self _

theorem TracksRbufDev.loss (tracks : client.TracksRbufDev) (loss : RbufLoss client later) :
    later.TracksRbufDev := by
  cases loss with
  | unfinished rbufDev devices =>
      constructor
      · rw [devices]
        exact tracks.bounded.alloc.release (Nat.lt_succ_self _)
      · rw [devices, rbufDev]
        rintro device ⟨⟩
        exact Nat.lt_succ_self _
  | destroyed before rbufDev devices =>
      have allocated := tracks.allocated _ before
      constructor
      · rw [devices]
        exact tracks.bounded.release allocated
      · rw [devices, rbufDev]
        rintro device ⟨⟩
        exact allocated

theorem OwnsRbufDev.step (owns : client.OwnsRbufDev) (tracks : client.TracksRbufDev)
    (step : RbufStep client later) : later.OwnsRbufDev := by
  cases step with
  | kept rbufDev devices =>
      rw [OwnsRbufDev, rbufDev, devices]
      exact owns
  | made rbufDev devices =>
      rw [OwnsRbufDev, rbufDev, devices]
      refine ⟨?_, owns.2⟩
      rintro device ⟨⟩
      exact tracks.bounded.live_alloc

theorem RbufLoss.not_owns (loss : RbufLoss client later) : ¬later.OwnsRbufDev := by
  rintro ⟨live, -⟩
  cases loss with
  | unfinished rbufDev devices =>
      rw [devices] at live
      exact Allocations.not_live_release (live _ rbufDev)
  | destroyed before rbufDev devices =>
      rw [devices] at live
      exact Allocations.not_live_release (live _ rbufDev)

section Start

variable {results : Results}

theorem kept_loadClientImage : RbufStep client (loadClientImage results client).1 := by
  rcases loadClientImage_frame results client with ⟨_, _, _, _, loaded⟩
  rw [loaded]
  exact .kept rfl rfl

theorem kept_booted : RbufStep client (client.booted results) := by
  rcases booted_frame results client with ⟨_, _, _, booted⟩
  rw [booted]
  exact .kept rfl rfl

theorem kept_createRpmsgDevice :
    RbufStep client (createRpmsgDevice results (client.booted results)).1 := by
  rcases booted_frame results client with ⟨_, _, _, booted⟩
  rcases createRpmsgDevice_frame results (client.booted results) with ⟨_, created⟩
  rw [created, booted]
  exact .kept rfl rfl

theorem rbuf_micaStart (results : Results) (client : Client) :
    client.FinishesRbufDev results ∧ RbufStep client (micaStart results client).1 ∨
      ¬client.FinishesRbufDev results ∧ RbufLoss client (micaStart results client).1 := by
  by_cases loads : client.Loads results
  · by_cases boots : results.start.ret = 0
    · rw [micaStart_of_boots loads boots]
      cases debug : client.debug with
      | false =>
          refine Or.inl ⟨?_, kept_createRpmsgDevice⟩
          intro isDebug
          rw [debug] at isDebug
          cases isDebug
      | true =>
          rcases booted_frame results client with ⟨_, _, _, booted⟩
          rcases createRpmsgDevice_frame results (client.booted results) with ⟨_, created⟩
          rw [if_pos rfl]
          rcases createRbufDevice_cases results
              (createRpmsgDevice results (client.booted results)).1 with
            ⟨noMemory, same⟩ | ⟨memory, finished, made⟩ | ⟨memory, unfinished, lost⟩
          · refine Or.inl ⟨?_, ?_⟩
            · intro _ _ _ memory
              rw [noMemory] at memory
              cases memory
            · rw [same]
              exact kept_createRpmsgDevice
          · refine Or.inl ⟨fun _ _ _ _ => setupRbufDev_eq_zero.1 finished, ?_⟩
            rw [made, created, booted]
            exact .made rfl rfl
          · refine Or.inr ⟨?_, ?_⟩
            · intro finishes
              exact unfinished (setupRbufDev_eq_zero.2 (finishes debug loads boots memory))
            · rw [lost, created, booted]
              exact .unfinished rfl rfl
    · rw [micaStart_of_not_boots loads boots]
      exact Or.inl ⟨fun _ _ booted => absurd booted boots, kept_booted⟩
  · rw [micaStart_of_not_loads loads]
    exact Or.inl ⟨fun _ loaded => absurd loaded loads, kept_loadClientImage⟩

end Start

theorem rbuf_micaStop (results : Results) (client : Client) :
    client.LacksRbufDev ∧ RbufStep client (micaStop results client) ∨
      ¬client.LacksRbufDev ∧ RbufLoss client (micaStop results client) := by
  cases debug : client.debug with
  | false =>
      rcases micaStop_of_not_debug results client debug with ⟨_, _, _, stopped⟩
      refine Or.inl ⟨?_, ?_⟩
      · intro isDebug
        rw [debug] at isDebug
        cases isDebug
      · rw [stopped]
        exact .kept rfl rfl
  | true =>
      rcases micaStop_of_debug results client debug with ⟨_, _, _, stopped⟩
      cases rbufDev : client.rbufDev with
      | none =>
          refine Or.inl ⟨fun _ => rbufDev, ?_⟩
          rw [stopped]
          exact .kept rfl (by simp only [destroyRbufDevice, rbufDev])
      | some device =>
          refine Or.inr ⟨?_, ?_⟩
          · intro lacks
            rw [lacks debug] at rbufDev
            cases rbufDev
          · rw [stopped]
            exact .destroyed rbufDev rbufDev (by simp only [destroyRbufDevice, rbufDev])

theorem RbufStep.congr {last : Client} (step : RbufStep client later)
    (rbufDev : last.rbufDev = later.rbufDev) (devices : last.rbufDevices = later.rbufDevices) :
    RbufStep client last := by
  cases step with
  | kept same sameDevices => exact .kept (rbufDev.trans same) (devices.trans sameDevices)
  | made new newDevices => exact .made (rbufDev.trans new) (devices.trans newDevices)

theorem RbufLoss.congr {last : Client} (loss : RbufLoss client later)
    (rbufDev : last.rbufDev = later.rbufDev) (devices : last.rbufDevices = later.rbufDevices) :
    RbufLoss client last := by
  cases loss with
  | unfinished new newDevices => exact .unfinished (rbufDev.trans new) (devices.trans newDevices)
  | destroyed before same sameDevices =>
      exact .destroyed before (rbufDev.trans same) (devices.trans sameDevices)

theorem rbuf_handle (client : Client) (event : Event) :
    client.KeepsRbufDev event ∧ RbufStep client (client.handle event) ∨
      ¬client.KeepsRbufDev event ∧ RbufLoss client (client.handle event) := by
  by_cases present : client.removed = false
  · by_cases stops : client.Stops event
    · have noStart : event.command ≠ .start := by
        intro isStart
        rw [Stops, isStart] at stops
        exact stops
      rcases handle_of_stops present stops with ⟨_, handled⟩
      rw [handled]
      rcases rbuf_micaStop event.results client with ⟨lacks, step⟩ | ⟨owns, loss⟩
      · exact Or.inl ⟨fun _ => ⟨fun _ => lacks, fun isStart => absurd isStart noStart⟩,
          step.congr rfl rfl⟩
      · exact Or.inr ⟨fun keeps => owns ((keeps present).1 stops), loss.congr rfl rfl⟩
    · by_cases isStart : event.command = .start
      · have handled : client.handle event = (handleStart event.results client).1 := by
          rw [handle, present, if_neg Bool.false_ne_true, isStart]
          rfl
        rcases handleStart_frame event.results client with ⟨_, started⟩
        rw [handled, started]
        rcases rbuf_micaStart event.results client with ⟨finishes, step⟩ | ⟨unfinished, loss⟩
        · exact Or.inl ⟨fun _ => ⟨fun stopped => absurd stopped stops, fun _ => finishes⟩,
            step.congr rfl rfl⟩
        · exact Or.inr ⟨fun keeps => unfinished ((keeps present).2 isStart), loss.congr rfl rfl⟩
      · rcases handle_of_not_stops isStart stops with ⟨_, handled⟩
        rw [handled]
        exact Or.inl ⟨fun _ => ⟨fun stopped => absurd stopped stops,
          fun started => absurd started isStart⟩, .kept rfl rfl⟩
  · refine Or.inl ⟨fun here => absurd here present, ?_⟩
    rw [handle, if_pos (Bool.not_eq_false _ ▸ present)]
    exact .kept rfl rfl

theorem TracksRbufDev.handle (tracks : client.TracksRbufDev) (event : Event) :
    (client.handle event).TracksRbufDev := by
  rcases rbuf_handle client event with ⟨-, step⟩ | ⟨-, loss⟩
  · exact tracks.step step
  · exact tracks.loss loss

theorem ownsRbufDev_handle_iff (event : Event) (tracks : client.TracksRbufDev)
    (owns : client.OwnsRbufDev) :
    (client.handle event).OwnsRbufDev ↔ client.KeepsRbufDev event := by
  rcases rbuf_handle client event with ⟨keeps, step⟩ | ⟨careless, loss⟩
  · exact ⟨fun _ => keeps, fun _ => owns.step tracks step⟩
  · exact ⟨fun owned => absurd owned loss.not_owns, fun keeps => absurd keeps careless⟩

theorem tracksRbufDev_created (debug : Bool) : (created debug).TracksRbufDev :=
  ⟨Allocations.bounded_none, fun _ pointer => nomatch pointer⟩

theorem ownsRbufDev_created (debug : Bool) : (created debug).OwnsRbufDev :=
  ⟨fun _ pointer => (nomatch pointer), List.nodup_nil⟩

/-- In all states of a run `client->rbuf_dev` is NULL or a device that has not been freed, and no
device is freed twice, exactly if no stop of a client with debugging finds a device and no start
fails in `setup_rbuf_dev`. -/
theorem ownsRbufDev_throughout_iff (debug : Bool) (events : List Event) :
    Run.AllStates handle (created debug) OwnsRbufDev events ↔
      Run.AllSteps handle (created debug) KeepsRbufDev events := by
  apply Run.allStates_iff_allSteps (tracksRbufDev_created debug)
  · intro client event tracks
    exact tracks.handle event
  · exact ownsRbufDev_created debug
  · intro client event tracks owns
    exact ownsRbufDev_handle_iff event tracks owns

/-- A client with debugging is started and stopped twice: the second stop frees the device that the
first one has freed. -/
theorem not_ownsRbufDev_stopTwice :
    ¬Run.AllStates handle (created true) OwnsRbufDev
      [⟨.start, .smooth⟩, ⟨.stop, .smooth⟩, ⟨.stop, .smooth⟩] := by
  intro owns
  have once : [0, 0].Nodup := (owns _ (List.prefix_refl _)).2
  exact absurd once (by decide)

end Client

end Mica.Lifecycle
