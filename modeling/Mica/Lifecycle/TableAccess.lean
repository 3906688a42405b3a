import Mica.Lib.Run
import Mica.Lifecycle.Threads

/-!
# Accesses to the resource table

The listener by itself accesses the resource table only while it is mapped: a start
goes on only if the image was loaded, and a client that runs has a table. A gdb server
does not know whether the client has been stopped, and `restart_client` keeps its
pointer into the table across the stop that unmaps it. So the accesses are inside the
life of the mapping as long as a gdb server reads the pointer only while there is a
table, is not in the middle of a packet when the listener unmaps it, and does not get
to the stop in `restart_client`.

The order of the calls is checked once for the code of each command and packet
(`covers` and `serves`); that a checked thread stays so is one lemma about `Call.exec`.
-/

namespace Mica.Lifecycle

namespace Client

open Errno

/-- The pointer leads to a mapping, and the client has a resource table. -/
def Holds (client : Client) (pointer : Option ℕ) : Prop :=
  client.rscTable ≠ none ∧ ∃ va, pointer = some va ∧ va ∈ client.mems

/-- The resource table is mapped, and a client that runs has one. -/
structure Mapped (client : Client) : Prop where
  mapped : ∀ va, client.rscTable = some va → va ∈ client.mems
  running : client.state = .running → client.rscTable ≠ none

/-- Pointers that lead to a mapping still do so. -/
def Keeps (client later : Client) : Prop := ∀ pointer, client.Holds pointer → later.Holds pointer

variable {client later : Client}

theorem Holds.inside {pointer : Option ℕ} (holds : client.Holds pointer) (site : Site) :
    (client.access site pointer).Inside := by
  rcases holds with ⟨hasTable, va, rfl, listed⟩
  exact ⟨hasTable, decide_eq_true listed⟩

theorem Mapped.holds (mapped : client.Mapped) (hasTable : client.rscTable ≠ none) :
    client.Holds client.rscTable := by
  rcases Option.ne_none_iff_exists'.1 hasTable with ⟨va, table⟩
  exact ⟨hasTable, va, table, mapped.mapped va table⟩

/-- The table and the mappings are the same, and the client does not start to run. -/
structure SameTable (client later : Client) : Prop where
  rscTable : later.rscTable = client.rscTable
  mems : later.mems = client.mems
  running : later.state = .running → client.state = .running

theorem SameTable.mapped (same : SameTable client later) (mapped : client.Mapped) :
    later.Mapped := by
  refine ⟨?_, ?_⟩
  · rw [same.rscTable, same.mems]
    exact mapped.mapped
  · intro running
    rw [same.rscTable]
    exact mapped.running (same.running running)

theorem SameTable.holds (same : SameTable client later) {pointer : Option ℕ} :
    later.Holds pointer ↔ client.Holds pointer := by
  rw [Holds, Holds, same.rscTable, same.mems]

theorem SameTable.refl (client : Client) : SameTable client client := ⟨rfl, rfl, id⟩

/-! ## Loading an image -/

theorem prepare_mapped (mapped : client.Mapped) (prepared : Prepared) :
    (client.prepare prepared).Mapped ∧ client.Keeps (client.prepare prepared) := by
  rw [prepare]
  split
  · refine ⟨⟨?_, fun running => absurd running prepared.notRunning⟩, ?_⟩
    · rintro va ⟨⟩
      exact List.mem_cons_self
    · rintro pointer ⟨-, va, rfl, listed⟩
      exact ⟨Option.some_ne_none _, va, rfl, List.mem_cons_of_mem _ listed⟩
  · refine ⟨⟨mapped.mapped, fun running => absurd running prepared.notRunning⟩, ?_⟩
    exact fun pointer holds => holds

theorem loadClientImage_mapped (mapped : client.Mapped) (results : Results) :
    (loadClientImage results client).1.Mapped ∧
      client.Keeps (loadClientImage results client).1 := by
  have configured : (remoteprocConfig results client).1.Mapped ∧
      client.Keeps (remoteprocConfig results client).1 := by
    rw [remoteprocConfig]
    split
    · exact ⟨mapped, fun _ holds => holds⟩
    · exact prepare_mapped mapped results.config
  rcases prepare_mapped configured.1 results.load with ⟨loaded, keeps⟩
  simp only [loadClientImage]
  split_ifs
  · exact ⟨mapped, fun _ holds => holds⟩
  · exact configured
  · exact configured
  · exact ⟨loaded, fun pointer holds => keeps pointer (configured.2 pointer holds)⟩
  · exact ⟨loaded, fun pointer holds => keeps pointer (configured.2 pointer holds)⟩

theorem rscTable_of_loads {results : Results} (loads : client.Loads results) :
    (loadClientImage results client).1.rscTable ≠ none := by
  have failed : -einval ≠ 0 := by decide
  revert loads
  rw [Loads]
  simp only [loadClientImage]
  split_ifs with missing refused ready unmapped
  · exact fun succeeded => absurd succeeded failed
  · exact fun succeeded => absurd succeeded failed
  · exact fun _ => Option.isSome_iff_ne_none.1 ready.1
  · exact fun succeeded => absurd succeeded failed
  · exact fun _ table => unmapped (Option.isNone_iff_eq_none.2 table)

end Client

/-! ## The code of the listener -/

/-- The calls may be made by the listener. `loaded` stands for a client that has a resource table,
`held` for a pointer to a mapping in `rsc_table`. -/
def covers (loaded held : Bool) : List Call → Bool
  | [] => true
  | .loadClientImage :: rest => covers true false rest
  | .startClient :: rest => loaded && covers loaded held rest
  | .readRscTable :: rest => loaded && covers loaded true rest
  | .createRpmsgDevice :: rest | .createRbufDevice :: rest => held && covers loaded held rest
  | .checkRet :: rest | .registerService _ :: rest | .remoteprocStop :: rest
  | .unregisterAllServices :: rest | .releaseRpmsgDevice :: rest | .destroyRbufDevice :: rest
  | .epollDel :: rest | .cancelGdbServer :: rest | .joinGdbServer :: rest
  | .freeListener :: rest => covers loaded held rest
  | .stopClient :: rest | .checkRunning :: rest | .checkOffline :: rest => covers false false rest
  | .checkReserved :: rest => held && covers false false rest
  | .findRsc _ :: _ | .writeCtrlC :: _ | .waitCpuStop :: _ | .sendToSharedMem :: _ => false

theorem covers_commandCalls (debug : Bool) (command : Command) :
    covers false false (commandCalls debug command) = true := by
  cases debug <;> cases command <;> rfl

theorem covers_micaStopCalls (debug : Bool) (rest : List Call) :
    covers false false (micaStopCalls debug ++ rest) = covers false false rest := by
  cases debug <;> rfl

/-- What the listener may rely on when it makes the calls that are left. -/
def Thread.Covered (thread : Thread) (client : Client) : Prop :=
  ∃ loaded held, covers loaded held thread.todo = true ∧
    (loaded = true → client.rscTable ≠ none) ∧ (held = true → client.Holds thread.rscTable)

namespace Thread

variable {thread : Thread} {client later : Client}

theorem covered_of_unloaded (covered : covers false false thread.todo = true) :
    thread.Covered client :=
  ⟨false, false, covered, fun loaded => (nomatch loaded), fun held => (nomatch held)⟩

theorem Covered.sameTable (covered : thread.Covered client) (same : client.SameTable later) :
    thread.Covered later := by
  rcases covered with ⟨loaded, held, checked, hasTable, holds⟩
  refine ⟨loaded, held, checked, ?_, ?_⟩
  · rw [same.rscTable]
    exact hasTable
  · rw [same.holds]
    exact holds

theorem Covered.check (covered : thread.Covered client) (ret : Int) :
    (thread.check ret).Covered client := by
  rw [Thread.check]
  split
  · exact covered_of_unloaded rfl
  · exact covered

end Thread

/-- After the call the listener is still covered, and the call has accessed a table that is mapped.
-/
structure Outcome.Sound (outcome : Outcome) : Prop where
  mapped : outcome.client.Mapped
  covered : outcome.thread.Covered outcome.client
  inside : ∀ access ∈ outcome.accesses, access.Inside

section Exec

variable {client later : Client} {thread next : Thread} {answers : Answers}

theorem sound_of_sameTable (mapped : client.Mapped) (same : client.SameTable later)
    (covered : next.Covered client) {accesses : List Access}
    (inside : ∀ access ∈ accesses, access.Inside) :
    (Outcome.mk later next accesses).Sound :=
  ⟨same.mapped mapped, covered.sameTable same, inside⟩

theorem sameTable_createRpmsgDevice (results : Results) (client : Client) :
    client.SameTable (createRpmsgDevice results client).1 := by
  rcases createRpmsgDevice_frame results client with ⟨_, created⟩
  rw [created]
  exact ⟨rfl, rfl, id⟩

theorem sameTable_createRbufDevice (results : Results) (client : Client) :
    client.SameTable (createRbufDevice results client).1 := by
  rcases createRbufDevice_frame results client with ⟨_, _, created⟩
  rw [created]
  exact ⟨rfl, rfl, id⟩

theorem sameTable_micaRegisterService (results : Results) (service : Service) (client : Client) :
    client.SameTable (micaRegisterService results service client).1 := by
  rcases micaRegisterService_frame results client service with ⟨_, registered⟩
  rw [registered]
  exact ⟨rfl, rfl, id⟩

theorem sameTable_remoteprocStop (client : Client) : client.SameTable (remoteprocStop client) := by
  rw [remoteprocStop]
  split
  · exact .refl client
  · refine ⟨rfl, rfl, ?_⟩
    intro running
    cases running

theorem sameTable_destroyRbufDevice (client : Client) :
    client.SameTable (destroyRbufDevice client) := by
  rw [destroyRbufDevice]
  split
  · exact .refl client
  · exact ⟨rfl, rfl, id⟩

theorem stopClient_mapped (mapped : client.Mapped) (results : Results) :
    (stopClient results client).Mapped := by
  rw [stopClient]
  split
  · exact mapped
  · constructor
    · intro va table
      cases table
    · intro running
      cases running

theorem exec_sound {call : Call} {loaded held : Bool} (mapped : client.Mapped)
    (checked : covers loaded held (call :: thread.todo) = true)
    (hasTable : loaded = true → client.rscTable ≠ none)
    (holds : held = true → client.Holds thread.rscTable) :
    (call.exec answers client thread).Sound := by
  have none : ∀ access ∈ ([] : List Access), access.Inside := by
    intro access listed
    cases listed
  have same : (covers loaded held thread.todo = true) → thread.Covered client := by
    intro later
    exact ⟨loaded, held, later, hasTable, holds⟩
  cases call with
  | loadClientImage =>
      rcases Client.loadClientImage_mapped mapped answers.toResults with ⟨loadedMapped, -⟩
      refine ⟨loadedMapped, ?_, none⟩
      simp only [Call.exec, Thread.check]
      split
      · exact Thread.covered_of_unloaded rfl
      · next succeeds =>
          exact ⟨true, false, checked, fun _ => Client.rscTable_of_loads (not_not.1 succeeds),
            fun held => absurd held Bool.false_ne_true⟩
  | startClient =>
      simp only [covers, Bool.and_eq_true] at checked
      have table := hasTable checked.1
      refine ⟨⟨mapped.mapped, fun _ => table⟩, ?_, none⟩
      apply Thread.Covered.check
      exact ⟨loaded, held, checked.2, hasTable, holds⟩
  | readRscTable =>
      simp only [covers, Bool.and_eq_true] at checked
      refine ⟨mapped, ?_, none⟩
      exact ⟨loaded, true, checked.2, hasTable, fun _ => mapped.holds (hasTable checked.1)⟩
  | createRpmsgDevice =>
      simp only [covers, Bool.and_eq_true] at checked
      apply sound_of_sameTable mapped (sameTable_createRpmsgDevice _ client)
      · exact ⟨loaded, held, checked.2, hasTable, holds⟩
      · split
        · simpa using (holds checked.1).inside .setupVdev
        · exact none
  | createRbufDevice =>
      simp only [covers, Bool.and_eq_true] at checked
      apply sound_of_sameTable mapped (sameTable_createRbufDevice _ client)
      · exact ⟨loaded, held, checked.2, hasTable, holds⟩
      · split
        · simpa using (holds checked.1).inside .setupRbufDev
        · exact none
  | checkRet => exact ⟨mapped, (same checked).check _, none⟩
  | registerService service =>
      exact sound_of_sameTable mapped (sameTable_micaRegisterService _ service client)
        ((same checked).check _) none
  | remoteprocStop =>
      exact sound_of_sameTable mapped (sameTable_remoteprocStop client) (same checked) none
  | unregisterAllServices =>
      have unchanged : client.SameTable (micaUnregisterAllServices client) := ⟨rfl, rfl, id⟩
      exact sound_of_sameTable mapped unchanged (same checked) none
  | releaseRpmsgDevice =>
      have unchanged : client.SameTable (releaseRpmsgDevice client) := ⟨rfl, rfl, id⟩
      exact sound_of_sameTable mapped unchanged (same checked) none
  | destroyRbufDevice =>
      exact sound_of_sameTable mapped (sameTable_destroyRbufDevice client) (same checked) none
  | stopClient =>
      exact ⟨stopClient_mapped mapped _, Thread.covered_of_unloaded checked, none⟩
  | checkRunning =>
      refine ⟨mapped, ?_, none⟩
      simp only [Call.exec]
      split
      · next running =>
          exact ⟨true, false, checked, fun _ => mapped.running running,
            fun held => absurd held Bool.false_ne_true⟩
      · exact Thread.covered_of_unloaded checked
  | checkReserved =>
      simp only [covers, Bool.and_eq_true] at checked
      refine ⟨mapped, ?_, ?_⟩
      · simp only [Call.exec]
        split
        · apply Thread.covered_of_unloaded
          exact (covers_micaStopCalls client.debug thread.todo).trans checked.2
        · exact Thread.covered_of_unloaded checked.2
      · intro access listed
        rw [List.mem_singleton.1 listed]
        exact (holds checked.1).inside .showClientStatus
  | epollDel => exact ⟨mapped, (same checked).check _, none⟩
  | checkOffline =>
      refine ⟨mapped, ?_, none⟩
      simp only [Call.exec]
      split
      · apply Thread.covered_of_unloaded
        exact (covers_micaStopCalls client.debug thread.todo).trans checked
      · exact Thread.covered_of_unloaded checked
  | cancelGdbServer | joinGdbServer => exact ⟨mapped, same checked, none⟩
  | freeListener =>
      have unchanged : client.SameTable { client with removed := true } := ⟨rfl, rfl, id⟩
      exact sound_of_sameTable mapped unchanged (same checked) none
  | findRsc site | writeCtrlC | waitCpuStop | sendToSharedMem => cases checked

theorem exec_keeps {call : Call} (mapped : client.Mapped)
    (spares : call = .stopClient → client.state = .offline ∨ answers.shutdown ≠ 0) :
    client.Keeps (call.exec answers client thread).client := by
  have keeps : ∀ {later : Client}, client.SameTable later → client.Keeps later :=
    fun same pointer holds => same.holds.2 holds
  cases call with
  | loadClientImage => exact (Client.loadClientImage_mapped mapped answers.toResults).2
  | createRpmsgDevice => exact keeps (sameTable_createRpmsgDevice _ client)
  | createRbufDevice => exact keeps (sameTable_createRbufDevice _ client)
  | registerService service => exact keeps (sameTable_micaRegisterService _ service client)
  | remoteprocStop => exact keeps (sameTable_remoteprocStop client)
  | destroyRbufDevice => exact keeps (sameTable_destroyRbufDevice client)
  | stopClient =>
      simp only [Call.exec, stopClient]
      rw [if_pos (spares rfl)]
      exact fun pointer holds => holds
  | startClient | readRscTable | checkRet | unregisterAllServices | releaseRpmsgDevice
  | checkRunning | checkReserved | epollDel | checkOffline | cancelGdbServer | joinGdbServer
  | freeListener | findRsc site | writeCtrlC | waitCpuStop | sendToSharedMem =>
      exact fun pointer holds => holds

end Exec

/-! ## The code of a gdb server -/

/-- The calls may be made by a gdb server that does not get past the lookup in `restart_client`.
`held` stands for a pointer to a mapping in `rsc_table`. -/
def serves (held : Bool) : List Call → Bool
  | [] => true
  | .readRscTable :: rest => serves true rest
  | .findRsc site :: rest => held && (decide (site = .restartClient) || serves held rest)
  | .writeCtrlC :: rest => held && serves false rest
  | .sendToSharedMem :: rest => serves false rest
  | _ => false

theorem serves_packetCalls (debug : Bool) (packet : Packet) :
    serves false (packetCalls debug packet) = true := by
  cases packet <;> rfl

/-- The call uses the pointer that the gdb server has read. -/
def Call.uses : Call → Bool
  | .findRsc _ | .writeCtrlC | .waitCpuStop => true
  | _ => false

/-- What a gdb server may rely on when it makes the calls that are left. -/
def Thread.Served (thread : Thread) (client : Client) : Prop :=
  ∃ held, serves held thread.todo = true ∧ (held = true → client.Holds thread.rscTable)

namespace Thread

variable {thread : Thread} {client later : Client} {answers : Answers}

theorem Served.keeps (served : thread.Served client) (keeps : client.Keeps later) :
    thread.Served later := by
  rcases served with ⟨held, checked, holds⟩
  exact ⟨held, checked, fun isHeld => keeps _ (holds isHeld)⟩

theorem Served.check (served : thread.Served client) (ret : Int) :
    (thread.check ret).Served client := by
  rw [Thread.check]
  split
  · exact ⟨false, rfl, fun held => (nomatch held)⟩
  · exact served

theorem Served.unused (served : thread.Served client)
    (unused : ∀ call, thread.todo.head? = some call → call.uses = false) (later : Client) :
    thread.Served later := by
  rcases served with ⟨held, checked, -⟩
  refine ⟨false, ?_, fun isHeld => (nomatch isHeld)⟩
  revert checked unused
  cases thread.todo with
  | nil => exact fun _ _ => rfl
  | cons call rest =>
      intro unused checked
      have free := unused call rfl
      cases call <;> first | exact checked | cases free

theorem Served.exec {call : Call} (mapped : client.Mapped)
    (served : Thread.Served { thread with todo := call :: thread.todo } client)
    (reads : call = .readRscTable → client.rscTable ≠ none)
    (restarts : call = .findRsc .restartClient → answers.rbufEntry = false) :
    (call.exec answers client thread).client = client ∧
      (call.exec answers client thread).thread.Served client ∧
      ∀ access ∈ (call.exec answers client thread).accesses, access.Inside := by
  rcases served with ⟨held, checked, holds⟩
  have none : ∀ access ∈ ([] : List Access), access.Inside := fun access listed => (nomatch listed)
  have only : ∀ site, client.Holds thread.rscTable →
      ∀ access ∈ [client.access site thread.rscTable], access.Inside := by
    intro site held access listed
    rw [List.mem_singleton.1 listed]
    exact held.inside site
  have done : ∀ {next : Thread}, serves false next.todo = true → next.Served client :=
    fun checked => ⟨false, checked, fun held => (nomatch held)⟩
  cases call with
  | readRscTable =>
      exact ⟨rfl, ⟨true, checked, fun _ => mapped.holds (reads rfl)⟩, none⟩
  | findRsc site =>
      simp only [serves, Bool.and_eq_true, Bool.or_eq_true, decide_eq_true_eq] at checked
      refine ⟨rfl, ?_, only site (holds checked.1)⟩
      rcases checked.2 with rfl | later
      · simp only [Call.exec, restarts rfl]
        exact done rfl
      · apply Served.check
        exact ⟨held, later, holds⟩
  | writeCtrlC =>
      simp only [serves, Bool.and_eq_true] at checked
      exact ⟨rfl, done checked.2, only .sendCtrlC (holds checked.1)⟩
  | sendToSharedMem =>
      refine ⟨rfl, ?_, none⟩
      apply Served.check
      exact done checked
  | loadClientImage | startClient | createRpmsgDevice | createRbufDevice | checkRet
  | registerService service | remoteprocStop | unregisterAllServices | releaseRpmsgDevice
  | destroyRbufDevice | stopClient | checkRunning | checkReserved | epollDel | checkOffline
  | cancelGdbServer | joinGdbServer | freeListener | waitCpuStop => cases checked

end Thread

/-! ## Runs -/

namespace System

/-- The event leaves the accesses inside the life of the mapping: the listener does not unmap a
table that a gdb server is using, and a gdb server reads the pointer only while there is a table and
finds no entry of the ring buffer in `restart_client`. -/
def Considerate (system : System) : ThreadEvent → Prop
  | .listener answers =>
      system.listener.todo.head? = some .stopClient →
        system.client.state = .offline ∨ answers.shutdown ≠ 0 ∨
          ∀ number < system.serverCount, (system.servers number).phase = .connected →
            ∀ call ∈ (system.servers number).thread.todo.head?, call.uses = false
  | .server number answers =>
      (system.servers number).phase = .connected →
        ((system.servers number).thread.todo.head? = some .readRscTable →
          system.client.rscTable ≠ none) ∧
        ((system.servers number).thread.todo.head? = some (.findRsc .restartClient) →
          answers.rbufEntry = false)
  | .command _ | .enter _ | .connect _ _ | .packet _ _ | .close _ | .cancel _ => True

instance (system : System) : (event : ThreadEvent) → Decidable (system.Considerate event)
  | .listener _ => inferInstanceAs (Decidable (_ → _))
  | .server _ _ => inferInstanceAs (Decidable (_ → _))
  | .command _ | .enter _ | .connect _ _ | .packet _ _ | .close _ | .cancel _ =>
      inferInstanceAs (Decidable True)

/-- Every access so far was inside the life of the mapping. -/
def AllInside (system : System) : Prop := ∀ access ∈ system.accesses, access.Inside

instance (system : System) : Decidable system.AllInside :=
  inferInstanceAs (Decidable (∀ access ∈ system.accesses, access.Inside))

structure Sound (system : System) : Prop where
  mapped : system.client.Mapped
  covered : system.listener.Covered system.client
  served : ∀ number, (system.servers number).phase = .connected →
    (system.servers number).thread.Served system.client
  known : ∀ number, (system.servers number).phase ≠ .absent →
    (system.servers number).phase ≠ .ended → number < system.serverCount
  inside : system.AllInside

variable {system later : System} {answers : Answers}

theorem Sound.setServer (sound : system.Sound) {number : ℕ} {server : Server}
    (known : server.phase ≠ .ended → number < system.serverCount)
    (fits : server.phase = .connected → server.thread.Served system.client) :
    (system.setServer number server).Sound where
  mapped := sound.mapped
  covered := sound.covered
  served other := by
    by_cases same : other = number
    · subst same
      rw [servers_setServer_self]
      exact fits
    · rw [servers_setServer_of_ne system server same]
      exact sound.served other
  known other := by
    by_cases same : other = number
    · subst same
      rw [servers_setServer_self]
      exact fun _ => known
    · rw [servers_setServer_of_ne system server same]
      exact sound.known other
  inside := sound.inside

theorem Sound.setRunning (sound : system.Sound) (running : Bool) :
    Sound { system with gdbServerRunning := running } :=
  ⟨sound.mapped, sound.covered, sound.served, sound.known, sound.inside⟩

theorem Sound.record (sound : system.Sound) {accesses : List Access}
    (inside : ∀ access ∈ accesses, access.Inside) :
    Sound { system with accesses := system.accesses ++ accesses } := by
  refine ⟨sound.mapped, sound.covered, sound.served, sound.known, ?_⟩
  intro access listed
  rcases List.mem_append.1 listed with old | new
  · exact sound.inside access old
  · exact inside access new

theorem Sound.cancel (sound : system.Sound) (number : ℕ) :
    (system.setServer number { system.servers number with phase := .ended }).Sound :=
  sound.setServer (fun running => absurd rfl running) fun connected => (nomatch connected)

theorem Sound.endServer (sound : system.Sound) (number : ℕ) : (system.endServer number).Sound :=
  (sound.cancel number).setRunning false

/-- The gdb servers are the same, but new ones may have been created. -/
structure Grows (system later : System) : Prop where
  served : ∀ number, (later.servers number).phase = .connected →
    (system.servers number).phase = .connected ∧
      (later.servers number).thread = (system.servers number).thread
  known : ∀ number, (later.servers number).phase = (system.servers number).phase ∨
    number < later.serverCount
  serverCount : system.serverCount ≤ later.serverCount

theorem Grows.refl (system : System) : Grows system system :=
  ⟨fun _ connected => ⟨connected, rfl⟩, fun _ => Or.inl rfl, Nat.le_refl _⟩

theorem grows_debugStart (system : System) (answers : Answers) :
    Grows system (system.debugStart answers) := by
  rw [debugStart]
  split
  · exact .refl system
  · refine ⟨?_, ?_, Nat.le_succ _⟩
    · intro number
      by_cases new : number = system.serverCount
      · rw [new, servers_setServer_self]
        exact fun connected => (nomatch connected)
      · rw [servers_setServer_of_ne system _ new]
        exact fun connected => ⟨connected, rfl⟩
    · intro number
      by_cases new : number = system.serverCount
      · exact Or.inr (new ▸ Nat.lt_succ_self _)
      · rw [servers_setServer_of_ne system _ new]
        exact Or.inl rfl

theorem grows_affect (system : System) (answers : Answers) (call : Call) :
    Grows system (system.affect answers call) := by
  rw [affect.eq_def]
  split
  · split
    · exact grows_debugStart system answers
    · exact .refl system
  · split
    · exact .refl system
    · next cancelled _ =>
        refine ⟨?_, ?_, Nat.le_refl _⟩
        · intro number
          by_cases same : number = cancelled
          · rw [same, servers_setServer_self]
            exact fun connected => ⟨connected, rfl⟩
          · rw [servers_setServer_of_ne system _ same]
            exact fun connected => ⟨connected, rfl⟩
        · intro number
          by_cases same : number = cancelled
          · rw [same, servers_setServer_self]
            exact Or.inl rfl
          · rw [servers_setServer_of_ne system _ same]
            exact Or.inl rfl
  · exact .refl system

theorem Sound.listenerStep (sound : system.Sound)
    (considerate : system.Considerate (.listener answers)) :
    (system.listenerStep answers).Sound := by
  rw [System.listenerStep]
  split
  · exact sound
  · next call rest todo =>
      split
      · exact sound
      · rcases sound.covered with ⟨loaded, held, checked, hasTable, holds⟩
        rw [todo] at checked
        have outcome := @exec_sound system.client { system.listener with todo := rest } answers call
          loaded held sound.mapped checked hasTable holds
        have grows := grows_affect system answers call
        refine ⟨outcome.mapped, outcome.covered, ?_, ?_, ?_⟩
        · intro number connected
          rcases grows.served number connected with ⟨before, thread⟩
          have served := sound.served number before
          simp only
          rw [thread]
          by_cases spares : call = .stopClient →
              system.client.state = .offline ∨ answers.shutdown ≠ 0
          · exact served.keeps (exec_keeps sound.mapped spares)
          · -- the table is unmapped while no gdb server is using it
            rw [Classical.not_imp, not_or] at spares
            rcases spares with ⟨rfl, running, shutdown⟩
            have unused : ∀ number < system.serverCount,
                (system.servers number).phase = .connected →
                  ∀ call ∈ (system.servers number).thread.todo.head?, call.uses = false := by
              rcases considerate (by rw [todo]; rfl) with offline | failed | unused
              · exact absurd offline running
              · exact absurd failed shutdown
              · exact unused
            have known := sound.known number (by rw [before]; decide) (by rw [before]; decide)
            exact served.unused (unused number known before) _
        · intro number present unended
          rcases grows.known number with same | new
          · simp only [same] at present unended
            exact Nat.lt_of_lt_of_le (sound.known number present unended) grows.serverCount
          · exact new
        · intro access listed
          rcases List.mem_append.1 listed with old | new
          · exact sound.inside access old
          · exact outcome.inside access new

theorem affect_of_serves {call : Call} {rest : List Call} {held : Bool}
    (checked : serves held (call :: rest) = true) : system.affect answers call = system := by
  cases call with
  | readRscTable | findRsc site | writeCtrlC | sendToSharedMem => rfl
  | loadClientImage | startClient | createRpmsgDevice | createRbufDevice | checkRet
  | registerService service | remoteprocStop | unregisterAllServices | releaseRpmsgDevice
  | destroyRbufDevice | stopClient | checkRunning | checkReserved | epollDel | checkOffline
  | cancelGdbServer | joinGdbServer | freeListener | waitCpuStop => cases checked

theorem Sound.serverStep (sound : system.Sound) {number : ℕ}
    (considerate : system.Considerate (.server number answers)) :
    (system.serverStep number answers).Sound := by
  rw [System.serverStep]
  split
  · exact sound
  · next connected =>
      rw [not_not] at connected
      have known := sound.known number (by rw [connected]; decide) (by rw [connected]; decide)
      split
      · exact sound
      · next call rest todo =>
          rcases considerate connected with ⟨reads, restarts⟩
          rw [todo] at reads restarts
          have served := sound.served number connected
          rcases served with ⟨held, checked, holds⟩
          rw [todo] at checked
          rcases @Thread.Served.exec { (system.servers number).thread with todo := rest }
              system.client answers call sound.mapped ⟨held, checked, holds⟩
              (fun read => reads (by rw [read]; rfl))
              (fun find => restarts (by rw [find]; rfl)) with
            ⟨client, stillServed, inside⟩
          have next : Sound { system.setServer number
              { system.servers number with
                thread := (call.exec answers system.client
                  { (system.servers number).thread with todo := rest }).thread } with
                accesses := system.accesses ++ (call.exec answers system.client
                  { (system.servers number).thread with todo := rest }).accesses } :=
            (sound.setServer (fun _ => known) fun _ => stillServed).record inside
          simp only [affect_of_serves checked, client]
          split
          · exact next.endServer number
          · exact next

theorem Sound.step (sound : system.Sound) (event : ThreadEvent)
    (considerate : system.Considerate event) : (system.step event).Sound := by
  cases event with
  | command command =>
      rw [System.step]
      split
      · exact ⟨sound.mapped, Thread.covered_of_unloaded (covers_commandCalls _ command),
          sound.served, sound.known, sound.inside⟩
      · exact sound
  | listener answers => exact sound.listenerStep considerate
  | enter number =>
      rw [System.step]
      split
      · next created =>
          have known := sound.known number (by rw [created]; decide) (by rw [created]; decide)
          apply Sound.setRunning
          exact sound.setServer (fun _ => known) fun connected => (nomatch connected)
      · exact sound
  | connect number succeeds =>
      rw [System.step]
      split
      · next waiting =>
          have known := sound.known number (by rw [waiting]; decide) (by rw [waiting]; decide)
          split
          · apply sound.setServer fun _ => known
            exact fun _ => ⟨false, rfl, fun held => (nomatch held)⟩
          · exact sound.endServer number
      · exact sound
  | packet number packet =>
      rw [System.step]
      split
      · next idle =>
          have known := sound.known number (by rw [idle.1]; decide) (by rw [idle.1]; decide)
          apply sound.setServer fun _ => known
          exact fun _ => ⟨false, serves_packetCalls _ packet, fun held => (nomatch held)⟩
      · exact sound
  | close number =>
      rw [System.step]
      split
      · exact sound.endServer number
      · exact sound
  | server number answers => exact sound.serverStep considerate
  | cancel number =>
      rw [System.step]
      split
      · exact sound.cancel number
      · exact sound

/-- A client with debugging is started and a gdb connects. -/
def connected : List ThreadEvent :=
  [.command .start] ++ List.replicate 11 (.listener .smooth) ++ [.enter 0, .connect 0 true]

end System

end Mica.Lifecycle
