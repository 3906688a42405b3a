import Mica.Lib.Run
import Mica.Micad.Daemon
import Mathlib.Data.List.Nodup

/-!
# Creating a client is all or nothing

A create message that is answered with "MICA-FAILED" should leave the clients, the
listeners and the sockets as they were, and `g_client_list` should have the clients of
the listeners. Both hold as long as `add_listener` does not fail. It fails if a system
call does, or if another listener's socket is bound to the path already: two names
that `check_create_msg` tells apart may have one path, since the names of the listeners
are cut to 31 bytes. The client then stays in `g_client_list`, and the path is
unlinked.

The invariant is that every listener is bound to the path of its name; listeners that
are bound to one path are equal, so "rm" removes the listener it was sent to.
-/

namespace Mica.Micad

open Endpoint (strncmpEq)

open Lifecycle (Answer answerOf)

theorem strncmpEq_maxNameLen {left right : CString} (leftFits : left.length < maxNameLen)
    (rightFits : right.length < maxNameLen) :
    strncmpEq left right maxNameLen = true ↔ left = right := by
  rw [CString.length] at leftFits rightFits
  rw [strncmpEq, decide_eq_true_iff, List.take_of_length_le leftFits.le,
    List.take_of_length_le rightFits.le, CString.ext_iff]

theorem nodup_concat_of_lt {numbers : List ℕ} {next : ℕ} (distinct : numbers.Nodup)
    (below : ∀ number ∈ numbers, number < next) : (numbers ++ [next]).Nodup := by
  have fresh : next ∉ numbers := fun member => Nat.lt_irrefl next (below next member)
  rw [← List.concat_eq_append]
  exact distinct.concat fresh

namespace Daemon

variable {File : Type} [DecidableEq File] (resolve : CString → File) (nprocessors : Int)

/-- A connection to the path gets to the listener. -/
def Reaches (path : CString) (listener : Listener) (daemon : Daemon File) : Prop :=
  listener ∈ daemon.listenerList ∧ daemon.files (resolve path) = some listener.socketFd

/-- Both lists are as before, and so are the paths on which listeners are reached. -/
def Unchanged (before after : Daemon File) : Prop :=
  after.gClientList = before.gClientList ∧ after.listenerList = before.listenerList ∧
    ∀ path listener, after.Reaches resolve path listener ↔ before.Reaches resolve path listener

/-- The clients of the listeners. -/
def clients (daemon : Daemon File) : List CreatedClient :=
  daemon.listenerList.filterMap Listener.client

/-- What is wanted of an event: a create message that fails changes nothing, and afterwards
`g_client_list` has exactly the clients of the listeners. -/
def Atomic (daemon : Daemon File) (event : DaemonEvent) : Prop :=
  (∀ memory results, event = .create memory results →
    (daemon.createMicaClient resolve nprocessors memory results).2 = some .failed →
      daemon.Unchanged resolve (daemon.handle resolve nprocessors event)) ∧
  (daemon.handle resolve nprocessors event).gClientList.Perm
    (daemon.handle resolve nprocessors event).clients

/-- A create message that gets to `add_listener` gets through it. -/
def Completes (daemon : Daemon File) : DaemonEvent → Prop
  | .create memory results =>
      daemon.Admitted nprocessors memory results →
        daemon.Granted resolve (createMsgOf memory).name results
  | .rm _ _ _ => True

structure Sound (daemon : Daemon File) : Prop where
  linked : daemon.gClientList = daemon.clients
  named : ∀ unit ∈ daemon.listenerList, unit.name.length < maxNameLen
  placed : ∀ unit ∈ daemon.listenerList, unit.socketPath = socketPath unit.name
  bound : ∀ unit ∈ daemon.listenerList,
    daemon.files (resolve unit.socketPath) = some unit.socketFd
  numbered : ∀ unit ∈ daemon.listenerList, unit.socketFd < daemon.next
  counted : ∀ client ∈ daemon.gClientList, client.id < daemon.next
  distinct : (daemon.listenerList.map Listener.socketFd).Nodup
  different : (daemon.gClientList.map CreatedClient.id).Nodup

variable {resolve nprocessors} {daemon : Daemon File}

omit [DecidableEq File] in
theorem Sound.next (sound : daemon.Sound resolve) {next : ℕ} (later : daemon.next ≤ next) :
    Sound resolve { daemon with next := next } where
  linked := sound.linked
  named := sound.named
  placed := sound.placed
  bound := sound.bound
  numbered := fun unit listed => Nat.lt_of_lt_of_le (sound.numbered unit listed) later
  counted := fun client listed => Nat.lt_of_lt_of_le (sound.counted client listed) later
  distinct := sound.distinct
  different := sound.different

theorem Sound.listen (sound : daemon.Sound resolve) {name : CString}
    (unbound : daemon.files (resolve (socketPath (name.strlcpy maxNameLen))) = none)
    {client : Option CreatedClient} {gClientList : List CreatedClient}
    (linked : gClientList = daemon.clients ++ client.toList)
    (counted : ∀ client ∈ gClientList, client.id < daemon.next)
    (different : (gClientList.map CreatedClient.id).Nodup) :
    Sound resolve
      (Daemon.listen resolve name client { daemon with gClientList := gClientList }) := by
  have listed {unit : Listener} (member : unit ∈ (Daemon.listen resolve name client
      { daemon with gClientList := gClientList }).listenerList) :
      unit ∈ daemon.listenerList ∨ unit = ⟨name.strlcpy maxNameLen, daemon.next,
        socketPath (name.strlcpy maxNameLen), client⟩ := by
    simpa [Daemon.listen] using member
  refine ⟨?_, ?_, ?_, ?_, ?_, ?_, ?_, different⟩
  · cases client <;> simp [Daemon.listen, linked, clients, List.filterMap_append]
  · intro unit member
    rcases listed member with old | rfl
    · exact sound.named unit old
    · exact CString.length_strlcpy_lt (by decide) name
  · intro unit member
    rcases listed member with old | rfl
    · exact sound.placed unit old
    · rfl
  · intro unit member
    rcases listed member with old | rfl
    · have elsewhere : resolve unit.socketPath ≠
          resolve (socketPath (name.strlcpy maxNameLen)) := by
        intro same
        have taken := sound.bound unit old
        rw [same, unbound] at taken
        cases taken
      simpa [Daemon.listen, Function.update_of_ne elsewhere] using sound.bound unit old
    · simp [Daemon.listen]
  · intro unit member
    rcases listed member with old | rfl
    · exact Nat.lt_succ_of_lt (sound.numbered unit old)
    · exact Nat.lt_succ_self _
  · intro client member
    exact Nat.lt_succ_of_lt (counted client member)
  · simp only [Daemon.listen, List.map_append, List.map_cons, List.map_nil]
    apply nodup_concat_of_lt sound.distinct
    intro number member
    rcases List.mem_map.1 member with ⟨unit, old, rfl⟩
    exact sound.numbered unit old

/-! ## The command "rm" -/

omit [DecidableEq File] in
theorem Sound.socketFd_eq (sound : daemon.Sound resolve) {unit other : Listener}
    (listed : unit ∈ daemon.listenerList) (otherListed : other ∈ daemon.listenerList)
    (samePath : resolve unit.socketPath = resolve other.socketPath) :
    unit.socketFd = other.socketFd := by
  have bound := sound.bound unit listed
  rw [samePath, sound.bound other otherListed] at bound
  exact (Option.some.inj bound).symm

section Remove

variable {front back : List Listener} {unit : Listener} {client : CreatedClient}

omit [DecidableEq File] in
theorem Sound.socketFd_ne (sound : daemon.Sound resolve)
    (split : daemon.listenerList = front ++ unit :: back) {other : Listener}
    (listed : other ∈ front ++ back) : other.socketFd ≠ unit.socketFd := by
  have distinct := sound.distinct
  rw [split] at distinct
  have apart := (List.nodup_middle.1 (by simpa using distinct)).notMem
  intro same
  apply apart
  rw [← same]
  simpa using @List.mem_map_of_mem _ _ _ _ Listener.socketFd listed

omit [DecidableEq File] in
theorem Sound.resolve_ne (sound : daemon.Sound resolve)
    (split : daemon.listenerList = front ++ unit :: back) {other : Listener}
    (listed : other ∈ front ++ back) : resolve other.socketPath ≠ resolve unit.socketPath := by
  intro same
  apply sound.socketFd_ne split listed
  apply sound.socketFd_eq _ _ same
  · rw [split]
    rcases List.mem_append.1 listed with early | late
    · exact List.mem_append_left _ early
    · exact List.mem_append_right _ (List.mem_cons_of_mem _ late)
  · rw [split]
    exact List.mem_append_right _ List.mem_cons_self

omit [DecidableEq File] in
theorem Sound.not_strncmpEq (sound : daemon.Sound resolve)
    (split : daemon.listenerList = front ++ unit :: back) {other : Listener}
    (listed : other ∈ front) : ¬strncmpEq unit.name other.name maxNameLen = true := by
  have unitListed : unit ∈ daemon.listenerList := by simp [split]
  have otherListed : other ∈ daemon.listenerList := by simp [split, listed]
  rw [strncmpEq_maxNameLen (sound.named unit unitListed) (sound.named other otherListed)]
  intro sameName
  apply sound.resolve_ne split (List.mem_append_left back listed)
  rw [sound.placed unit unitListed, sound.placed other otherListed, sameName]

omit [DecidableEq File] in
theorem Sound.eraseP_id (sound : daemon.Sound resolve)
    (split : daemon.listenerList = front ++ unit :: back) (has : unit.client = some client) :
    daemon.gClientList.eraseP (fun other => other.id = client.id) =
      (front ++ back).filterMap Listener.client := by
  have clientsSplit : daemon.gClientList =
      front.filterMap Listener.client ++ client :: back.filterMap Listener.client := by
    rw [sound.linked, clients, split, List.filterMap_append, List.filterMap_cons_some has]
  have different := sound.different
  rw [clientsSplit] at different
  have apart := (List.nodup_middle.1 (by simpa using different)).notMem
  rw [clientsSplit, List.eraseP_append_right, List.eraseP_cons_of_pos (by simp),
    List.filterMap_append]
  intro other early
  simp only [decide_eq_true_eq]
  intro same
  apply apart
  rw [← same]
  exact List.mem_append_left _ (List.mem_map_of_mem early)

theorem Sound.remove_eq (sound : daemon.Sound resolve)
    (split : daemon.listenerList = front ++ unit :: back) (has : unit.client = some client)
    (unlinked : Int) :
    (daemon.destroyClient client).freeListenerByName resolve unit.name unlinked =
      { daemon with
        gClientList := (front ++ back).filterMap Listener.client
        listenerList := front ++ back
        files := (daemon.unlink resolve unit.socketPath unlinked).files } := by
  have self : strncmpEq unit.name unit.name maxNameLen = true := by simp [strncmpEq]
  have found : daemon.listenerList.find?
      (fun other => strncmpEq unit.name other.name maxNameLen) = some unit := by
    rw [List.find?_eq_some_iff_append]
    refine ⟨self, front, back, split, ?_⟩
    intro other early
    simpa using sound.not_strncmpEq split early
  have erased : daemon.listenerList.eraseP
      (fun other => strncmpEq unit.name other.name maxNameLen) = front ++ back := by
    rw [split, List.eraseP_append_right _ fun other early => sound.not_strncmpEq split early]
    simp [self]
  simp only [destroyClient, Daemon.freeListenerByName, found, erased, sound.eraseP_id split has,
    unlink]
  split_ifs
  · rfl
  · rfl

theorem Sound.remove (sound : daemon.Sound resolve)
    (split : daemon.listenerList = front ++ unit :: back) (has : unit.client = some client)
    (unlinked : Int) :
    Sound resolve
      ((daemon.destroyClient client).freeListenerByName resolve unit.name unlinked) := by
  have stays : (front ++ back).Sublist daemon.listenerList := by
    rw [split]
    exact (List.Sublist.refl front).append (List.sublist_cons_self _ _)
  have clientStays : ((front ++ back).filterMap Listener.client).Sublist daemon.gClientList := by
    rw [sound.linked]
    exact stays.filterMap _
  rw [sound.remove_eq split has unlinked]
  refine ⟨rfl, ?_, ?_, ?_, ?_, ?_, ?_, ?_⟩
  · exact fun other listed => sound.named other (stays.mem listed)
  · exact fun other listed => sound.placed other (stays.mem listed)
  · intro other listed
    exact (files_unlink_of_ne (sound.resolve_ne split listed) _ _).trans
      (sound.bound other (stays.mem listed))
  · exact fun other listed => sound.numbered other (stays.mem listed)
  · exact fun other listed => sound.counted other (clientStays.mem listed)
  · exact sound.distinct.sublist (stays.map _)
  · exact sound.different.sublist (clientStays.map _)

end Remove

theorem Sound.rm (sound : daemon.Sound resolve) (socketFd : ℕ) (epollCtl unlinked : Int) :
    Sound resolve (daemon.rm resolve socketFd epollCtl unlinked) := by
  rw [Daemon.rm]
  split
  · exact sound
  · rename_i unit found
    rcases (List.find?_eq_some_iff_append.1 found).2 with ⟨front, back, listSplit, -⟩
    split
    · exact sound
    · rename_i client has
      split_ifs
      · exact sound
      · exact sound.remove listSplit has unlinked

/-! ## Runs -/

theorem sound_started : Sound resolve (started resolve) := by
  have granted : Granted resolve micaCreateName .smooth ⟨[], [], fun _ => none, 0⟩ := by
    simp [Granted, DaemonResults.smooth]
  have empty : Sound resolve ⟨[], [], fun _ => none, 0⟩ :=
    ⟨rfl, nofun, nofun, nofun, nofun, nofun, List.nodup_nil, List.nodup_nil⟩
  rw [started, addListener_of_granted none granted]
  exact empty.listen rfl rfl nofun List.nodup_nil

theorem Sound.link_listen (sound : daemon.Sound resolve) (memory : List UInt8) {name : CString}
    (unbound : daemon.files (resolve (socketPath (name.strlcpy maxNameLen))) = none) :
    Sound resolve ((daemon.link memory).listen resolve name
      (some (createdClient daemon.next memory))) := by
  have later := sound.next (Nat.le_succ daemon.next)
  apply later.listen unbound
  · rw [sound.linked]
    rfl
  · intro client listed
    rcases List.mem_append.1 listed with old | new
    · exact Nat.lt_succ_of_lt (sound.counted client old)
    · rw [List.mem_singleton.1 new]
      exact Nat.lt_succ_self _
  · simp only [List.map_append, List.map_cons, List.map_nil]
    apply nodup_concat_of_lt sound.different
    intro number member
    rcases List.mem_map.1 member with ⟨client, old, rfl⟩
    exact sound.counted client old

theorem Sound.handle (sound : daemon.Sound resolve) {event : DaemonEvent}
    (completes : daemon.Completes resolve nprocessors event) :
    Sound resolve (daemon.handle resolve nprocessors event) := by
  cases event with
  | create memory results =>
      rw [Daemon.handle]
      by_cases admitted : daemon.Admitted nprocessors memory results
      · rw [createMicaClient_of_granted admitted (completes admitted)]
        exact sound.link_listen memory (completes admitted).2.2.1
      · rcases createMicaClient_of_not_admitted admitted with ⟨-, next, later, unchanged⟩
        rw [unchanged]
        exact sound.next later
  | rm socketFd epollCtl unlinked => exact sound.rm socketFd epollCtl unlinked

theorem Sound.atomic_iff (sound : daemon.Sound resolve) (event : DaemonEvent) :
    daemon.Atomic resolve nprocessors event ↔ daemon.Completes resolve nprocessors event := by
  constructor
  · rintro ⟨unchanged, -⟩
    cases event with
    | create memory results =>
        intro admitted
        by_contra refused
        rcases createMicaClient_of_not_granted admitted refused with ⟨failed, kept⟩
        have same := (unchanged memory results rfl failed).1
        rw [Daemon.handle, kept] at same
        simp at same
    | rm socketFd epollCtl unlinked => trivial
  · intro completes
    refine ⟨?_, (sound.handle completes).linked ▸ List.Perm.refl _⟩
    rintro memory results rfl failed
    rw [Daemon.handle]
    by_cases admitted : daemon.Admitted nprocessors memory results
    · rw [createMicaClient_of_granted admitted (completes admitted)] at failed
      cases failed
    · rcases createMicaClient_of_not_admitted admitted with ⟨-, next, -, unchanged⟩
      rw [unchanged]
      exact ⟨rfl, rfl, fun _ _ => Iff.rfl⟩

/-- Creating clients is atomic in exactly the runs in which every message that gets to
`add_listener` gets through it. -/
theorem atomic_throughout_iff (resolve : CString → File) (nprocessors : Int)
    (events : List DaemonEvent) :
    Run.AllSteps (handle resolve nprocessors) (started resolve) (Atomic resolve nprocessors)
        events ↔
      Run.AllSteps (handle resolve nprocessors) (started resolve) (Completes resolve nprocessors)
        events := by
  apply Run.allSteps_iff_allSteps sound_started
  · intro daemon event sound completes
    exact sound.handle completes
  · intro daemon event sound
    exact sound.atomic_iff event

/-- A message for CPU 0 with a name of so many letters and the path "/f". -/
def namedMessage (letters : ℕ) : List UInt8 :=
  List.replicate 4 0 ++ List.replicate letters 0x61 ++ List.replicate (32 - letters) 0 ++
    [0x2f, 0x66] ++ List.replicate 287 0

/-- A name that fills its field is new to `check_create_msg`, but it is cut to the name of the first
client, whose path is unlinked when `bind` fails. -/
theorem not_atomic_fullName :
    ¬Run.AllSteps (handle id 4) (started id) (Atomic id 4)
      [.create (namedMessage 31) .smooth, .create (namedMessage 32) .smooth] := by
  intro steps
  have second := (Run.allSteps_cons.1 (Run.allSteps_cons.1 steps).2).1
  have unchanged := second.1 (namedMessage 32) .smooth rfl (by decide +kernel)
  have reached : Reaches id (socketPath ⟨List.replicate 31 0x61, by decide⟩)
      ⟨⟨List.replicate 31 0x61, by decide⟩, 2, socketPath ⟨List.replicate 31 0x61, by decide⟩,
        some (createdClient 1 (namedMessage 31))⟩
      ((started id).handle id 4 (.create (namedMessage 31) .smooth)) :=
    ⟨by decide +kernel, by decide +kernel⟩
  have lost : ((started id).handle id 4 (.create (namedMessage 31) .smooth)
      |>.handle id 4 (.create (namedMessage 32) .smooth)).files
        (socketPath ⟨List.replicate 31 0x61, by decide⟩) = none := by
    decide +kernel
  have still := ((unchanged.2.2 _ _).2 reached).2
  rw [id, lost] at still
  cases still

end Daemon

end Mica.Micad
