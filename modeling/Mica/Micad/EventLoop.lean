import Mica.Lib.Run
import Mica.Micad.Atomic

/-!
# The event loop of the daemon

`wait_create_msg` of `micad/socket_listener.c`: `epoll_wait` fills an array with pointers to the
listeners that have a connection, and the loop calls the handler of one after the other. A
handler may add a listener, and the handler of "rm" frees the first one of its own name, while the
rest of the array is still to be served.

A socket is registered by `add_listener`; it is taken out by `epoll_ctl` in the handler of "rm", and
when it is closed.
-/

namespace Mica.Micad

open Endpoint (strncmpEq)

def maxEvents : ℕ := 64

def ctrlMsgSize : ℕ := 32

/-- "rm" -/
def rmText : CString := ⟨[0x72, 0x6d], by decide⟩

/-- What a handler finds: the bytes that it receives, and the results of its calls. -/
structure Delivery where
  received : List UInt8
  results : DaemonResults
  epollDel : Int
  unlinked : Int

structure EventLoop (File : Type) where
  daemon : Daemon File
  /-- The sockets that `epoll_wait` looks at. -/
  registered : List ℕ
  /-- The sockets of the events that are still to be served. -/
  pending : List ℕ
  /-- A listener has been used that was freed. -/
  corrupt : Bool

inductive LoopEvent where
  /-- `epoll_wait`, when there are connections on these sockets. -/
  | wait (connected : List ℕ)
  /-- The next round of the inner loop. -/
  | serve (delivery : Delivery)

/-- `client_ctrl_handler` gets as far as the branch for "rm". The array `msg` is cleared before
`recv` fills it. -/
def Delivery.isRm (delivery : Delivery) : Bool :=
  delivery.results.accept ≠ -1 ∧ 0 ≤ delivery.results.recv ∧
    strncmpEq (Buffer.stringAt (delivery.received.take ctrlMsgSize) 0) rmText ctrlMsgSize

namespace Daemon

variable {File : Type}

def sockets (daemon : Daemon File) : List ℕ := daemon.listenerList.map Listener.socketFd

variable [DecidableEq File] (resolve : CString → File) (nprocessors : Int)

/-- `unit->cb(epoll_fd, unit)`, as far as it concerns the listeners. -/
def callback (unit : Listener) (delivery : Delivery) (daemon : Daemon File) : Daemon File :=
  match unit.client with
  | none =>
      (daemon.createMicaClient resolve nprocessors delivery.received delivery.results).1
  | some _ =>
      if delivery.isRm then daemon.rm resolve unit.socketFd delivery.epollDel delivery.unlinked
      else daemon

end Daemon

namespace EventLoop

variable {File : Type} [DecidableEq File] (resolve : CString → File) (nprocessors : Int)

/-- The sockets that are registered after the handler of a listener has run. -/
def reregister (loop : EventLoop File) (unit : Listener) (delivery : Delivery)
    (after : Daemon File) : List ℕ :=
  let deleted := unit.client.isSome ∧ delivery.isRm ∧ 0 ≤ delivery.epollDel
  loop.registered.filter (fun socketFd =>
      socketFd ∈ after.sockets ∧ ¬(deleted ∧ socketFd = unit.socketFd)) ++
    after.sockets.filter (· ∉ loop.daemon.sockets)

/-- The kernel reports each registered socket once, in an order of its own. -/
def wait (loop : EventLoop File) (connected : List ℕ) : EventLoop File :=
  { loop with pending := ((connected.filter (· ∈ loop.registered)).dedup).take maxEvents }

/-- The handler of the next event. -/
def serve (loop : EventLoop File) (delivery : Delivery) : EventLoop File :=
  match loop.pending with
  | [] => loop
  | socketFd :: rest =>
      match loop.daemon.listenerList.find? fun unit => unit.socketFd = socketFd with
      | none => { loop with pending := rest, corrupt := true }
      | some unit =>
          let after := loop.daemon.callback resolve nprocessors unit delivery
          { loop with
            daemon := after
            registered := loop.reregister unit delivery after
            pending := rest }

/-- `epoll_wait` is called when the array has been served. -/
def step (loop : EventLoop File) : LoopEvent → EventLoop File
  | .wait connected => if loop.pending = [] then loop.wait connected else loop
  | .serve delivery => loop.serve resolve nprocessors delivery

def started : EventLoop File where
  daemon := .started resolve
  registered := (Daemon.started resolve).sockets
  pending := []
  corrupt := false

end EventLoop

/-! ## The list of listeners -/

/-- Listeners have different names, none of which has been cut, and different sockets. -/
structure Listed (units : List Listener) (next : ℕ) : Prop where
  named : ∀ unit ∈ units, unit.name.length < maxNameLen
  names : (units.map Listener.name).Nodup
  sockets : (units.map Listener.socketFd).Nodup
  numbered : ∀ unit ∈ units, unit.socketFd < next

namespace Listed

variable {units front back : List Listener} {unit other : Listener} {next after : ℕ}

theorem mono (listed : Listed units next) (later : next ≤ after) : Listed units after where
  named := listed.named
  names := listed.names
  sockets := listed.sockets
  numbered := fun unit member => Nat.lt_of_lt_of_le (listed.numbered unit member) later

theorem add (listed : Listed units next) (short : unit.name.length < maxNameLen)
    (newName : unit.name ∉ units.map Listener.name) (newSocket : next ≤ unit.socketFd)
    (later : unit.socketFd < after) : Listed (units ++ [unit]) after := by
  have newSocket' : unit.socketFd ∉ units.map Listener.socketFd := by
    intro taken
    obtain ⟨other, member, same⟩ := List.mem_map.1 taken
    have below := listed.numbered other member
    omega
  refine ⟨List.forall_mem_append.2 ⟨listed.named, by simpa using short⟩, ?_, ?_, ?_⟩
  · rw [List.map_append, List.map_singleton, ← List.concat_eq_append]
    exact listed.names.concat newName
  · rw [List.map_append, List.map_singleton, ← List.concat_eq_append]
    exact listed.sockets.concat newSocket'
  · refine List.forall_mem_append.2 ⟨?_, by simpa using later⟩
    intro other member
    have below := listed.numbered other member
    omega

theorem sublist {fewer : List Listener} (listed : Listed units next)
    (stays : fewer.Sublist units) : Listed fewer next where
  named := fun other member => listed.named other (stays.mem member)
  names := listed.names.sublist (stays.map _)
  sockets := listed.sockets.sublist (stays.map _)
  numbered := fun other member => listed.numbered other (stays.mem member)

theorem not_strncmpEq (listed : Listed (front ++ unit :: back) next) (early : other ∈ front) :
    ¬strncmpEq unit.name other.name maxNameLen = true := by
  have names := listed.names
  rw [List.map_append, List.map_cons] at names
  have apart := (List.nodup_middle.1 names).notMem
  rw [strncmpEq_maxNameLen (listed.named unit (by simp)) (listed.named other (by simp [early]))]
  intro same
  apply apart
  rw [same]
  exact List.mem_append_left _ (List.mem_map_of_mem early)

end Listed

namespace Daemon

variable {File : Type} {daemon : Daemon File}

def Listed (daemon : Daemon File) : Prop := Micad.Listed daemon.listenerList daemon.next

section Handlers

variable [DecidableEq File] {resolve : CString → File} {nprocessors : Int}

theorem next_le_addListener (name : CString) (client : Option CreatedClient)
    (results : DaemonResults) (daemon : Daemon File) :
    daemon.next ≤ (daemon.addListener resolve name client results).1.next := by
  have binds (path : CString) : (daemon.bind resolve path results).1.next = daemon.next := by
    rw [Daemon.bind]
    split_ifs <;> rfl
  have unlinks (path : CString) (ret : Int) (daemon : Daemon File) :
      (daemon.unlink resolve path ret).next = daemon.next := by
    rw [Daemon.unlink]
    split_ifs <;> rfl
  simp only [addListener]
  split_ifs <;> simp [unlinks, binds]

theorem Listed.create (listed : daemon.Listed) (memory : List UInt8) (results : DaemonResults)
    (short : (createMsgOf memory).name.length < maxNameLen) :
    (daemon.createMicaClient resolve nprocessors memory results).1.Listed ∧
      daemon.sockets ⊆ (daemon.createMicaClient resolve nprocessors memory results).1.sockets := by
  by_cases admitted : daemon.Admitted nprocessors memory results
  · by_cases granted : daemon.Granted resolve (createMsgOf memory).name results
    · rw [createMicaClient_of_granted admitted granted]
      have uncut := CString.strlcpy_of_lt short
      have newName : (createMsgOf memory).name.strlcpy maxNameLen ∉
          daemon.listenerList.map Listener.name := by
        rw [uncut]
        intro taken
        obtain ⟨unit, member, sameName⟩ := List.mem_map.1 taken
        rcases @checkCreateMsg_cases nprocessors (daemon.listenerList.map Listener.unit)
          ⟨results.access, false, 0, 0⟩ (createMsgOf memory) with refused | ⟨_, new⟩
        · rw [admitted.2.2.1] at refused
          exact absurd refused (Int.lt_irrefl 0)
        · have different := new unit.unit (List.mem_map_of_mem member)
          rw [show unit.unit.name = (createMsgOf memory).name from sameName] at different
          simp [strncmpEq] at different
      constructor
      · exact listed.add (CString.length_strlcpy_lt (by decide) _) newName (Nat.le_succ _)
          (Nat.lt_succ_self _)
      · exact List.map_subset _ (List.subset_append_left _ _)
    · have refused : ¬(daemon.link memory).Granted resolve (createMsgOf memory).name results :=
        granted
      rw [createMicaClient_of_admitted admitted]
      have same := (addListener_of_not_granted (some (createdClient daemon.next memory))
        refused).2.2
      have later := @next_le_addListener _ _ resolve (createMsgOf memory).name
        (some (createdClient daemon.next memory)) results (daemon.link memory)
      rw [Daemon.Listed, Daemon.sockets, Daemon.sockets, same]
      exact ⟨listed.mono ((Nat.le_succ _).trans later), fun _ member => member⟩
  · obtain ⟨_, next, later, unchanged⟩ := createMicaClient_of_not_admitted admitted
    rw [unchanged]
    exact ⟨listed.mono later, fun _ member => member⟩

theorem Listed.rm (listed : daemon.Listed) (socketFd : ℕ) (epollCtl unlinked : Int) :
    (daemon.rm resolve socketFd epollCtl unlinked).Listed ∧
      ∀ other ∈ daemon.sockets, other ≠ socketFd →
        other ∈ (daemon.rm resolve socketFd epollCtl unlinked).sockets := by
  have unchanged : daemon.Listed ∧
      ∀ other ∈ daemon.sockets, other ≠ socketFd → other ∈ daemon.sockets :=
    ⟨listed, fun _ member _ => member⟩
  rw [Daemon.rm]
  split
  · exact unchanged
  · rename_i unit found
    obtain ⟨isUnit, front, back, split, -⟩ := List.find?_eq_some_iff_append.1 found
    rw [decide_eq_true_iff] at isUnit
    split
    · exact unchanged
    · rename_i client has
      split_ifs
      · exact unchanged
      · have removed : ((daemon.destroyClient client).freeListenerByName resolve unit.name
            unlinked).listenerList = front ++ back := by
          rw [listenerList_freeListenerByName]
          show daemon.listenerList.eraseP _ = _
          rw [Daemon.Listed, split] at listed
          rw [split, List.eraseP_append_right _ fun other early => listed.not_strncmpEq early]
          simp [strncmpEq]
        have sameNext : ((daemon.destroyClient client).freeListenerByName resolve unit.name
            unlinked).next = daemon.next := by
          simp only [Daemon.freeListenerByName, Daemon.unlink]
          split
          · rfl
          · split_ifs <;> rfl
        have stays : (front ++ back).Sublist daemon.listenerList := by
          rw [split]
          exact (List.Sublist.refl front).append (List.sublist_cons_self _ _)
        refine ⟨?_, ?_⟩
        · rw [Daemon.Listed, removed, sameNext]
          exact listed.sublist stays
        intro other member different
        rw [Daemon.sockets, split] at member
        rw [Daemon.sockets, removed]
        simp only [List.map_append, List.map_cons, List.mem_append, List.mem_cons] at member ⊢
        rcases member with early | same | late
        · exact Or.inl early
        · exact absurd (same.trans isUnit) different
        · exact Or.inr late

end Handlers

end Daemon

/-! ## The loop -/

namespace EventLoop

variable {File : Type}

structure Sound (loop : EventLoop File) : Prop where
  listed : loop.daemon.Listed
  registered : ∀ socketFd ∈ loop.registered, socketFd ∈ loop.daemon.sockets
  pending : ∀ socketFd ∈ loop.pending, socketFd ∈ loop.daemon.sockets
  distinct : loop.pending.Nodup
  intact : loop.corrupt = false

variable {loop : EventLoop File}

theorem mem_sockets_reregister {unit : Listener} {delivery : Delivery} {after : Daemon File}
    {socketFd : ℕ} (member : socketFd ∈ loop.reregister unit delivery after) :
    socketFd ∈ after.sockets := by
  rcases List.mem_append.1 member with kept | new
  · have both := (List.mem_filter.1 kept).2
    rw [decide_eq_true_iff] at both
    exact both.1
  · exact (List.mem_filter.1 new).1

theorem Sound.wait (sound : loop.Sound) (connected : List ℕ) : (loop.wait connected).Sound where
  listed := sound.listed
  registered := sound.registered
  pending := by
    intro socketFd member
    have chosen := List.mem_dedup.1 (List.mem_of_mem_take member)
    exact sound.registered socketFd (of_decide_eq_true (List.mem_filter.1 chosen).2)
  distinct := (List.nodup_dedup _).sublist (List.take_sublist _ _)
  intact := sound.intact

variable [DecidableEq File] {resolve : CString → File} {nprocessors : Int}

theorem sound_started : (started resolve).Sound := by
  have granted : Daemon.Granted resolve micaCreateName .smooth ⟨[], [], fun _ => none, 0⟩ := by
    simp [Daemon.Granted, DaemonResults.smooth]
  have empty : Micad.Listed [] 0 := by constructor <;> simp
  have listed : (Daemon.started resolve).Listed := by
    rw [Daemon.started, Daemon.addListener_of_granted none granted]
    exact empty.add (CString.length_strlcpy_lt (by decide) _) (by simp) (Nat.le_refl _)
      (Nat.lt_succ_self _)
  exact ⟨listed, fun _ member => member, by simp [started], by simp [started], rfl⟩

theorem callback_keeps {daemon : Daemon File} {unit : Listener} {delivery : Delivery}
    (listed : daemon.Listed)
    (short : (createMsgOf delivery.received).name.length < maxNameLen) :
    (daemon.callback resolve nprocessors unit delivery).Listed ∧
      ∀ other ∈ daemon.sockets, other ≠ unit.socketFd →
        other ∈ (daemon.callback resolve nprocessors unit delivery).sockets := by
  rw [Daemon.callback]
  split
  · obtain ⟨later, kept⟩ := @Daemon.Listed.create _ daemon _ resolve nprocessors listed
      delivery.received delivery.results short
    exact ⟨later, fun other member _ => kept member⟩
  · split_ifs
    · exact listed.rm _ _ _
    · exact ⟨listed, fun other member _ => member⟩

theorem Sound.serve (sound : loop.Sound) {delivery : Delivery}
    (short : (createMsgOf delivery.received).name.length < maxNameLen) :
    (loop.serve resolve nprocessors delivery).Sound := by
  rw [EventLoop.serve]
  split
  · exact sound
  · rename_i socketFd rest isPending
    have pending := sound.pending
    have distinct := sound.distinct
    rw [isPending] at pending distinct
    have listedSocket := pending socketFd List.mem_cons_self
    split
    · rename_i absent
      obtain ⟨unit, member, same⟩ := List.mem_map.1 listedSocket
      exact absurd same (by simpa using List.find?_eq_none.1 absent unit member)
    · rename_i unit found
      have isUnit : unit.socketFd = socketFd := by simpa using List.find?_some found
      obtain ⟨later, kept⟩ := @callback_keeps _ _ resolve nprocessors _ unit _ sound.listed short
      refine ⟨later, fun _ member => mem_sockets_reregister member, ?_, ?_, sound.intact⟩
      · intro other member
        apply kept other (pending other (List.mem_cons_of_mem _ member))
        rintro rfl
        rw [isUnit] at member
        exact (List.nodup_cons.1 distinct).1 member
      · exact (List.nodup_cons.1 distinct).2

end EventLoop

/-- The name in a create message is not cut. -/
def LoopEvent.ShortName : LoopEvent → Prop
  | wait _ => True
  | serve delivery => (createMsgOf delivery.received).name.length < maxNameLen

namespace EventLoop

variable {File : Type} [DecidableEq File] {resolve : CString → File} {nprocessors : Int}

theorem Sound.step {loop : EventLoop File} (sound : loop.Sound) {event : LoopEvent}
    (short : event.ShortName) : (loop.step resolve nprocessors event).Sound := by
  cases event with
  | wait connected =>
      rw [EventLoop.step]
      split_ifs
      · exact sound.wait connected
      · exact sound
  | serve delivery => exact sound.serve short

/-- A connection that delivers these bytes, on which every call succeeds. -/
def delivers (received : List UInt8) : LoopEvent := .serve ⟨received, .smooth, 0, 0⟩

/-- With a name that is cut, a client is created under the name of another, and its removal frees
the wrong listener. -/
example :
    let events := [.wait [0], delivers (Daemon.namedMessage 31), .wait [0],
      delivers (Daemon.namedMessage 32), .wait [0], delivers (Daemon.namedMessage 32),
      .wait [6, 2], delivers rmText.bytes, delivers rmText.bytes]
    (events.foldl (step id 4) (started id)).corrupt = true := by
  decide +kernel

end EventLoop

end Mica.Micad
