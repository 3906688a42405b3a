import Mica.Endpoint.Basic
import Mica.MetalList.DeleteWalk
import Mica.Remoteproc.Mappings

/-!
# The walks that clean up

The walks of `mica_register_service`, `mica_unregister_all_services`, `remove_tty_dev_lists`,
`free_all_listeners` and the two versions of `rproc_shutdown` have the body of
`Mica.MetalList.DeleteWalk`. The first deletes the endpoints that match, the others delete all
elements. In `remove_tty_dev_lists` the element is unlinked by `rpmsg_tty_unbind` and freed by its
thread at some later time; to free it at once allows fewer accesses.

The models of these functions have lists of values in place of linked nodes. Here `value` gives the
structure around a node (`metal_container_of`), and the walks over nodes leave what these models
say.
-/

namespace Mica.MetalList

open Endpoint Remoteproc

universe u v

variable {Node : Type u} [DecidableEq Node] {heap : Heap Node} {list : Node}

/-- A well-formed list whose nodes are in these structures. -/
def Heap.Contains {Value : Type v} (heap : Heap Node) (list : Node) (value : Node → Value)
    (values : List Value) : Prop :=
  ∃ nodes, heap.Lists list nodes ∧ nodes.map value = values

/-- The walk of `mica_register_service` over `remote_ept_list`. -/
def registerServiceWalk (nsMatch : NsMatch) (rdev : ℕ) (value : Node → RemoteEpt) (fuel : ℕ)
    (heap : Heap Node) (remoteEptList : Node) : Walk Node :=
  metalListForEach
    (deleteBody fun node =>
      nsMatch rdev (value node).name (value node).addr (value node).destAddr)
    fuel heap remoteEptList

/-- A walk that deletes every element. -/
def clearWalk (fuel : ℕ) (heap : Heap Node) (list : Node) : Walk Node :=
  metalListForEach (deleteBody fun _ => true) fuel heap list

theorem Heap.Contains.walk {Value : Type v} {value : Node → Value} {values : List Value}
    (contains : heap.Contains list value values) (selected : Value → Bool) :
    ∃ after visited,
      (∀ fuel, values.length < fuel →
        metalListForEach (deleteBody (selected ∘ value)) fuel heap list = .done after visited) ∧
      visited.map value = values ∧
      after.Contains list value (values.filter (!selected ·)) := by
  rcases contains with ⟨nodes, lists, rfl⟩
  refine ⟨heap.sweep (selected ∘ value) nodes, nodes, ?_, rfl, ?_⟩
  · intro fuel enough
    rw [List.length_map] at enough
    exact lists.metalListForEach_eq _ enough
  · refine ⟨_, lists.sweep_all _, ?_⟩
    rw [List.filter_map]
    rfl

/-- The walk over the nodes leaves the endpoints that `bindPending` keeps. -/
theorem registerServiceWalk_refines {value : Node → RemoteEpt} {pending : List RemoteEpt}
    (contains : heap.Contains list value pending) (nsMatch : NsMatch) (bindCb : NsBindCb)
    (client : Client) :
    ∃ after visited,
      (∀ fuel, pending.length < fuel →
        registerServiceWalk nsMatch client.id value fuel heap list = .done after visited) ∧
      visited.map value = pending ∧
      after.Contains list value (bindPending nsMatch bindCb pending client).2 := by
  rw [bindPending_eq]
  exact contains.walk fun ept => nsMatch client.id ept.name ept.addr ept.destAddr

/-- A walk that deletes every element visits them in order and leaves an empty list. -/
theorem clearWalk_refines {Value : Type v} {value : Node → Value} {values : List Value}
    (contains : heap.Contains list value values) :
    ∃ after visited,
      (∀ fuel, values.length < fuel → clearWalk fuel heap list = .done after visited) ∧
      visited.map value = values ∧ after.Contains list value [] := by
  rcases contains.walk fun _ => true with ⟨after, visited, ends, order, left⟩
  refine ⟨after, visited, ends, order, ?_⟩
  simpa using left

/-- Services are removed in the order of the list, which is empty afterwards. -/
theorem unregisterAllServicesWalk_refines {value : Node → MicaService} {client : Client}
    (contains : heap.Contains list value client.services) :
    ∃ after visited,
      (∀ fuel, client.services.length < fuel → clearWalk fuel heap list = .done after visited) ∧
      visited.map value = client.services ∧
      after.Contains list value (micaUnregisterAllServices client).services :=
  clearWalk_refines contains

/-- Shutdown unmaps the memories that the walk visits and leaves what is left of the nodes. -/
theorem rprocShutdownWalk_refines {value : Node → RemoteprocMem} {mems : List RemoteprocMem}
    (contains : heap.Contains list value mems)
    (unmap : MetalIoRegion → AddressSpace.Syscall) :
    ∃ after visited,
      (∀ fuel, mems.length < fuel → clearWalk fuel heap list = .done after visited) ∧
      (shutdownMems unmap [] mems).1 = visited.map (fun node => unmap (value node).io) ∧
      after.Contains list value (shutdownMems unmap [] mems).2 := by
  rcases clearWalk_refines contains with ⟨after, visited, ends, rfl, left⟩
  refine ⟨after, visited, ends, ?_, ?_⟩
  · simp [shutdownMems_eq]
  · rwa [shutdownMems_eq]

end Mica.MetalList
