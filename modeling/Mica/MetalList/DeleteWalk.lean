import Mica.Lib.CircularList

/-!
# Deleting while walking a list

The program cleans up its lists in one way: a walk by `metal_list_for_each` whose body, for an
element to be deleted, sets `node` back to the predecessor, unlinks the element and frees it. The
head of a list is its sentinel, which is no element and can be the predecessor.

The nodes are addresses of any type. Every access to the links of a node that has been freed is a
fault, as is a second `free`. `metal_list_for_each(list, node)` is
`for (node = list->next; node != list; node = node->next)`.
-/

namespace Mica.MetalList

open CircularList

universe u

/-- The links of the nodes and the nodes that have been freed, in the order of the calls. -/
structure Heap (Node : Type u) where
  links : Links Node
  freed : List Node

variable {Node : Type u} [DecidableEq Node]

namespace Heap

/-- What an access to a node gives, if the node has not been freed. -/
def access {α : Type u} (heap : Heap Node) (node : Node) (value : α) : Option α :=
  if node ∈ heap.freed then none else some value

def next (heap : Heap Node) (node : Node) : Option Node :=
  heap.access node (heap.links.next node)

def prev (heap : Heap Node) (node : Node) : Option Node :=
  heap.access node (heap.links.prev node)

def setNext (heap : Heap Node) (node target : Node) : Option (Heap Node) :=
  heap.access node
    { heap with links.next := Function.update heap.links.next node target }

def setPrev (heap : Heap Node) (node target : Node) : Option (Heap Node) :=
  heap.access node
    { heap with links.prev := Function.update heap.links.prev node target }

def free (heap : Heap Node) (node : Node) : Option (Heap Node) :=
  heap.access node { heap with freed := heap.freed ++ [node] }

end Heap

/-- `metal_list_del`:
`node->next->prev = node->prev; node->prev->next = node->next; node->next = node->prev = node`. -/
def metalListDel (heap : Heap Node) (node : Node) : Option (Heap Node) := do
  let heap ← heap.setPrev (← heap.next node) (← heap.prev node)
  let heap ← heap.setNext (← heap.prev node) (← heap.next node)
  let heap ← heap.setPrev node node
  heap.setNext node node

/-- The body of a cleaning walk: the heap, and `node` at its end. -/
def deleteBody (selected : Node → Bool) (heap : Heap Node) (node : Node) :
    Option (Heap Node × Node) :=
  if selected node then do
    let tmpNode := node
    let node ← heap.prev tmpNode
    let heap ← metalListDel heap tmpNode
    let heap ← heap.free tmpNode
    some (heap, node)
  else some (heap, node)

/-- How a walk ends; `done` with the nodes that the body was run for. -/
inductive Walk (Node : Type u) where
  | done (heap : Heap Node) (visited : List Node)
  | fault
  | outOfFuel

/-- The loop of `metal_list_for_each` from `node` on. -/
def forEachFrom (body : Heap Node → Node → Option (Heap Node × Node)) (list : Node) :
    ℕ → Heap Node → Node → List Node → Walk Node
  | 0, _, _, _ => .outOfFuel
  | fuel + 1, heap, node, visited =>
      if node = list then .done heap visited
      else
        match body heap node with
        | none => .fault
        | some (heap, last) =>
            match heap.next last with
            | none => .fault
            | some following => forEachFrom body list fuel heap following (visited ++ [node])

def metalListForEach (body : Heap Node → Node → Option (Heap Node × Node)) (fuel : ℕ)
    (heap : Heap Node) (list : Node) : Walk Node :=
  match heap.next list with
  | none => .fault
  | some first => forEachFrom body list fuel heap first []

/-- The heap after a node has been unlinked and freed. -/
def Heap.without (heap : Heap Node) (node : Node) : Heap Node where
  links := heap.links.unlink node
  freed := heap.freed ++ [node]

/-- The heap after the body has run for a node. -/
def Heap.visit (selected : Node → Bool) (heap : Heap Node) (node : Node) : Heap Node :=
  if selected node then heap.without node else heap

def Heap.sweep (selected : Node → Bool) (heap : Heap Node) : List Node → Heap Node
  | [] => heap
  | node :: nodes => (heap.visit selected node).sweep selected nodes

theorem Heap.freed_sweep (selected : Node → Bool) (heap : Heap Node) (nodes : List Node) :
    (heap.sweep selected nodes).freed = heap.freed ++ nodes.filter selected := by
  induction nodes generalizing heap with
  | nil => simp [sweep]
  | cons node nodes ih =>
      rw [sweep, ih, visit, List.filter_cons]
      split_ifs <;> simp [without]

/-- A well-formed list, none of whose nodes has been freed. -/
structure Heap.Lists (heap : Heap Node) (list : Node) (nodes : List Node) : Prop where
  ring : Ring heap.links list nodes
  live : ∀ node ∈ list :: nodes, node ∉ heap.freed

namespace Heap.Lists

variable {heap : Heap Node} {list node : Node} {nodes before after : List Node}

theorem access_eq {α : Type u} (lists : heap.Lists list nodes) (member : node ∈ list :: nodes)
    (value : α) : heap.access node value = some value := by
  rw [access, if_neg (lists.live node member)]

theorem next_node (lists : heap.Lists list (before ++ node :: after)) :
    heap.next node = some (after.headD list) := by
  rw [Heap.next, lists.access_eq (by simp), lists.ring.next_node]

theorem prev_node (lists : heap.Lists list (before ++ node :: after)) :
    heap.prev node = some (before.getLastD list) := by
  rw [Heap.prev, lists.access_eq (by simp), lists.ring.prev_node]

theorem metalListDel_eq (lists : heap.Lists list (before ++ node :: after)) :
    metalListDel heap node = some { heap with links := heap.links.unlink node } := by
  have liveNode : node ∉ heap.freed := lists.live node (by simp)
  have liveNext : heap.links.next node ∉ heap.freed :=
    lists.live _ (Ring.others_subset lists.ring.next_mem)
  have livePrev : heap.links.prev node ∉ heap.freed :=
    lists.live _ (Ring.others_subset lists.ring.prev_mem)
  -- `node->prev` is read once more after `node->next->prev` has been stored
  have other : node ≠ heap.links.next node := by
    intro same
    exact lists.ring.notMem_others (same ▸ lists.ring.next_mem)
  simp [metalListDel, Heap.next, Heap.prev, Heap.setNext, Heap.setPrev, access, liveNode, liveNext,
    livePrev, Function.update_of_ne other, Links.unlink]

theorem without (lists : heap.Lists list (before ++ node :: after)) :
    (heap.without node).Lists list (before ++ after) := by
  refine ⟨lists.ring.unlink, ?_⟩
  intro other member freed
  rcases List.mem_append.mp freed with earlier | now
  · exact lists.live other (Ring.others_subset member) earlier
  · rw [List.mem_singleton.mp now] at member
    exact lists.ring.notMem_others member

theorem deleteBody_eq (lists : heap.Lists list (before ++ node :: after)) (selected : Node → Bool) :
    deleteBody selected heap node =
      if selected node then some (heap.without node, before.getLastD list)
      else some (heap, node) := by
  have liveNode : node ∉ heap.freed := lists.live node (by simp)
  simp [deleteBody, lists.prev_node, lists.metalListDel_eq, Heap.free, access, liveNode,
    Heap.without]

theorem next_of_deleteBody (lists : heap.Lists list (before ++ node :: after))
    (selected : Node → Bool) :
    ∃ last, deleteBody selected heap node = some (heap.visit selected node, last) ∧
      (heap.visit selected node).next last = some (after.headD list) := by
  rw [lists.deleteBody_eq, Heap.visit]
  split_ifs with deleted
  · have without := lists.without
    refine ⟨_, rfl, ?_⟩
    rw [Heap.next, without.access_eq, without.ring.next_getLastD]
    exact List.mem_append_left after List.getLastD_mem_cons
  · exact ⟨node, rfl, lists.next_node⟩

theorem visit (lists : heap.Lists list (before ++ node :: after)) (selected : Node → Bool) :
    (heap.visit selected node).Lists list (before ++ [node].filter (!selected ·) ++ after) := by
  rw [Heap.visit]
  cases deleted : selected node with
  | true => simpa [deleted] using lists.without
  | false => simpa [deleted] using lists

theorem forEachFrom_eq (lists : heap.Lists list (before ++ after)) (selected : Node → Bool)
    (visited : List Node) {fuel : ℕ} (enough : after.length < fuel) :
    forEachFrom (deleteBody selected) list fuel heap (after.headD list) visited =
      .done (heap.sweep selected after) (visited ++ after) := by
  -- over the nodes from the cursor on; the nodes before it are those that were kept
  induction after generalizing before heap visited fuel with
  | nil =>
      cases fuel with
      | zero => exact absurd enough (Nat.not_lt_zero _)
      | succ fuel => simp [forEachFrom, Heap.sweep]
  | cons node after ih =>
      cases fuel with
      | zero => exact absurd enough (Nat.not_lt_zero _)
      | succ fuel =>
          have other : node ≠ list := by
            rintro rfl
            exact lists.ring.notMem_others List.mem_cons_self
          rcases lists.next_of_deleteBody selected with ⟨last, body, following⟩
          have rest := ih (lists.visit selected) (visited ++ [node]) (Nat.lt_of_succ_lt_succ enough)
          rw [List.headD_cons, forEachFrom, if_neg other, body]
          simp only [following, rest, Heap.sweep, List.append_assoc, List.singleton_append]

theorem sweep (lists : heap.Lists list (before ++ after)) (selected : Node → Bool) :
    (heap.sweep selected after).Lists list (before ++ after.filter (!selected ·)) := by
  induction after generalizing before heap with
  | nil => simpa [Heap.sweep] using lists
  | cons node after ih =>
      have rest := ih (lists.visit selected)
      rwa [List.append_assoc, ← List.filter_append, List.singleton_append] at rest

theorem metalListForEach_eq (lists : heap.Lists list nodes) (selected : Node → Bool) {fuel : ℕ}
    (enough : nodes.length < fuel) :
    metalListForEach (deleteBody selected) fuel heap list =
      .done (heap.sweep selected nodes) nodes := by
  have whole : heap.Lists list ([] ++ nodes) := lists
  have first : heap.next list = some (nodes.headD list) := by
    rw [Heap.next, lists.access_eq List.mem_cons_self]
    exact congrArg some whole.ring.next_getLastD
  rw [metalListForEach, first]
  exact whole.forEachFrom_eq selected [] enough

theorem sweep_all (lists : heap.Lists list nodes) (selected : Node → Bool) :
    (heap.sweep selected nodes).Lists list (nodes.filter (!selected ·)) := by
  have whole : heap.Lists list ([] ++ nodes) := lists
  exact whole.sweep selected

end Heap.Lists

/-- A walk over a well-formed list that deletes the selected nodes ends after all nodes have been
visited once, in their order, without an access to a freed node, and leaves a well-formed list of
the others. -/
theorem metalListForEach_deleteBody {heap : Heap Node} {list : Node} {nodes : List Node}
    (lists : heap.Lists list nodes) (selected : Node → Bool) :
    ∃ after : Heap Node,
      (∀ fuel, nodes.length < fuel →
        metalListForEach (deleteBody selected) fuel heap list = .done after nodes) ∧
      after.Lists list (nodes.filter (!selected ·)) ∧
      after.freed = heap.freed ++ nodes.filter selected := by
  refine ⟨heap.sweep selected nodes, ?_, lists.sweep_all selected, heap.freed_sweep selected nodes⟩
  intro fuel enough
  exact lists.metalListForEach_eq selected enough

/-- Three nodes behind the sentinel 0. -/
def threeNodes : Heap ℕ where
  links := { next := fun node => (node + 1) % 4, prev := fun node => (node + 3) % 4 }
  freed := []

theorem threeNodes_lists : threeNodes.Lists 0 [1, 2, 3] := by
  refine ⟨⟨by decide, by simp [Leads, threeNodes], by simp [Leads, threeNodes]⟩, ?_⟩
  simp [threeNodes]

/-- The first two nodes are deleted, so that the walk goes back to the sentinel twice. -/
theorem metalListForEach_deleteBody_three :
    threeNodes.Lists 0 [1, 2, 3] ∧
      ∃ after : Heap ℕ,
        (∀ fuel, 3 < fuel →
          metalListForEach (deleteBody (· < 3)) fuel threeNodes 0 = .done after [1, 2, 3]) ∧
        after.Lists 0 [3] ∧ after.freed = [1, 2] :=
  ⟨threeNodes_lists, metalListForEach_deleteBody threeNodes_lists (· < 3)⟩

end Mica.MetalList
