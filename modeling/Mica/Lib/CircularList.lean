import Mathlib.Data.List.Nodup
import Mathlib.Logic.Function.Basic

/-!
# Circular doubly linked lists

A list with a sentinel: the links `next` lead from the sentinel through the nodes back to it, and
the links `prev` lead through the same nodes in the other direction. Each direction is a path of
a single link function, and what is known of paths is used twice for a ring.
-/

namespace CircularList

universe u

variable {Node : Type u}

/-- Following a link from `start` leads through `nodes` to `stop`. -/
def Leads (link : Node → Node) : Node → List Node → Node → Prop
  | start, [], stop => link start = stop
  | start, node :: nodes, stop => link start = node ∧ Leads link node nodes stop

section Leads

variable {link link' : Node → Node} {start stop node : Node} {nodes before after : List Node}

theorem Leads.congr (path : Leads link start nodes stop)
    (agree : ∀ node ∈ start :: nodes, link' node = link node) : Leads link' start nodes stop := by
  induction nodes generalizing start with
  | nil => exact (agree start List.mem_cons_self).trans path
  | cons node nodes ih =>
      refine ⟨(agree start List.mem_cons_self).trans path.1, ih path.2 ?_⟩
      intro other member
      exact agree other (List.mem_cons_of_mem _ member)

theorem Leads.link_getLastD (path : Leads link start (before ++ after) stop) :
    link (before.getLastD start) = after.headD stop := by
  induction before generalizing start with
  | nil =>
      cases after with
      | nil => exact path
      | cons node after => exact path.1
  | cons node before ih =>
      rw [List.getLastD_cons]
      exact ih path.2

variable [DecidableEq Node]

theorem Leads.skip (path : Leads link start (before ++ node :: after) stop)
    (nodup : (start :: before ++ node :: after).Nodup) :
    Leads (Function.update link (before.getLastD start) (link node)) start (before ++ after)
      stop := by
  induction before generalizing start with
  | nil =>
      rcases path with ⟨-, path⟩
      have fresh : ∀ other ∈ after, other ≠ start := by
        rintro other member rfl
        simp [member] at nodup
      rw [List.getLastD_nil, List.nil_append]
      cases after with
      | nil =>
          rw [Leads, Function.update_self]
          exact path
      | cons first after =>
          refine ⟨(Function.update_self _ _ _).trans path.1, path.2.congr ?_⟩
          intro other member
          exact Function.update_of_ne (fresh other member) _ _
  | cons first before ih =>
      rcases path with ⟨toFirst, path⟩
      rcases List.nodup_cons.mp nodup with ⟨fresh, rest⟩
      have differs : start ≠ before.getLastD first := by
        intro same
        apply fresh
        rw [same]
        exact List.mem_append_left _ List.getLastD_mem_cons
      rw [List.getLastD_cons]
      refine ⟨?_, ih path rest⟩
      rw [Function.update_of_ne differs, toFirst]

end Leads

/-- The two links of every node. -/
structure Links (Node : Type u) where
  next : Node → Node
  prev : Node → Node

/-- A well-formed list with these nodes in this order. -/
structure Ring (links : Links Node) (sentinel : Node) (nodes : List Node) : Prop where
  nodup : (sentinel :: nodes).Nodup
  forward : Leads links.next sentinel nodes sentinel
  backward : Leads links.prev sentinel nodes.reverse sentinel

/-- The neighbours of a node are linked to each other, and the node to itself. -/
def Links.unlink [DecidableEq Node] (links : Links Node) (node : Node) : Links Node where
  next := Function.update (Function.update links.next (links.prev node) (links.next node)) node node
  prev := Function.update (Function.update links.prev (links.next node) (links.prev node)) node node

namespace Ring

variable {links : Links Node} {sentinel node : Node} {before after : List Node}

theorem headD_reverse (nodes : List Node) (default : Node) :
    nodes.reverse.headD default = nodes.getLastD default := by
  rw [List.headD_eq_head?_getD, List.head?_reverse, List.getLastD_eq_getLast?]

theorem getLastD_reverse (nodes : List Node) (default : Node) :
    nodes.reverse.getLastD default = nodes.headD default := by
  rw [← headD_reverse, List.reverse_reverse]

theorem next_getLastD (ring : Ring links sentinel (before ++ after)) :
    links.next (before.getLastD sentinel) = after.headD sentinel :=
  ring.forward.link_getLastD

theorem prev_headD (ring : Ring links sentinel (before ++ after)) :
    links.prev (after.headD sentinel) = before.getLastD sentinel := by
  have backward := ring.backward
  rw [List.reverse_append] at backward
  have link := backward.link_getLastD
  rwa [getLastD_reverse, headD_reverse] at link

theorem next_node (ring : Ring links sentinel (before ++ node :: after)) :
    links.next node = after.headD sentinel := by
  rw [List.append_cons] at ring
  simpa using ring.next_getLastD

theorem prev_node (ring : Ring links sentinel (before ++ node :: after)) :
    links.prev node = before.getLastD sentinel :=
  ring.prev_headD

theorem next_mem (ring : Ring links sentinel (before ++ node :: after)) :
    links.next node ∈ sentinel :: (before ++ after) := by
  rw [ring.next_node]
  cases after <;> simp

theorem prev_mem (ring : Ring links sentinel (before ++ node :: after)) :
    links.prev node ∈ sentinel :: (before ++ after) := by
  rw [ring.prev_node]
  exact List.mem_append_left after List.getLastD_mem_cons

theorem others_subset :
    sentinel :: (before ++ after) ⊆ sentinel :: (before ++ node :: after) :=
  (((List.sublist_cons_self node after).append_left before).cons_cons sentinel).subset

theorem nodup_middle (ring : Ring links sentinel (before ++ node :: after)) :
    (node :: sentinel :: (before ++ after)).Nodup := by
  have middle : (sentinel :: before ++ node :: after).Nodup := ring.nodup
  exact List.perm_middle.nodup_iff.mp middle

theorem notMem_others (ring : Ring links sentinel (before ++ node :: after)) :
    node ∉ sentinel :: (before ++ after) :=
  (List.nodup_cons.mp ring.nodup_middle).1

theorem unlink [DecidableEq Node] (ring : Ring links sentinel (before ++ node :: after)) :
    Ring (links.unlink node) sentinel (before ++ after) := by
  have others : ∀ other ∈ sentinel :: (before ++ after), other ≠ node :=
    fun other member same => ring.notMem_others (same ▸ member)
  refine ⟨(List.nodup_cons.mp ring.nodup_middle).2, ?_, ?_⟩
  · have skipped := ring.forward.skip ring.nodup
    rw [← ring.prev_node] at skipped
    exact skipped.congr fun other member => Function.update_of_ne (others other member) _ _
  · -- the same in the other direction, where the node before is the next one
    have backward := ring.backward
    have reversed : (sentinel :: (before ++ node :: after).reverse).Nodup :=
      ((List.reverse_perm _).cons _).nodup_iff.mpr ring.nodup
    rw [List.reverse_append, List.reverse_cons, List.append_assoc, List.singleton_append]
      at backward reversed
    have skipped := backward.skip reversed
    rw [getLastD_reverse, ← ring.next_node] at skipped
    rw [List.reverse_append]
    refine skipped.congr fun other member => Function.update_of_ne (others other ?_) _ _
    simpa [or_comm] using member

end Ring

end CircularList
