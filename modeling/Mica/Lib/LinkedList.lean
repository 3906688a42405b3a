import Mathlib.Data.List.Nodup

/-!
# Linked lists that are built at their end

A list goes on at places: the variable for its head (`none`), and the link of each
of its nodes. A place holds a pointer, once one has been stored to it.
-/

namespace LinkedList

universe u

variable {Node : Type u} {links links' : Option Node → Option (Option Node)}
  {place last : Option Node} {nodes : List Node} {node : Node}

/-- The links lead from a place through nodes to another place. -/
def Segment (links : Option Node → Option (Option Node)) :
    Option Node → List Node → Option Node → Prop
  | place, [], last => place = last
  | place, node :: nodes, last =>
      links place = some (some node) ∧ Segment links (some node) nodes last

theorem Segment.last_mem (segment : Segment links place nodes last) :
    last ∈ place :: nodes.map some := by
  induction nodes generalizing place with
  | nil => exact List.mem_singleton.2 (Eq.symm segment)
  | cons node nodes ih => exact List.mem_cons_of_mem _ (ih segment.2)

theorem Segment.exists_link (segment : Segment links place nodes last) {pointer : Option Node}
    (stored : links last = some pointer) : ∃ first, links place = some first := by
  cases nodes with
  | nil =>
      obtain rfl : place = last := segment
      exact ⟨pointer, stored⟩
  | cons node nodes => exact ⟨some node, segment.1⟩

theorem Segment.append (segment : Segment links place nodes last)
    (link : links last = some (some node)) :
    Segment links place (nodes ++ [node]) (some node) := by
  induction nodes generalizing place with
  | nil =>
      obtain rfl : place = last := segment
      exact ⟨link, rfl⟩
  | cons first nodes ih => exact ⟨segment.1, ih segment.2⟩

theorem Segment.congr (segment : Segment links place nodes last)
    (nodup : (place :: nodes.map some).Nodup)
    (agree : ∀ other ∈ place :: nodes.map some, other ≠ last → links' other = links other) :
    Segment links' place nodes last := by
  induction nodes generalizing place with
  | nil => exact segment
  | cons node nodes ih =>
      rcases List.nodup_cons.1 nodup with ⟨fresh, rest⟩
      have differs : place ≠ last := fun same => fresh (same ▸ segment.2.last_mem)
      refine ⟨(agree place List.mem_cons_self differs).trans segment.1, ih segment.2 rest ?_⟩
      intro other member
      exact agree other (List.mem_cons_of_mem _ member)

end LinkedList
