import Mathlib.Data.List.Basic

/-!
# Blocks of memory and their release

Blocks are numbered in the order in which they are allocated. The record of releases
keeps every call, so a block that is released twice stands in it twice.
-/

/-- The number of blocks allocated so far and the releases, in order. -/
structure Allocations where
  count : ℕ
  released : List ℕ
deriving DecidableEq

namespace Allocations

def none : Allocations := ⟨0, []⟩

/-- Allocate a block; it gets the number `count`. -/
def alloc (blocks : Allocations) : Allocations := { blocks with count := blocks.count + 1 }

def release (blocks : Allocations) (block : ℕ) : Allocations :=
  { blocks with released := blocks.released ++ [block] }

/-- The block has been allocated and not been released. -/
def Live (blocks : Allocations) (block : ℕ) : Prop :=
  block < blocks.count ∧ block ∉ blocks.released

instance (blocks : Allocations) (block : ℕ) : Decidable (blocks.Live block) :=
  inferInstanceAs (Decidable (_ ∧ _))

/-- Every release is one of an allocated block. -/
def Bounded (blocks : Allocations) : Prop := ∀ block ∈ blocks.released, block < blocks.count

variable {blocks : Allocations} {block : ℕ}

theorem bounded_none : none.Bounded := by
  intro block listed
  cases listed

theorem Bounded.alloc (bounded : blocks.Bounded) : blocks.alloc.Bounded := by
  intro block listed
  exact Nat.lt_succ_of_lt (bounded block listed)

theorem Bounded.release (bounded : blocks.Bounded) (allocated : block < blocks.count) :
    (blocks.release block).Bounded := by
  intro other listed
  rcases List.mem_append.1 listed with old | new
  · exact bounded other old
  · rw [List.mem_singleton.1 new]
    exact allocated

theorem Bounded.live_alloc (bounded : blocks.Bounded) : blocks.alloc.Live blocks.count := by
  refine ⟨Nat.lt_succ_self _, ?_⟩
  intro listed
  exact Nat.lt_irrefl _ (bounded _ listed)

theorem not_live_release : ¬(blocks.release block).Live block := by
  rintro ⟨-, unreleased⟩
  exact unreleased (List.mem_append_right _ (List.mem_singleton_self block))

/-- Release the block that a pointer refers to, if it is not a null pointer; the block must be
live. -/
def giveBack (blocks : Allocations) : Option ℕ → Option Allocations
  | .none => some blocks
  | some block => if blocks.Live block then some (blocks.release block) else .none

theorem giveBack_eq_some_iff {pointer : Option ℕ} {after : Allocations} :
    blocks.giveBack pointer = some after ↔
      (∀ block ∈ pointer, blocks.Live block) ∧ after = pointer.elim blocks blocks.release := by
  cases pointer with
  | none => simp [giveBack, eq_comm]
  | some block =>
      by_cases live : blocks.Live block
      · simp [giveBack, live, eq_comm]
      · simp [giveBack, live]

theorem giveBack_of_live {pointer : Option ℕ} (live : ∀ block ∈ pointer, blocks.Live block) :
    blocks.giveBack pointer = some ⟨blocks.count, blocks.released ++ pointer.toList⟩ := by
  rw [giveBack_eq_some_iff]
  refine ⟨live, ?_⟩
  cases pointer with
  | none => rw [Option.toList_none, List.append_nil, Option.elim_none]
  | some block => rfl

theorem live_release_iff {other : ℕ} :
    (blocks.release block).Live other ↔ blocks.Live other ∧ other ≠ block := by
  simp [Live, release, and_assoc]

end Allocations
