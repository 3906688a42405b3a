import Mathlib.Data.List.Basic
import Mathlib.Data.UInt
import Mathlib.Order.CompletePartialOrder
import Mathlib.Order.Interval.Set.Disjoint

/-!
# Regions and bump allocation

A region is a half-open range of addresses. An arena hands out regions between
two bounds by moving a pointer upwards: a region may start at the pointer or
behind it, and the pointer moves to its end. That is all it takes for the regions
to stay inside the bounds and apart from each other, so an arena carries both
facts and an allocator only has to be related to it.

Machine addresses wrap. A span is a range of 64-bit addresses that may go on at
address 0; spans at offsets from a common base are compared by their offsets.
-/

structure Region where
  start : ℕ
  size : ℕ
deriving DecidableEq

namespace Region

variable {left right : Region}

def finish (region : Region) : ℕ := region.start + region.size

def addresses (region : Region) : Set ℕ := Set.Ico region.start region.finish

/-- The regions have no address in common. -/
def Apart (left right : Region) : Prop := Disjoint left.addresses right.addresses

theorem apart_iff : Apart left right ↔
    min left.finish right.finish ≤ max left.start right.start :=
  Set.Ico_disjoint_Ico

instance : Decidable (Apart left right) := decidable_of_iff _ apart_iff.symm

theorem apart_of_finish_le_start (behind : left.finish ≤ right.start) : Apart left right := by
  rw [apart_iff]
  apply min_le_of_left_le
  exact le_max_of_le_right behind

theorem Apart.symm (apart : Apart left right) : Apart right left :=
  Disjoint.symm apart

/-- Every address of the inner region is one of the outer region. -/
def Within (inner outer : Region) : Prop := inner.addresses ⊆ outer.addresses

theorem within_iff {inner outer : Region} (positive : 0 < inner.size) :
    Within inner outer ↔ outer.start ≤ inner.start ∧ inner.finish ≤ outer.finish :=
  Set.Ico_subset_Ico_iff (Nat.lt_add_of_pos_right positive)

end Region

/-- A bump allocator between two bounds with the regions it has handed out, newest first. -/
structure Arena (lower upper : ℕ) where
  unused : ℕ
  taken : List Region
  lower_le : lower ≤ unused
  le_upper : unused ≤ upper
  inside : ∀ region ∈ taken, lower ≤ region.start ∧ region.finish ≤ unused
  apart : taken.Pairwise Region.Apart

namespace Arena

variable {lower upper : ℕ}

def empty (nonempty : lower ≤ upper) : Arena lower upper where
  unused := lower
  taken := []
  lower_le := le_rfl
  le_upper := nonempty
  inside := by simp
  apart := List.Pairwise.nil

theorem apart_of_unused_le (arena : Arena lower upper) {region : Region}
    (above : arena.unused ≤ region.start) : ∀ earlier ∈ arena.taken, region.Apart earlier := by
  intro earlier taken
  apply Region.Apart.symm
  apply Region.apart_of_finish_le_start
  exact le_trans (arena.inside earlier taken).2 above

/-- Hands out a region that starts at the pointer or behind it. -/
def take (arena : Arena lower upper) (region : Region) (above : arena.unused ≤ region.start)
    (below : region.finish ≤ upper) : Arena lower upper where
  unused := region.finish
  taken := region :: arena.taken
  lower_le := by
    apply le_trans arena.lower_le
    exact le_trans above (Nat.le_add_right _ _)
  le_upper := below
  inside := by
    intro earlier taken
    rcases List.mem_cons.1 taken with rfl | taken
    · exact ⟨le_trans arena.lower_le above, le_rfl⟩
    · rcases arena.inside earlier taken with ⟨lowerLe, finishLe⟩
      refine ⟨lowerLe, le_trans finishLe (le_trans above ?_)⟩
      exact Nat.le_add_right _ _
  apart := List.Pairwise.cons (arena.apart_of_unused_le above) arena.apart

end Arena

section Span

/-- The addresses of `size` bytes at `start`, in an address space of 64 bits that wraps. -/
def span (start : UInt64) (size : ℕ) : Set UInt64 := {address | (address - start).toNat < size}

theorem mem_span_self {start : UInt64} {size : ℕ} (positive : 0 < size) :
    start ∈ span start size := by
  simpa [span] using positive

theorem toNat_sub_of_toNat_le {left right : UInt64} (le : right.toNat ≤ left.toNat) :
    (left - right).toNat = left.toNat - right.toNat :=
  UInt64.toNat_sub_of_le _ _ (UInt64.le_iff_toNat_le.2 le)

theorem disjoint_span_iff {left right : UInt64} {leftSize rightSize : ℕ}
    (leftPos : 0 < leftSize) (rightPos : 0 < rightSize) :
    Disjoint (span left leftSize) (span right rightSize) ↔
      leftSize ≤ (right - left).toNat ∧ rightSize ≤ (left - right).toNat := by
  rw [Set.disjoint_left]
  constructor
  · intro disjoint
    constructor
    · by_contra short
      exact disjoint (not_le.1 short) (mem_span_self rightPos)
    · by_contra short
      exact disjoint (mem_span_self leftPos) (not_le.1 short)
  · rintro ⟨leftLe, rightLe⟩ address inLeft inRight
    -- the two distances to the address differ by the distance of the starts
    rcases le_total (address - right).toNat (address - left).toNat with le | le
    · have starts : right - left = (address - left) - (address - right) := by grind
      rw [starts, toNat_sub_of_toNat_le le] at leftLe
      have inLeft : (address - left).toNat < leftSize := inLeft
      omega
    · have starts : left - right = (address - right) - (address - left) := by grind
      rw [starts, toNat_sub_of_toNat_le le] at rightLe
      have inRight : (address - right).toNat < rightSize := inRight
      omega

theorem disjoint_span_offset_iff {base left right : UInt64} {leftSize rightSize : ℕ}
    (leftPos : 0 < leftSize) (rightPos : 0 < rightSize)
    (leftLe : left.toNat + leftSize ≤ 2 ^ 63) (rightLe : right.toNat + rightSize ≤ 2 ^ 63) :
    Disjoint (span (base + left) leftSize) (span (base + right) rightSize) ↔
      Region.Apart ⟨left.toNat, leftSize⟩ ⟨right.toNat, rightSize⟩ := by
  have forward : base + right - (base + left) = right - left := by grind
  have backward : base + left - (base + right) = left - right := by grind
  rw [disjoint_span_iff leftPos rightPos, forward, backward, Region.apart_iff]
  simp only [UInt64.toNat_sub, Region.finish]
  omega

end Span
