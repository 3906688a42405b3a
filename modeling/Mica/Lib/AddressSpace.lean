import Mica.Lib.Align
import Mica.Lib.Run
import Mathlib.Data.UInt
import Mathlib.Data.List.Pairwise
import Mathlib.Data.Set.Lattice
import Mathlib.Order.CompletePartialOrder

/-!
# Mapped pages of a process

`mmap` adds the pages of the range it returns, which were not mapped before;
`munmap` removes the pages of its range and fails, changing nothing, if the address
is not a multiple of the page size. A process that unmaps each of its mappings,
either exactly or not at all, is back where it was exactly if it missed none.
-/

namespace AddressSpace

/-- The calls of a process that change what it has mapped: `mmap` with the address that it
returned, and `munmap`. -/
inductive Syscall where
  | mmap (addr length offset : UInt64)
  | munmap (addr length : UInt64)
deriving DecidableEq

/-- The numbers of the pages that a range touches. -/
def pages (pagesize start length : ℕ) : Set ℕ :=
  {page | page * pagesize < start + length ∧ start < (page + 1) * pagesize}

def act (pagesize : ℕ) (mapped : Set ℕ) : Syscall → Set ℕ
  | .mmap addr length _ => mapped ∪ pages pagesize addr.toNat length.toNat
  | .munmap addr length =>
      if addr.toNat % pagesize = 0 then mapped \ pages pagesize addr.toNat length.toNat else mapped

/-- What `mmap` without an address hint guarantees when it succeeds. -/
def Fresh (pagesize : ℕ) (mapped : Set ℕ) : Syscall → Prop
  | .mmap addr length _ =>
      0 < length.toNat ∧ addr.toNat % pagesize = 0 ∧
        Disjoint (pages pagesize addr.toNat length.toNat) mapped
  | .munmap _ _ => True

section Pages

variable {pagesize start length : ℕ}

theorem mem_pages_start (positive : 0 < length) (aligned : start % pagesize = 0)
    (pagePos : 0 < pagesize) : start / pagesize ∈ pages pagesize start length := by
  have whole := Nat.div_add_mod start pagesize
  rw [aligned, Nat.add_zero, Nat.mul_comm] at whole
  refine ⟨?_, ?_⟩
  · omega
  · rw [Nat.succ_mul]
    omega

theorem pages_eq_of_up {longer : ℕ} (aligned : start % pagesize = 0)
    (le : length ≤ longer) (multiple : longer % pagesize = 0) (short : longer < length + pagesize) :
    pages pagesize start longer = pages pagesize start length := by
  ext page
  apply and_congr_left
  intro _
  constructor
  · intro inside
    -- a page that starts behind the shorter range starts at the end of the longer one
    by_contra behind
    have le : start + longer ≤ page * pagesize := by
      apply Align.le_of_dvd_of_lt_add
      · exact Nat.dvd_add (Nat.dvd_of_mod_eq_zero aligned) (Nat.dvd_of_mod_eq_zero multiple)
      · exact Nat.dvd_mul_left _ _
      · omega
    omega
  · intro inside
    omega

end Pages

section Restored

variable {Page Item : Type} {initial : Set Page} {items : List Item}
  {added removed : Item → Set Page}

theorem union_diff_eq_iff (fresh : ∀ item ∈ items, Disjoint (added item) initial)
    (apart : items.Pairwise fun left right => Disjoint (added left) (added right))
    (nonempty : ∀ item ∈ items, (added item).Nonempty)
    (exact : ∀ item ∈ items, removed item = added item ∨ removed item = ∅) :
    (initial ∪ ⋃ item ∈ items, added item) \ (⋃ item ∈ items, removed item) = initial ↔
      ∀ item ∈ items, removed item = added item := by
  constructor
  · intro restored item listed
    rcases exact item listed with same | missed
    · exact same
    -- a page of the item is left over: no other item takes it away
    exfalso
    rcases nonempty item listed with ⟨page, inItem⟩
    have left : page ∈ initial := by
      rw [← restored]
      refine ⟨Or.inr (Set.mem_biUnion listed inItem), ?_⟩
      intro taken
      rcases Set.mem_iUnion₂.1 taken with ⟨other, otherListed, inRemoved⟩
      rcases exact other otherListed with same | none
      · by_cases equal : item = other
        · rw [← equal, missed] at inRemoved
          exact inRemoved
        · rw [same] at inRemoved
          have symmetric : Std.Symm fun left right => Disjoint (added left) (added right) :=
            ⟨fun _ _ disjoint => Disjoint.symm disjoint⟩
          have disjoint := apart.forall listed otherListed equal
          exact Set.disjoint_left.1 disjoint inItem inRemoved
      · rw [none] at inRemoved
        exact inRemoved
    exact Set.disjoint_left.1 (fresh item listed) inItem left
  · intro all
    have same : (⋃ item ∈ items, removed item) = ⋃ item ∈ items, added item := by
      apply Set.iUnion₂_congr
      exact all
    rw [same, Set.union_sdiff_right]
    apply Disjoint.sdiff_eq_left
    apply Set.disjoint_iUnion₂_right.2
    intro item listed
    exact Disjoint.symm (fresh item listed)

end Restored

section Runs

variable {pagesize : ℕ} {Item : Type} {initial : Set ℕ}

theorem foldl_mmap (items : List Item) (addr length offset : Item → UInt64) :
    (items.map fun item => Syscall.mmap (addr item) (length item) (offset item)).foldl
        (act pagesize) initial =
      initial ∪ ⋃ item ∈ items, pages pagesize (addr item).toNat (length item).toNat := by
  induction items generalizing initial with
  | nil => simp
  | cons item items ih =>
      rw [List.map_cons, List.foldl_cons, ih, act, Set.union_assoc]
      simp

/-- What a call of `munmap` takes away. -/
def unmapped (pagesize : ℕ) (addr length : UInt64) : Set ℕ :=
  if addr.toNat % pagesize = 0 then pages pagesize addr.toNat length.toNat else ∅

theorem foldl_munmap (items : List Item) (addr length : Item → UInt64) :
    (items.map fun item => Syscall.munmap (addr item) (length item)).foldl
        (act pagesize) initial =
      initial \ ⋃ item ∈ items, unmapped pagesize (addr item) (length item) := by
  induction items generalizing initial with
  | nil => simp
  | cons item items ih =>
      have first : act pagesize initial (.munmap (addr item) (length item)) =
          initial \ unmapped pagesize (addr item) (length item) := by
        rw [act, unmapped]
        split_ifs
        · rfl
        · rw [Set.sdiff_empty]
      rw [List.map_cons, List.foldl_cons, ih, first, Set.sdiff_sdiff]
      simp

theorem apart_of_fresh {items : List Item} {addr length offset : Item → UInt64}
    (fresh : Run.AllSteps (act pagesize) initial (Fresh pagesize)
      (items.map fun item => Syscall.mmap (addr item) (length item) (offset item))) :
    (∀ item ∈ items, 0 < (length item).toNat ∧ (addr item).toNat % pagesize = 0 ∧
        Disjoint (pages pagesize (addr item).toNat (length item).toNat) initial) ∧
      items.Pairwise fun left right =>
        Disjoint (pages pagesize (addr left).toNat (length left).toNat)
          (pages pagesize (addr right).toNat (length right).toNat) := by
  induction items generalizing initial with
  | nil => simp
  | cons item items ih =>
      rw [List.map_cons, Run.allSteps_cons] at fresh
      rcases fresh with ⟨⟨positive, aligned, apartInitial⟩, rest⟩
      rcases ih rest with ⟨later, apart⟩
      refine ⟨?_, List.Pairwise.cons ?_ apart⟩
      · intro other listed
        rcases List.mem_cons.1 listed with rfl | listed
        · exact ⟨positive, aligned, apartInitial⟩
        · rcases later other listed with ⟨otherPositive, otherAligned, disjoint⟩
          exact ⟨otherPositive, otherAligned, (Set.disjoint_union_right.1 disjoint).1⟩
      · intro other listed
        exact Disjoint.symm (Set.disjoint_union_right.1 (later other listed).2.2).2

theorem foldl_eq_initial_iff {items : List Item}
    {addr length offset undoAddr undoLength : Item → UInt64} (pagePos : 0 < pagesize)
    (fresh : Run.AllSteps (act pagesize) initial (Fresh pagesize)
      (items.map fun item => Syscall.mmap (addr item) (length item) (offset item)))
    (exact : ∀ item ∈ items,
      unmapped pagesize (undoAddr item) (undoLength item) =
          pages pagesize (addr item).toNat (length item).toNat ∨
        unmapped pagesize (undoAddr item) (undoLength item) = ∅) :
    ((items.map fun item => Syscall.mmap (addr item) (length item) (offset item)) ++
        items.map fun item => Syscall.munmap (undoAddr item) (undoLength item)).foldl
        (act pagesize) initial = initial ↔
      ∀ item ∈ items, unmapped pagesize (undoAddr item) (undoLength item) =
        pages pagesize (addr item).toNat (length item).toNat := by
  rcases apart_of_fresh fresh with ⟨each, apart⟩
  rw [List.foldl_append, foldl_mmap, foldl_munmap]
  apply union_diff_eq_iff
  · exact fun item listed => (each item listed).2.2
  · exact apart
  · intro item listed
    rcases each item listed with ⟨positive, aligned, _⟩
    exact ⟨_, mem_pages_start positive aligned pagePos⟩
  · exact exact

end Runs

end AddressSpace
