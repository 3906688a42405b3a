import Mathlib.Data.List.Basic
import Mathlib.Data.Nat.ModEq
import Mathlib.Logic.Function.Basic

/-!
# Circular memory

A stream of items kept in `n` slots of a memory: the item at stream position
`p` lives in slot `p % n`. This file gives the two copy loops such a buffer
uses, each of which splits once at the end of the array, and proves that they
write and read the slots of consecutive stream positions.

Nothing here bounds the memory by `n`: a cell past the last slot is an ordinary
cell, so that an index that leaves the array shows up as a changed cell rather
than being silently dropped.
-/

namespace Circular

universe u

variable {α : Type u}

/-- Copy `count` cells of `source`, from `sourceStart` on, to `target` at `targetStart`. -/
def memcpy (target : ℕ → α) (targetStart : ℕ) (source : ℕ → α) (sourceStart count : ℕ) :
    ℕ → α := fun index =>
  if targetStart ≤ index ∧ index < targetStart + count then
    source (sourceStart + (index - targetStart))
  else target index

@[simp]
theorem memcpy_zero (target : ℕ → α) (targetStart : ℕ) (source : ℕ → α) (sourceStart : ℕ) :
    memcpy target targetStart source sourceStart 0 = target := by
  funext index
  unfold memcpy
  rw [if_neg (by omega)]

/-- The `count` cells of a memory from `start` on, in order. -/
def cells (memory : ℕ → α) (start count : ℕ) : List α :=
  (List.range count).map fun k => memory (start + k)

@[simp]
theorem cells_zero (memory : ℕ → α) (start : ℕ) : cells memory start 0 = [] := by
  simp [cells]

@[simp]
theorem length_cells (memory : ℕ → α) (start count : ℕ) :
    (cells memory start count).length = count := by
  simp [cells]

@[simp]
theorem getElem_cells (memory : ℕ → α) (start count k : ℕ)
    (bound : k < (cells memory start count).length) :
    (cells memory start count)[k] = memory (start + k) := by
  simp [cells]

theorem take_cells (memory : ℕ → α) (start count limit : ℕ) :
    (cells memory start count).take limit = cells memory start (min count limit) := by
  apply List.ext_getElem
  · simp [min_comm]
  · intro k _ _
    simp

/-- From slot `start % n` on, the memory holds the stream segment `items`. -/
def Holds (n : ℕ) (memory : ℕ → α) (start : ℕ) (items : List α) : Prop :=
  ∀ k (bound : k < items.length), memory ((start + k) % n) = items[k]

theorem slot_ne {n left right : ℕ} (before : left < right) (revolution : right < left + n) :
    left % n ≠ right % n := by
  intro equal
  have divides : n ∣ right - left := (Nat.modEq_iff_dvd' before.le).mp equal
  have := Nat.le_of_dvd (by omega) divides
  omega

theorem holds_nil (n : ℕ) (memory : ℕ → α) (start : ℕ) : Holds n memory start [] := by
  intro k bound
  simp at bound

theorem Holds.append {n : ℕ} {memory : ℕ → α} {start : ℕ} {left right : List α}
    (holdsLeft : Holds n memory start left)
    (holdsRight : Holds n memory (start + left.length) right) :
    Holds n memory start (left ++ right) := by
  intro k bound
  rw [List.getElem_append]
  split
  · exact holdsLeft k _
  · rename_i notLeft
    have rightHolds := holdsRight (k - left.length) (by simp at bound; omega)
    rwa [show start + left.length + (k - left.length) = start + k by omega] at rightHolds

theorem Holds.drop {n : ℕ} {memory : ℕ → α} {start : ℕ} {items : List α}
    (holds : Holds n memory start items) (count : ℕ) :
    Holds n memory (start + count) (items.drop count) := by
  intro k bound
  have later := holds (count + k) (by simp at bound; omega)
  simpa [Nat.add_assoc] using later

theorem Holds.push {n : ℕ} {memory : ℕ → α} {start : ℕ} {items : List α}
    (holds : Holds n memory start items) (room : items.length < n) (item : α) :
    Holds n (Function.update memory ((start + items.length) % n) item) start
      (items ++ [item]) := by
  intro k bound
  rw [List.getElem_append]
  split
  · rename_i earlier
    rw [Function.update_of_ne, holds k earlier]
    exact slot_ne (by omega) (by omega)
  · rename_i notEarlier
    have last : k = items.length := by
      simp at bound
      omega
    subst last
    simp

/-! ## The copy loops -/

/-- The slot of the `k`-th cell of a copy of `count` cells that starts in slot `off`. -/
def splitSlot (n off count k : ℕ) : ℕ :=
  if k < min count (n - off) then off + k else k - min count (n - off)

/-- Copy `count` cells into the buffer from slot `off` on, wrapping to slot 0 once. -/
def copyIn (n : ℕ) (memory source : ℕ → α) (off count : ℕ) : ℕ → α :=
  memcpy (memcpy memory off source 0 (min count (n - off)))
    0 source (min count (n - off)) (count - min count (n - off))

/-- Copy `count` cells out of the buffer from slot `off` on, wrapping to slot 0 once. -/
def copyOut (n : ℕ) (memory target : ℕ → α) (off count : ℕ) : ℕ → α :=
  memcpy (memcpy target 0 memory off (min count (n - off)))
    (min count (n - off)) memory 0 (count - min count (n - off))

@[simp]
theorem copyIn_zero (n : ℕ) (memory source : ℕ → α) (off : ℕ) :
    copyIn n memory source off 0 = memory := by
  simp [copyIn]

theorem splitSlot_eq_mod {n off count k : ℕ} (offBound : off < n) (countBound : count ≤ n)
    (kBound : k < count) : splitSlot n off count k = (off + k) % n := by
  unfold splitSlot
  split
  · rw [Nat.mod_eq_of_lt (by omega)]
  · rw [Nat.mod_eq_sub_mod (by omega), Nat.mod_eq_of_lt (by omega)]
    omega

/-- The slots of a copy of `count` cells that starts in slot `off`, in the order of the copy. -/
def splitSlots (n off count : ℕ) : List ℕ :=
  List.range' off (min count (n - off)) ++ List.range' 0 (count - min count (n - off))

theorem length_splitSlots (n off count : ℕ) : (splitSlots n off count).length = count := by
  rw [splitSlots, List.length_append, List.length_range', List.length_range']
  omega

theorem lt_of_mem_splitSlots {n off count slot : ℕ} (offBound : off < n) (countBound : count ≤ n)
    (mem : slot ∈ splitSlots n off count) : slot < n := by
  rw [splitSlots, List.mem_append, List.mem_range'_1, List.mem_range'_1] at mem
  omega

theorem nodup_splitSlots {n off count : ℕ} (countBound : count ≤ n) :
    (splitSlots n off count).Nodup := by
  refine List.nodup_append.mpr ⟨List.nodup_range', List.nodup_range', ?_⟩
  intro slot first other second
  rw [List.mem_range'_1] at first second
  omega

theorem copyIn_slot {n off count k : ℕ} (memory source : ℕ → α) (offBound : off < n)
    (countBound : count ≤ n) (kBound : k < count) :
    copyIn n memory source off count ((off + k) % n) = source k := by
  rw [← splitSlot_eq_mod offBound countBound kBound]
  unfold copyIn splitSlot memcpy
  split
  · rw [if_neg (by omega), if_pos (by omega)]
    congr 1
    omega
  · rw [if_pos (by omega)]
    congr 1
    omega

theorem copyIn_frame {n off count index : ℕ} (memory source : ℕ → α) (offBound : off < n)
    (countBound : count ≤ n) (untouched : ∀ k < count, index ≠ (off + k) % n) :
    copyIn n memory source off count index = memory index := by
  have notFirst : ¬(off ≤ index ∧ index < off + min count (n - off)) := by
    rintro ⟨lower, upper⟩
    apply untouched (index - off) (by omega)
    rw [Nat.mod_eq_of_lt (by omega)]
    omega
  have notSecond :
      ¬(0 ≤ index ∧ index < 0 + (count - min count (n - off))) := by
    rintro ⟨-, upper⟩
    apply untouched (index + (n - off)) (by omega)
    rw [Nat.mod_eq_sub_mod (by omega), Nat.mod_eq_of_lt (by omega)]
    omega
  unfold copyIn memcpy
  rw [if_neg notSecond, if_neg notFirst]

theorem copyIn_eq_or (n : ℕ) (memory source : ℕ → α) (off count index : ℕ) :
    copyIn n memory source off count index = memory index ∨
      ∃ k, copyIn n memory source off count index = source k := by
  simp only [copyIn, memcpy]
  split
  · exact Or.inr ⟨_, rfl⟩
  · split
    · exact Or.inr ⟨_, rfl⟩
    · exact Or.inl rfl

theorem holds_copyIn {n off count start : ℕ} (memory source : ℕ → α) (offBound : off < n)
    (countBound : count ≤ n) (slot : off = start % n) :
    Holds n (copyIn n memory source off count) start (cells source 0 count) := by
  intro k bound
  rw [length_cells] at bound
  have sameSlot : (start + k) % n = (off + k) % n := by
    rw [slot, Nat.mod_add_mod]
  rw [sameSlot, copyIn_slot memory source offBound countBound bound]
  simp

theorem Holds.copyIn {n off count start : ℕ} {memory : ℕ → α} {items : List α}
    (source : ℕ → α) (holds : Holds n memory start items) (offBound : off < n)
    (slot : off = (start + items.length) % n) (room : items.length + count ≤ n) :
    Holds n (copyIn n memory source off count) start items := by
  intro k bound
  rw [copyIn_frame memory source offBound (by omega), holds k bound]
  intro j jBound
  rw [slot, Nat.mod_add_mod]
  exact slot_ne (by omega) (by omega)

theorem cells_copyOut {n off count : ℕ} (memory target : ℕ → α) (offBound : off < n)
    (countBound : count ≤ n) :
    cells (copyOut n memory target off count) 0 count =
      (List.range count).map fun k => memory ((off + k) % n) := by
  apply List.ext_getElem
  · simp
  · intro k inCells _
    have kBound : k < count := by simpa using inCells
    simp only [getElem_cells, Nat.zero_add, List.getElem_map, List.getElem_range]
    rw [← splitSlot_eq_mod offBound countBound kBound]
    unfold Circular.copyOut memcpy splitSlot
    by_cases beforeEnd : k < min count (n - off)
    · rw [if_neg (by omega), if_pos (by omega), if_pos beforeEnd]
      congr 1
    · rw [if_pos (by omega), if_neg beforeEnd]
      congr 1
      omega

theorem Holds.cells_copyOut {n off count start : ℕ} {memory : ℕ → α} {items : List α}
    (target : ℕ → α) (holds : Holds n memory start items) (offBound : off < n)
    (slot : off = start % n) (available : count ≤ items.length) (fits : items.length ≤ n) :
    cells (copyOut n memory target off count) 0 count = items.take count := by
  rw [Circular.cells_copyOut memory target offBound (by omega)]
  apply List.ext_getElem
  · simp [available]
  · intro k inRange _
    have kBound : k < count := by simpa using inRange
    simp only [List.getElem_map, List.getElem_range, List.getElem_take]
    rw [slot, Nat.mod_add_mod]
    exact holds k (by omega)

end Circular
