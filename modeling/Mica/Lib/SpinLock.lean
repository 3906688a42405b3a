import Mathlib.Logic.Function.Basic

/-!
# Locks taken by test and set

Members of any number go through a section that a lock protects. `Held` is the
invariant of such a lock: at most one member is inside, and the lock is set while
one is. A member enters by finding the lock clear and setting it, and clears it when
it leaves; the invariant also survives a member that goes away without clearing the
lock, but not a reset while a member is inside.
-/

namespace SpinLock

universe u

variable {Member : Type} {Phase : Type u} {isInside : Phase → Bool} {phase : Member → Phase}
  {locked : Prop}

/-- At most one member is inside, and the lock is set while one is. -/
structure Held (isInside : Phase → Bool) (phase : Member → Phase) (locked : Prop) : Prop where
  unique : ∀ member other, isInside (phase member) = true → isInside (phase other) = true →
    member = other
  locked_of_inside : ∀ member, isInside (phase member) = true → locked

theorem held_of_empty (empty : ∀ member, isInside (phase member) = false) :
    Held isInside phase locked := by
  constructor
  · intro member other inside
    rw [empty member] at inside
    cases inside
  · intro member inside
    rw [empty member] at inside
    cases inside

theorem Held.empty_of_unlocked (held : Held isInside phase locked) (unlocked : ¬locked)
    (member : Member) : isInside (phase member) = false := by
  cases inside : isInside (phase member) with
  | true => exact absurd (held.locked_of_inside member inside) unlocked
  | false => rfl

theorem Held.mono {locked' : Prop} (held : Held isInside phase locked)
    (keeps : locked → locked') : Held isInside phase locked' :=
  ⟨held.unique, fun member inside => keeps (held.locked_of_inside member inside)⟩

variable [DecidableEq Member] {member : Member} {next : Phase}

theorem isInside_update {other : Member}
    (inside : isInside (Function.update phase member next other) = true) :
    other = member ∧ isInside next = true ∨ other ≠ member ∧ isInside (phase other) = true := by
  rcases eq_or_ne other member with rfl | differs
  · rw [Function.update_self] at inside
    exact Or.inl ⟨rfl, inside⟩
  · rw [Function.update_of_ne differs] at inside
    exact Or.inr ⟨differs, inside⟩

theorem Held.enter {locked' : Prop} (held : Held isInside phase locked) (unlocked : ¬locked)
    (sets : locked') : Held isInside (Function.update phase member next) locked' := by
  have empty := held.empty_of_unlocked unlocked
  have only : ∀ other, isInside (Function.update phase member next other) = true →
      other = member := by
    intro other inside
    rcases isInside_update inside with ⟨same, -⟩ | ⟨-, before⟩
    · exact same
    · rw [empty other] at before
      cases before
  constructor
  · intro first second insideFirst insideSecond
    rw [only first insideFirst, only second insideSecond]
  · exact fun _ _ => sets

theorem Held.move (held : Held isInside phase locked)
    (stays : isInside next = true → isInside (phase member) = true) :
    Held isInside (Function.update phase member next) locked := by
  have before : ∀ other, isInside (Function.update phase member next other) = true →
      isInside (phase other) = true := by
    intro other inside
    rcases isInside_update inside with ⟨rfl, now⟩ | ⟨-, before⟩
    · exact stays now
    · exact before
  constructor
  · intro first second insideFirst insideSecond
    exact held.unique first second (before first insideFirst) (before second insideSecond)
  · exact fun other inside => held.locked_of_inside other (before other inside)

theorem Held.leave_empty (held : Held isInside phase locked)
    (inside : isInside (phase member) = true) (out : isInside next = false) (other : Member) :
    isInside (Function.update phase member next other) = false := by
  cases still : isInside (Function.update phase member next other) with
  | false => rfl
  | true =>
      rcases isInside_update still with ⟨-, now⟩ | ⟨differs, before⟩
      · rw [out] at now
        cases now
      · exact absurd (held.unique other member before inside) differs

end SpinLock
