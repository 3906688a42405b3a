import Mathlib.Algebra.BigOperators.Pi
import Mathlib.Algebra.Order.BigOperators.Group.Finset
import Mathlib.Data.Fintype.BigOperators
import Mathlib.Data.List.Induction
import Mathlib.Logic.Relation

/-!
# Runs

A run of an event-driven system is a list of events, folded over a start state by a
total step function. A property that every step keeps under a condition holds in all states of a run whose
steps all meet the condition; where the condition is also necessary for a step, the
two are equivalent over whole runs.

Runs of a step relation are `Relation.ReflTransGen`. Some invariants only hold while a
resource that a run can only use up stays below a bound; `Transition.invariant_of_bounded`
lets a proof assume the bound after every single step although it is only known at the end.

A crew is a finite family of members, each in a state of its own. When one member changes
its state, the number of members in states of some kind changes by what that member was and
is; invariants that compare several counts along a run are linear arithmetic on top of this.
-/

universe u v

namespace Run

variable {State : Type u} {Event : Type v} {step : State → Event → State} {start : State}
  {events : List Event}

/-- In every state that the run reaches the property holds. -/
def AllStates (step : State → Event → State) (start : State) (property : State → Prop)
    (events : List Event) : Prop :=
  ∀ before, before <+: events → property (before.foldl step start)

/-- Every event of the run meets the condition in the state that it finds. -/
def AllSteps (step : State → Event → State) (start : State) (condition : State → Event → Prop)
    (events : List Event) : Prop :=
  ∀ before event, before ++ [event] <+: events → condition (before.foldl step start) event

variable {condition : State → Event → Prop} {invariant property : State → Prop}

theorem foldl_concat (before : List Event) (event : Event) :
    (before ++ [event]).foldl step start = step (before.foldl step start) event := by
  rw [List.foldl_append, List.foldl_cons, List.foldl_nil]

theorem AllSteps.mono {before : List Event} (steps : AllSteps step start condition events)
    (isPrefix : before <+: events) : AllSteps step start condition before := by
  intro first event firstPrefix
  exact steps first event (firstPrefix.trans isPrefix)

theorem allSteps_nil : AllSteps step start condition [] := by
  intro before event isPrefix
  have empty := List.prefix_nil.1 isPrefix
  simp at empty

theorem allSteps_cons {event : Event} :
    AllSteps step start condition (event :: events) ↔
      condition start event ∧ AllSteps step (step start event) condition events := by
  constructor
  · intro steps
    refine ⟨steps [] event (List.prefix_append _ _), ?_⟩
    intro before last isPrefix
    exact steps (event :: before) last (List.cons_prefix_cons.2 ⟨rfl, isPrefix⟩)
  · rintro ⟨first, later⟩ before last isPrefix
    cases before with
    | nil =>
        rcases (List.cons_prefix_cons.1 isPrefix).1 with rfl
        exact first
    | cons earlier before =>
        rcases List.cons_prefix_cons.1 isPrefix with ⟨rfl, rest⟩
        exact later before last rest

theorem allSteps_concat {last : Event} :
    AllSteps step start condition (events ++ [last]) ↔
      AllSteps step start condition events ∧ condition (events.foldl step start) last := by
  constructor
  · intro steps
    exact ⟨steps.mono (List.prefix_append _ _), steps events last (List.prefix_refl _)⟩
  · rintro ⟨earlier, meets⟩ before event isPrefix
    rcases List.prefix_concat_iff.1 isPrefix with whole | isPrefix
    · rcases List.append_inj' whole rfl with ⟨rfl, single⟩
      cases single
      exact meets
    · exact earlier before event isPrefix

instance decidableAllSteps [∀ state event, Decidable (condition state event)] :
    (events : List Event) → (start : State) → Decidable (AllSteps step start condition events)
  | [], _ => isTrue allSteps_nil
  | event :: events, start =>
      have := decidableAllSteps events (step start event)
      decidable_of_iff _ allSteps_cons.symm

theorem AllSteps.invariantAfter (steps : AllSteps step start condition events)
    (invariant : State → Prop) (initially : invariant start)
    (kept : ∀ state event, invariant state → condition state event →
      invariant (step state event)) :
    invariant (events.foldl step start) := by
  induction events using List.reverseRecOn with
  | nil => exact initially
  | append_singleton before event ih =>
      rw [foldl_concat]
      apply kept
      · exact ih (steps.mono (List.prefix_append _ _))
      · exact steps before event (List.prefix_refl _)

theorem invariant_foldl (initially : invariant start)
    (kept : ∀ state event, invariant state → invariant (step state event))
    (events : List Event) : invariant (events.foldl step start) := by
  have steps : AllSteps step start (fun _ _ => True) events := fun _ _ _ => trivial
  exact steps.invariantAfter invariant initially fun state event holds _ => kept state event holds

theorem AllSteps.allStates (steps : AllSteps step start condition events)
    (initially : invariant start)
    (kept : ∀ state event, invariant state → condition state event →
      invariant (step state event)) :
    AllStates step start invariant events := by
  intro before isPrefix
  exact (steps.mono isPrefix).invariantAfter invariant initially kept

theorem allStates_iff_allSteps (invariantInitially : invariant start)
    (invariantKept : ∀ state event, invariant state → invariant (step state event))
    (initially : property start)
    (decides : ∀ state event, invariant state → property state →
      (property (step state event) ↔ condition state event)) (events : List Event) :
    AllStates step start property events ↔ AllSteps step start condition events := by
  constructor
  · intro states before event isPrefix
    have reached := invariant_foldl invariantInitially invariantKept before
    have now := states before ((List.prefix_append _ _).trans isPrefix)
    have later := states (before ++ [event]) isPrefix
    rw [foldl_concat] at later
    exact (decides _ event reached now).1 later
  · intro steps before isPrefix
    have both : invariant (before.foldl step start) ∧ property (before.foldl step start) := by
      apply (steps.mono isPrefix).invariantAfter fun state => invariant state ∧ property state
      · exact ⟨invariantInitially, initially⟩
      rintro state event ⟨reached, now⟩ meets
      exact ⟨invariantKept state event reached, (decides state event reached now).2 meets⟩
    exact both.2

theorem allSteps_iff_allSteps {property : State → Event → Prop} (initially : invariant start)
    (kept : ∀ state event, invariant state → condition state event →
      invariant (step state event))
    (decides : ∀ state event, invariant state → (property state event ↔ condition state event))
    (events : List Event) :
    AllSteps step start property events ↔ AllSteps step start condition events := by
  induction events generalizing start with
  | nil => exact iff_of_true allSteps_nil allSteps_nil
  | cons event events ih =>
      rw [allSteps_cons, allSteps_cons, decides start event initially]
      apply and_congr_right
      intro meets
      exact ih (kept start event initially meets)

end Run

namespace Transition

variable {State : Type u} {step : State → State → Prop} {start finish : State}

theorem invariant_of_bounded {invariant : State → Prop} {used : State → ℕ} {bound : ℕ}
    (grows : ∀ before after, step before after → used before ≤ used after)
    (preserved : ∀ before after, invariant before → step before after → used after < bound →
      invariant after)
    (initially : invariant start) (run : Relation.ReflTransGen step start finish)
    (below : used finish < bound) : invariant finish := by
  induction run with
  | refl => exact initially
  | tail _ last ih =>
      apply preserved _ _ _ last below
      apply ih
      exact lt_of_le_of_lt (grows _ _ last) below

end Transition

namespace Crew

variable {Member : Type} [Fintype Member] {State : Type u}

/-- The number of members whose state is selected. -/
def headcount (select : State → Bool) (states : Member → State) : ℕ :=
  ∑ member, (select (states member)).toNat

theorem headcount_update [DecidableEq Member] (select : State → Bool) (states : Member → State)
    (member : Member) (next : State) :
    headcount select (Function.update states member next) + (select (states member)).toNat =
      headcount select states + (select next).toNat := by
  have updated : ∀ other, (select (Function.update states member next other)).toNat =
      Function.update (fun other => (select (states other)).toNat) member (select next).toNat
        other := by
    intro other
    rcases eq_or_ne other member with rfl | differs
    · simp
    · simp [differs]
  simp only [headcount, updated]
  rw [Finset.sum_update_of_mem (Finset.mem_univ member),
    ← Finset.add_sum_erase Finset.univ (fun other => (select (states other)).toNat)
      (Finset.mem_univ member), Finset.sdiff_singleton_eq_erase]
  omega

theorem headcount_eq_zero {select : State → Bool} {states : Member → State}
    (none : ∀ member, select (states member) = false) : headcount select states = 0 := by
  simp [headcount, none]

theorem headcount_pos_iff {select : State → Bool} {states : Member → State} :
    0 < headcount select states ↔ ∃ member, select (states member) = true := by
  have positive : ∀ selected : Bool, 0 < selected.toNat ↔ selected = true := by decide
  simp [headcount, Finset.sum_pos_iff, positive]

end Crew
