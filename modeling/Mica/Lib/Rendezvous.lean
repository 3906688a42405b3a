import Mathlib.Data.List.Perm.Basic

/-!
# Rendezvous of items and subscribers

Items and subscribers arrive in any order. An item that some subscriber accepts
is delivered to the first of them; an item nobody accepts waits, and a new
subscriber takes the waiting items it accepts. The subscribers are numbered by
their arrival.

Both paths lead to the same assignment: after any run, the items have been
delivered to the first subscriber that accepts them, whether it came before or
after the item, and exactly the items no subscriber accepts are waiting.
-/

namespace Rendezvous

variable {Item Subscriber : Type*}

/-- The arrival number of the first subscriber that accepts the item. -/
def firstMatch (accepts : Subscriber → Item → Bool) (subscribers : List Subscriber)
    (item : Item) : Option ℕ :=
  subscribers.findIdx? fun subscriber => accepts subscriber item

structure Registry (Item Subscriber : Type*) where
  subscribers : List Subscriber
  waiting : List Item
  delivered : List (ℕ × Item)

inductive Event (Item Subscriber : Type*)
  | subscribe (subscriber : Subscriber)
  | announce (item : Item)

namespace Event

def item? : Event Item Subscriber → Option Item
  | subscribe _ => none
  | announce item => some item

def subscriber? : Event Item Subscriber → Option Subscriber
  | subscribe subscriber => some subscriber
  | announce _ => none

end Event

namespace Registry

/-- No subscriber has arrived and the given items are waiting. -/
def holding (items : List Item) : Registry Item Subscriber := ⟨[], items, []⟩

def subscribe (accepts : Subscriber → Item → Bool) (registry : Registry Item Subscriber)
    (subscriber : Subscriber) : Registry Item Subscriber where
  subscribers := registry.subscribers ++ [subscriber]
  waiting := registry.waiting.filter fun item => !accepts subscriber item
  delivered := registry.delivered ++
    (registry.waiting.filter (accepts subscriber)).map (registry.subscribers.length, ·)

def announce (accepts : Subscriber → Item → Bool) (registry : Registry Item Subscriber)
    (item : Item) : Registry Item Subscriber :=
  match firstMatch accepts registry.subscribers item with
  | some position => { registry with delivered := registry.delivered ++ [(position, item)] }
  | none => { registry with waiting := registry.waiting ++ [item] }

def step (accepts : Subscriber → Item → Bool) (registry : Registry Item Subscriber) :
    Event Item Subscriber → Registry Item Subscriber
  | .subscribe subscriber => registry.subscribe accepts subscriber
  | .announce item => registry.announce accepts item

def run (accepts : Subscriber → Item → Bool) (registry : Registry Item Subscriber)
    (events : List (Event Item Subscriber)) : Registry Item Subscriber :=
  events.foldl (step accepts) registry

end Registry

/-- The items with the subscriber each of them belongs to. -/
def assigned (accepts : Subscriber → Item → Bool) (subscribers : List Subscriber)
    (items : List Item) : List (ℕ × Item) :=
  items.filterMap fun item => (firstMatch accepts subscribers item).map (·, item)

/-- The items that belong to no subscriber. -/
def unmatched (accepts : Subscriber → Item → Bool) (subscribers : List Subscriber)
    (items : List Item) : List Item :=
  items.filter fun item => (firstMatch accepts subscribers item).isNone

variable (accepts : Subscriber → Item → Bool)

theorem firstMatch_append (subscribers : List Subscriber) (subscriber : Subscriber) (item : Item) :
    firstMatch accepts (subscribers ++ [subscriber]) item =
      (firstMatch accepts subscribers item).or
        (if accepts subscriber item then some subscribers.length else none) := by
  simp only [firstMatch, List.findIdx?_append, List.findIdx?_singleton]
  split <;> simp

theorem unmatched_append_subscriber (subscribers : List Subscriber) (subscriber : Subscriber)
    (items : List Item) :
    unmatched accepts (subscribers ++ [subscriber]) items =
      (unmatched accepts subscribers items).filter fun item => !accepts subscriber item := by
  simp only [unmatched, List.filter_filter]
  apply List.filter_congr
  intro item _
  rw [firstMatch_append]
  cases firstMatch accepts subscribers item <;> cases accepts subscriber item <;> rfl

theorem assigned_append_subscriber (subscribers : List Subscriber) (subscriber : Subscriber)
    (items : List Item) :
    (assigned accepts (subscribers ++ [subscriber]) items).Perm
      (assigned accepts subscribers items ++
        ((unmatched accepts subscribers items).filter (accepts subscriber)).map
          (subscribers.length, ·)) := by
  induction items with
  | nil => exact List.Perm.refl _
  | cons item rest ih =>
      have combined := firstMatch_append accepts subscribers subscriber item
      simp only [assigned, unmatched, List.filterMap_cons, List.filter_cons] at ih ⊢
      rw [combined]
      cases firstMatch accepts subscribers item with
      | some position => exact ih.cons _
      | none =>
          cases accepted : accepts subscriber item with
          | false => simpa [List.filter_cons, accepted] using ih
          | true =>
              simp only [Option.none_or, Option.map_some, Option.map_none, Option.isNone_none,
                if_true, List.filter_cons, accepted, List.map_cons]
              exact (ih.cons _).trans List.perm_middle.symm

/-- The registry has settled every item announced so far. -/
structure Settled (accepts : Subscriber → Item → Bool) (registry : Registry Item Subscriber)
    (items : List Item) : Prop where
  delivered : registry.delivered.Perm (assigned accepts registry.subscribers items)
  waiting : registry.waiting = unmatched accepts registry.subscribers items

theorem settled_holding (items : List Item) : Settled accepts (Registry.holding items) items := by
  refine ⟨?_, ?_⟩
  · simp [Registry.holding, assigned, firstMatch]
  · simp [Registry.holding, unmatched, firstMatch]

variable {accepts}

theorem Settled.subscribe {registry : Registry Item Subscriber} {items : List Item}
    (settled : Settled accepts registry items) (subscriber : Subscriber) :
    Settled accepts (registry.subscribe accepts subscriber) items := by
  refine ⟨?_, ?_⟩
  · simp only [Registry.subscribe, settled.waiting]
    exact (settled.delivered.append_right _).trans
      (assigned_append_subscriber accepts registry.subscribers subscriber items).symm
  · simp only [Registry.subscribe, settled.waiting]
    exact (unmatched_append_subscriber accepts registry.subscribers subscriber items).symm

theorem Settled.announce {registry : Registry Item Subscriber} {items : List Item}
    (settled : Settled accepts registry items) (item : Item) :
    Settled accepts (registry.announce accepts item) (items ++ [item]) := by
  simp only [Registry.announce]
  cases found : firstMatch accepts registry.subscribers item with
  | some position =>
      refine ⟨?_, ?_⟩
      · have step := settled.delivered.append_right [(position, item)]
        simpa [assigned, List.filterMap_append, found] using step
      · simpa [unmatched, List.filter_append, found] using settled.waiting
  | none =>
      refine ⟨?_, ?_⟩
      · simpa [assigned, List.filterMap_append, found] using settled.delivered
      · simpa [unmatched, List.filter_append, found] using settled.waiting

theorem Settled.run {registry : Registry Item Subscriber} {items : List Item}
    (settled : Settled accepts registry items) (events : List (Event Item Subscriber)) :
    Settled accepts (registry.run accepts events) (items ++ events.filterMap Event.item?) := by
  induction events generalizing registry items with
  | nil => simpa [Registry.run] using settled
  | cons event rest ih =>
      cases event with
      | subscribe subscriber => exact ih (settled.subscribe subscriber)
      | announce item =>
          have := ih (settled.announce item)
          simpa [Registry.run, Registry.step, Event.item?] using this

variable (accepts) in
theorem subscribers_announce (registry : Registry Item Subscriber) (item : Item) :
    (registry.announce accepts item).subscribers = registry.subscribers := by
  simp only [Registry.announce]
  split <;> rfl

variable (accepts) in
theorem subscribers_run (registry : Registry Item Subscriber)
    (events : List (Event Item Subscriber)) :
    (registry.run accepts events).subscribers =
      registry.subscribers ++ events.filterMap Event.subscriber? := by
  induction events generalizing registry with
  | nil => simp [Registry.run]
  | cons event rest ih =>
      cases event with
      | subscribe subscriber =>
          have step := ih (registry.subscribe accepts subscriber)
          simpa [Registry.run, Registry.step, Registry.subscribe, Event.subscriber?,
            List.filterMap_cons] using step
      | announce item =>
          have step := ih (registry.announce accepts item)
          simpa [Registry.run, Registry.step, subscribers_announce, Event.subscriber?,
            List.filterMap_cons] using step

variable (accepts) in
theorem run_holding (waiting : List Item) {events : List (Event Item Subscriber)}
    {subscribers : List Subscriber} {items : List Item}
    (inOrder : events.filterMap Event.subscriber? = subscribers)
    (inAnyOrder : (waiting ++ events.filterMap Event.item?).Perm items) :
    let final := (Registry.holding waiting).run accepts events
    final.subscribers = subscribers ∧ final.delivered.Perm (assigned accepts subscribers items) ∧
      final.waiting.Perm (unmatched accepts subscribers items) := by
  intro final
  have settled : Settled accepts final (waiting ++ events.filterMap Event.item?) :=
    (settled_holding accepts waiting).run events
  have arrived : final.subscribers = subscribers := by
    have := subscribers_run accepts (Registry.holding waiting) events
    rwa [inOrder] at this
  rcases settled with ⟨delivered, waitingEq⟩
  rw [arrived] at delivered waitingEq
  refine ⟨arrived, delivered.trans (inAnyOrder.filterMap _), ?_⟩
  rw [waitingEq]
  exact inAnyOrder.filter _

theorem isSome_firstMatch {subscribers : List Subscriber} {item : Item} :
    (firstMatch accepts subscribers item).isSome =
      subscribers.any fun subscriber => accepts subscriber item :=
  List.findIdx?_isSome

theorem map_snd_assigned (subscribers : List Subscriber) (items : List Item) :
    (assigned accepts subscribers items).map Prod.snd =
      items.filter fun item => subscribers.any fun subscriber => accepts subscriber item := by
  induction items with
  | nil => rfl
  | cons item rest ih =>
      rw [List.filter_cons, ← isSome_firstMatch, ← ih]
      cases first : firstMatch accepts subscribers item <;> simp [assigned, first]

theorem unmatched_eq_filter (subscribers : List Subscriber) (items : List Item) :
    unmatched accepts subscribers items =
      items.filter fun item => !subscribers.any fun subscriber => accepts subscriber item := by
  simp only [unmatched, ← isSome_firstMatch, Option.not_isSome]

end Rendezvous
