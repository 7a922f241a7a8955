import Mathlib.Data.List.Nodup
import SceneScript.Event.Bus

/-! # Subscriptions and their numbers

A register has the subscriptions of a bus in the order in which they were made. The bus cannot tell
equal ones apart; with their numbers one can say which of them was there all the time.

* `Register.Describes` — the register has what the bus has, and its numbers are all different;
* `Register.exists_describes` — every bus is described by some register;
* `Register.Continues` — a number that is used up never comes back;
* `BusHistory.LeadsTo` — what holds from one moment of a history to a later one.
-/

namespace SceneScript

variable {η τ : Type} [DecidableEq η] [DecidableEq τ]

namespace Register

/-! ## What a register says of a bus -/

structure Describes (register : Register η τ) (bus : EventBus η τ) : Prop where
  handlersOf : ∀ topic, bus.handlersOf topic = (register.on topic).map (·.handler)
  increasing : register.entries.Pairwise (·.number < ·.number)
  below : ∀ entry ∈ register.entries, entry.number < register.next

variable {register before between after : Register η τ} {bus : EventBus η τ}
  {subscription : Subscription η τ} {entry other : Entry η τ} {topic : τ}

omit [DecidableEq η] in
theorem mem_on : entry ∈ register.on topic ↔ entry ∈ register.entries ∧ entry.topic = topic := by
  simp [on]

omit [DecidableEq η] in
theorem Describes.number_unique (describes : register.Describes bus)
    (member : entry ∈ register.entries) (memberToo : other ∈ register.entries)
    (same : entry.number = other.number) : entry = other := by
  have distinct : (register.entries.map (·.number)).Nodup :=
    List.pairwise_map.mpr (describes.increasing.imp Nat.ne_of_lt)
  exact List.inj_on_of_nodup_map distinct member memberToo same

omit [DecidableEq η] in
theorem Describes.topic_mem_keys (describes : register.Describes bus)
    (member : entry ∈ register.entries) : entry.topic ∈ bus.handlers.keys := by
  have onBus : entry.handler ∈ bus.handlersOf entry.topic := by
    rw [describes.handlersOf]
    exact List.mem_map_of_mem (mem_on.mpr ⟨member, rfl⟩)
  exact EventBus.mem_keys_of_mem_handlersOf onBus

omit [DecidableEq η] in
theorem on_subscribe (register : Register η τ) (subscription : Subscription η τ) (topic : τ) :
    (register.subscribe subscription).on topic =
      if subscription.topic = topic then register.on topic ++ [⟨subscription, register.next⟩]
      else register.on topic := by
  by_cases here : subscription.topic = topic <;> simp [on, subscribe, here]

theorem handlers_unsubscribe (register : Register η τ) (subscription : Subscription η τ)
    (topic : τ) :
    ((register.unsubscribe subscription).on topic).map (·.handler) =
      if subscription.topic = topic then
        ((register.on topic).map (·.handler)).erase subscription.handler
      else (register.on topic).map (·.handler) := by
  obtain ⟨entries, next⟩ := register
  simp only [on, unsubscribe]
  induction entries with
  | nil => simp
  | cons entry rest ih =>
    by_cases same : entry.toSubscription = subscription
    · subst same
      by_cases here : entry.topic = topic <;> simp [here]
    · rw [List.eraseP_cons_of_neg (by simpa using same)]
      by_cases here : entry.topic = topic
      · subst here
        -- an entry of this topic that is not struck out has another handler
        have apart (topics : subscription.topic = entry.topic) :
            entry.handler ≠ subscription.handler :=
          fun handlers => same (Subscription.ext topics.symm handlers)
        simp only [List.filter_cons_of_pos, List.map_cons, ih, decide_true]
        split
        next topics => rw [List.erase_cons_tail (by simpa using apart topics)]
        next => rfl
      · simpa [here] using ih

omit [DecidableEq η] in
theorem Describes.subscribe (describes : register.Describes bus)
    (subscription : Subscription η τ) :
    (register.subscribe subscription).Describes
      (bus.subscribe subscription.topic subscription.handler) := by
  refine ⟨fun topic => ?_, ?_, ?_⟩
  · rw [EventBus.handlersOf_subscribe, on_subscribe, describes.handlersOf]
    split <;> simp
  · refine List.pairwise_append.mpr ⟨describes.increasing, List.pairwise_singleton _ _, ?_⟩
    intro entry member new isNew
    rw [List.mem_singleton.mp isNew]
    exact describes.below entry member
  · intro entry member
    rcases List.mem_append.mp member with old | new
    · exact Nat.lt_succ_of_lt (describes.below entry old)
    · rw [List.mem_singleton.mp new]
      exact Nat.lt_succ_self _

theorem Describes.unsubscribe (describes : register.Describes bus)
    (subscription : Subscription η τ) :
    (register.unsubscribe subscription).Describes (bus.unsubscribe subscription) := by
  refine ⟨fun topic => ?_, ?_, ?_⟩
  · rw [EventBus.handlersOf_unsubscribe, handlers_unsubscribe, describes.handlersOf]
  · exact describes.increasing.sublist List.eraseP_sublist
  · exact fun entry member => describes.below entry (List.mem_of_mem_eraseP member)

/-! ## Every bus has a register -/

/-- The subscriptions with their places as numbers. -/
def ofList (subscriptions : List (Subscription η τ)) : Register η τ :=
  ⟨subscriptions.mapIdx fun number subscription => ⟨subscription, number⟩, subscriptions.length⟩

omit [DecidableEq η] [DecidableEq τ] in
theorem entries_ofList (subscriptions : List (Subscription η τ)) :
    (ofList subscriptions).entries.map (·.toSubscription) = subscriptions := by
  refine List.ext_getElem (by simp [ofList]) fun number _ _ => ?_
  simp [ofList]

omit [DecidableEq η] in
theorem handlers_on (register : Register η τ) (topic : τ) :
    (register.on topic).map (·.handler) =
      ((register.entries.map (·.toSubscription)).filter (·.topic = topic)).map (·.handler) := by
  simp [on, List.filter_map, Function.comp_def]

omit [DecidableEq η] in
theorem flatMap_ite {α : Type} {topics : List τ} (distinct : topics.Nodup) (topic : τ)
    (found : List α) :
    (topics.flatMap fun other => if other = topic then found else []) =
      if topic ∈ topics then found else [] := by
  induction topics with
  | nil => rfl
  | cons first rest ih =>
    obtain ⟨absent, distinct⟩ := List.nodup_cons.mp distinct
    rw [List.flatMap_cons, ih distinct]
    by_cases here : first = topic
    · subst here
      simp [absent]
    · simp [here, Ne.symm here]

omit [DecidableEq η] in
theorem exists_describes (distinct : bus.handlers.keys.Nodup) :
    ∃ register : Register η τ, register.Describes bus := by
  let subscriptions := bus.handlers.keys.flatMap fun topic =>
    (bus.handlersOf topic).map fun handler => (⟨topic, handler⟩ : Subscription η τ)
  refine ⟨ofList subscriptions, fun topic => ?_, ?_, ?_⟩
  · have onTopic (other : τ) :
        (((bus.handlersOf other).map fun handler =>
          (⟨other, handler⟩ : Subscription η τ)).filter (·.topic = topic)).map (·.handler) =
          if other = topic then bus.handlersOf topic else [] := by
      by_cases here : other = topic
      · subst here
        simp [List.filter_map, Function.comp_def]
      · simp [List.filter_map, Function.comp_def, here]
    rw [handlers_on, entries_ofList, List.filter_flatMap, List.map_flatMap]
    simp only [onTopic]
    rw [flatMap_ite distinct]
    split
    next => rfl
    next absent =>
      rw [EventBus.handlersOf, OrderedMap.get?_eq_none_iff.mpr absent]
      rfl
  · rw [List.pairwise_iff_getElem]
    intro first second _ _ before
    simpa [ofList] using before
  · intro entry member
    obtain ⟨number, bound, rfl⟩ := List.mem_mapIdx.mp member
    exact bound

/-! ## From one moment to a later one -/

/-- No number that is used up has a new subscription. -/
structure Continues (before after : Register η τ) : Prop where
  next_le : before.next ≤ after.next
  old : ∀ entry ∈ after.entries, entry.number < before.next → entry ∈ before.entries

omit [DecidableEq η] [DecidableEq τ] in
theorem Continues.refl (register : Register η τ) : register.Continues register :=
  ⟨Nat.le_refl _, fun _ member _ => member⟩

omit [DecidableEq η] [DecidableEq τ] in
theorem Continues.trans (first : before.Continues between) (second : between.Continues after) :
    before.Continues after :=
  ⟨Nat.le_trans first.next_le second.next_le, fun entry member used =>
    first.old entry (second.old entry member (Nat.lt_of_lt_of_le used first.next_le)) used⟩

omit [DecidableEq η] [DecidableEq τ] in
theorem continues_subscribe (register : Register η τ) (subscription : Subscription η τ) :
    register.Continues (register.subscribe subscription) := by
  refine ⟨Nat.le_succ _, fun entry member used => ?_⟩
  rcases List.mem_append.mp member with old | new
  · exact old
  · rw [List.mem_singleton.mp new] at used
    exact absurd used (Nat.lt_irrefl _)

theorem continues_unsubscribe (register : Register η τ) (subscription : Subscription η τ) :
    register.Continues (register.unsubscribe subscription) :=
  ⟨Nat.le_refl _, fun _ member _ => List.mem_of_mem_eraseP member⟩

end Register

namespace BusHistory

variable {history before between after : BusHistory η τ}

/-- The register of the history has the subscriptions of its bus. -/
structure Numbered (history : BusHistory η τ) : Prop where
  distinct : history.bus.handlers.keys.Nodup
  describes : history.register.Describes history.bus

/-- Where subscriptions are numbered, they are so from one moment to the other, and no number is
used twice. -/
def LeadsTo (before after : BusHistory η τ) : Prop :=
  before.Numbered → after.Numbered ∧ before.register.Continues after.register

omit [DecidableEq η] in
theorem LeadsTo.refl (history : BusHistory η τ) : history.LeadsTo history :=
  fun numbered => ⟨numbered, .refl _⟩

omit [DecidableEq η] in
theorem LeadsTo.trans (first : before.LeadsTo between) (second : between.LeadsTo after) :
    before.LeadsTo after := by
  intro numbered
  obtain ⟨numberedBetween, continues⟩ := first numbered
  obtain ⟨numberedAfter, continuesToo⟩ := second numberedBetween
  exact ⟨numberedAfter, continues.trans continuesToo⟩

omit [DecidableEq η] in
theorem leadsTo_subscribe (history : BusHistory η τ) (topic : τ) (handler : η) (name : Text) :
    history.LeadsTo (history.subscribe topic handler name) := fun numbered =>
  ⟨⟨OrderedMap.nodup_keys_insert numbered.distinct _ _, numbered.describes.subscribe _⟩,
    Register.continues_subscribe _ _⟩

theorem leadsTo_unsubscribe {name : Text} (found : history.unsubscribe? name = some after) :
    history.LeadsTo after := by
  obtain ⟨subscription, -, rfl⟩ := Option.map_eq_some_iff.mp found
  intro numbered
  have distinct : (history.bus.unsubscribe subscription).handlers.keys.Nodup := by
    rw [EventBus.keys_unsubscribe]
    exact numbered.distinct
  exact ⟨⟨distinct, numbered.describes.unsubscribe _⟩, Register.continues_unsubscribe _ _⟩

end BusHistory

end SceneScript
