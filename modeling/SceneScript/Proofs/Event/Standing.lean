import Mathlib.Data.List.Sigma
import SceneScript.Event.Ledger
import SceneScript.Expression
import SceneScript.Proofs.Event.Recipients

/-! # What cancellations leave on the bus

A cancellation takes the first equal subscription off the bus. As the bus cannot tell equal
subscriptions apart, that is as good as its own, until it is called again: then it ends one that
was never cancelled, if there is any.

* `BusLedger.Traced` — what is true of every ledger;
* `BusLedger.KeepsStanding` — the bus has the subscriptions that stand, and no others;
* `BusLedger.Misfires` — a cancellation is called again and finds an equal subscription;
* `BusLedger.keepsStanding_apply_iff` — what one change does to a bus with the right subscriptions;
* `BusLedger.cancellations_exact` — when the bus has the right subscriptions all the time.
-/

namespace SceneScript

variable {η τ : Type} [DecidableEq η] [DecidableEq τ]

/-! ## Counting on the bus -/

namespace EventBus

/-- How many times the handler is subscribed to the topic. -/
def countOf (bus : EventBus η τ) (subscription : Subscription η τ) : Nat :=
  (bus.handlersOf subscription.topic).count subscription.handler

theorem countOf_subscribe (bus : EventBus η τ) (made subscription : Subscription η τ) :
    (bus.subscribe made.topic made.handler).countOf subscription =
      bus.countOf subscription + if made = subscription then 1 else 0 := by
  rw [countOf, handlersOf_subscribe]
  by_cases here : made.topic = subscription.topic
  · simp [countOf, here, List.count_singleton, Subscription.ext_iff]
  · simp [countOf, here, Subscription.ext_iff]

theorem countOf_unsubscribe (bus : EventBus η τ) (ended subscription : Subscription η τ) :
    (bus.unsubscribe ended).countOf subscription =
      bus.countOf subscription - if ended = subscription then 1 else 0 := by
  rw [countOf, handlersOf_unsubscribe]
  by_cases here : ended.topic = subscription.topic
  · simp [countOf, here, List.count_erase, Subscription.ext_iff]
  · simp [countOf, here, Subscription.ext_iff]

theorem unsubscribe_of_countOf_eq_zero {bus : EventBus η τ} {subscription : Subscription η τ}
    (absent : bus.countOf subscription = 0) : bus.unsubscribe subscription = bus := by
  unfold unsubscribe
  split
  next handlers found =>
    have missing : subscription.handler ∉ handlers := by
      simpa [countOf, handlersOf, found, List.count_eq_zero] using absent
    rw [List.erase_of_not_mem missing, OrderedMap.insert_of_get? found]
  next => rfl

end EventBus

namespace BusLedger

variable {ledger : BusLedger η τ} {number : Nat} {subscription : Subscription η τ}

/-! ## The subscriptions that stand -/

omit [DecidableEq η] [DecidableEq τ] in
theorem mem_standing :
    subscription ∈ ledger.standing ↔
      ∃ number, ledger.made[number]? = some subscription ∧ number ∉ ledger.cancelled := by
  simp [standing, List.mem_zipIdx_iff_getElem?]

omit [DecidableEq η] [DecidableEq τ] in
theorem standing_sublist (ledger : BusLedger η τ) : ledger.standing.Sublist ledger.made := by
  have sublist := (List.filter_sublist (p := (·.2 ∉ ledger.cancelled))
    (l := ledger.made.zipIdx)).map Prod.fst
  rwa [List.zipIdx_map_fst] at sublist

theorem apply_cancel (found : ledger.made[number]? = some subscription) :
    ledger.apply (.cancel number) =
      { ledger with
        bus := ledger.bus.unsubscribe subscription
        cancelled := ledger.cancelled ++ [number] } := by
  simp [apply, found]

theorem apply_cancel_of_none (missing : ledger.made[number]? = none) :
    ledger.apply (.cancel number) = ledger := by
  simp [apply, missing]

theorem countOf_subscribe (ledger : BusLedger η τ) (topic : τ) (handler : η)
    (subscription : Subscription η τ) :
    (ledger.apply (.subscribe topic handler)).bus.countOf subscription =
      ledger.bus.countOf subscription + if ⟨topic, handler⟩ = subscription then 1 else 0 :=
  EventBus.countOf_subscribe ledger.bus ⟨topic, handler⟩ subscription

theorem countOf_cancel {ended : Subscription η τ} (found : ledger.made[number]? = some ended)
    (subscription : Subscription η τ) :
    (ledger.apply (.cancel number)).bus.countOf subscription =
      ledger.bus.countOf subscription - if ended = subscription then 1 else 0 := by
  rw [apply_cancel found, EventBus.countOf_unsubscribe]

/-- Only subscriptions that were made have been cancelled. -/
def Genuine (ledger : BusLedger η τ) : Prop :=
  ∀ number ∈ ledger.cancelled, number < ledger.made.length

theorem standing_subscribe (genuine : ledger.Genuine) (topic : τ) (handler : η) :
    (ledger.apply (.subscribe topic handler)).standing =
      ledger.standing ++ [⟨topic, handler⟩] := by
  have fresh : ledger.made.length ∉ ledger.cancelled :=
    fun cancelled => Nat.lt_irrefl _ (genuine _ cancelled)
  let made : List (Subscription η τ) := ledger.made ++ [⟨topic, handler⟩]
  change (made.zipIdx.filter (·.2 ∉ ledger.cancelled)).map (·.1) = _
  simp [standing, made, List.zipIdx_append, fresh]

theorem standing_cancel_again (found : ledger.made[number]? = some subscription)
    (again : number ∈ ledger.cancelled) :
    (ledger.apply (.cancel number)).standing = ledger.standing := by
  rw [apply_cancel found]
  refine congrArg (List.map Prod.fst) (List.filter_congr fun entry _ => ?_)
  by_cases same : entry.2 = number
  · simp [same, again]
  · simp [same]

theorem standing_cancel (found : ledger.made[number]? = some subscription)
    (first : number ∉ ledger.cancelled) :
    ∃ front back, ledger.standing = front ++ subscription :: back ∧
      (ledger.apply (.cancel number)).standing = front ++ back := by
  have member : (subscription, number) ∈ ledger.made.zipIdx :=
    List.mem_zipIdx_iff_getElem?.mpr found
  obtain ⟨front, back, split⟩ := List.append_of_mem member
  have distinct := List.nodup_zipIdx_map_snd ledger.made
  rw [split, List.map_append, List.map_cons, List.nodup_middle, ← List.map_append] at distinct
  have others : ∀ entry ∈ front ++ back, entry.2 ≠ number := by
    intro entry inRest same
    have again := List.mem_map_of_mem (f := Prod.snd) inRest
    exact (List.nodup_cons.mp distinct).1 (same ▸ again)
  have kept (rest : List (Subscription η τ × Nat)) (outside : ∀ entry ∈ rest, entry.2 ≠ number) :
      rest.filter (·.2 ∉ ledger.cancelled ++ [number]) =
        rest.filter (·.2 ∉ ledger.cancelled) :=
    List.filter_congr fun entry inRest => by simp [outside entry inRest]
  refine ⟨(front.filter (·.2 ∉ ledger.cancelled)).map Prod.fst,
    (back.filter (·.2 ∉ ledger.cancelled)).map Prod.fst, ?_, ?_⟩
  · simp [standing, split, first]
  · rw [apply_cancel found]
    simp only [standing, split]
    rw [List.filter_append, List.filter_cons_of_neg (by simp), List.map_append,
      kept front fun entry inFront => others entry (List.mem_append_left _ inFront),
      kept back fun entry inBack => others entry (List.mem_append_right _ inBack)]

theorem count_standing_cancel {ended : Subscription η τ}
    (found : ledger.made[number]? = some ended) (first : number ∉ ledger.cancelled)
    (subscription : Subscription η τ) :
    ledger.standing.count subscription =
      (ledger.apply (.cancel number)).standing.count subscription +
        if ended = subscription then 1 else 0 := by
  obtain ⟨front, back, before, after⟩ := standing_cancel found first
  rw [before, after, List.count_append, List.count_cons, List.count_append, Nat.add_assoc]
  simp only [beq_iff_eq]

/-! ## Every ledger -/

/-- The bus knows the topics that were ever subscribed to, and has no subscription that does not
stand. -/
structure Traced (ledger : BusLedger η τ) : Prop where
  genuine : ledger.Genuine
  keys : ledger.bus.handlers.keys = firstOccurrences (ledger.made.map (·.topic))
  countOf_le : ∀ subscription,
    ledger.bus.countOf subscription ≤ ledger.standing.count subscription

theorem Traced.subscribe (traced : ledger.Traced) (topic : τ) (handler : η) :
    (ledger.apply (.subscribe topic handler)).Traced := by
  refine ⟨fun number cancelled => ?_, ?_, fun subscription => ?_⟩
  · have made := traced.genuine number cancelled
    simp only [apply, List.length_append]
    exact Nat.lt_add_right _ made
  · simp only [apply, EventBus.keys_subscribe, traced.keys, mem_firstOccurrences, List.map_append,
      List.map_cons, List.map_nil, firstOccurrences_concat]
  · rw [standing_subscribe traced.genuine, List.count_append, List.count_singleton,
      countOf_subscribe]
    simpa using traced.countOf_le subscription

theorem Traced.cancel (traced : ledger.Traced) (number : Nat) :
    (ledger.apply (.cancel number)).Traced := by
  cases found : ledger.made[number]? with
  | none =>
    rw [apply_cancel_of_none found]
    exact traced
  | some ended =>
    refine ⟨?_, ?_, fun subscription => ?_⟩
    · obtain ⟨bound, -⟩ := List.getElem?_eq_some_iff.mp found
      rw [apply_cancel found]
      intro other cancelled
      rcases List.mem_append.mp cancelled with before | now
      · exact traced.genuine other before
      · exact List.mem_singleton.mp now ▸ bound
    · rw [apply_cancel found]
      exact (EventBus.keys_unsubscribe ledger.bus ended).trans traced.keys
    · have enough := traced.countOf_le subscription
      rw [countOf_cancel found]
      by_cases again : number ∈ ledger.cancelled
      · rw [standing_cancel_again found again]
        exact Nat.le_trans (Nat.sub_le _ _) enough
      · rw [count_standing_cancel found again] at enough
        exact Nat.sub_le_of_le_add enough

theorem traced_run (changes : List (BusChange η τ)) : (run changes).Traced := by
  refine List.foldlRecOn changes apply ?_ fun ledger traced change _ => ?_
  · exact ⟨List.forall_mem_nil _, rfl, fun _ => Nat.le_refl _⟩
  · cases change with
    | subscribe topic handler => exact traced.subscribe topic handler
    | cancel number => exact traced.cancel number

/-! ## The right subscriptions -/

/-- Each topic has the handlers of the subscriptions to it that stand, each as often as it
stands. -/
def KeepsStanding (ledger : BusLedger η τ) : Prop :=
  ∀ topic, (ledger.bus.handlersOf topic).Perm
    ((ledger.standing.filter (·.topic = topic)).map (·.handler))

/-- A cancellation is called again while an equal subscription stands. -/
def Misfires (ledger : BusLedger η τ) : BusChange η τ → Prop
  | .subscribe _ _ => False
  | .cancel number =>
    number ∈ ledger.cancelled ∧
      ∃ subscription ∈ ledger.made[number]?, subscription ∈ ledger.standing

instance (ledger : BusLedger η τ) : DecidablePred ledger.Misfires
  | .subscribe _ _ => inferInstanceAs (Decidable False)
  | .cancel number =>
    inferInstanceAs (Decidable (number ∈ ledger.cancelled ∧
      ∃ subscription ∈ ledger.made[number]?, subscription ∈ ledger.standing))

theorem count_handlers (subscriptions : List (Subscription η τ))
    (subscription : Subscription η τ) :
    ((subscriptions.filter (·.topic = subscription.topic)).map (·.handler)).count
        subscription.handler = subscriptions.count subscription := by
  rw [List.count, List.countP_map, List.countP_filter, List.count]
  refine List.countP_congr fun other _ => ?_
  simp [Subscription.ext_iff, and_comm]

theorem keepsStanding_iff_countOf :
    ledger.KeepsStanding ↔
      ∀ subscription, ledger.bus.countOf subscription = ledger.standing.count subscription := by
  constructor
  · intro keeps subscription
    rw [EventBus.countOf, (keeps subscription.topic).count_eq, count_handlers]
  · intro counts topic
    refine List.perm_iff_count.mpr fun handler => ?_
    exact (counts ⟨topic, handler⟩).trans (count_handlers ledger.standing ⟨topic, handler⟩).symm

theorem misfires_iff (keeps : ledger.KeepsStanding)
    (found : ledger.made[number]? = some subscription) (again : number ∈ ledger.cancelled) :
    ledger.Misfires (.cancel number) ↔ ledger.bus.countOf subscription ≠ 0 := by
  rw [keepsStanding_iff_countOf.mp keeps, ne_eq, List.count_eq_zero, not_not]
  simp [Misfires, found, again]

theorem bus_cancel_again_iff (keeps : ledger.KeepsStanding) (again : number ∈ ledger.cancelled) :
    (ledger.apply (.cancel number)).bus = ledger.bus ↔ ¬ ledger.Misfires (.cancel number) := by
  cases found : ledger.made[number]? with
  | none => simp [apply_cancel_of_none found, Misfires, found]
  | some ended =>
    rw [misfires_iff keeps found again, not_not]
    constructor
    · intro same
      have fewer := countOf_cancel found ended
      rw [if_pos rfl, same] at fewer
      omega
    · intro absent
      rw [apply_cancel found]
      exact EventBus.unsubscribe_of_countOf_eq_zero absent

/-- One change keeps the subscriptions on the bus right unless it is a cancellation that
misfires. -/
theorem keepsStanding_apply_iff (genuine : ledger.Genuine) (keeps : ledger.KeepsStanding)
    (change : BusChange η τ) :
    (ledger.apply change).KeepsStanding ↔ ¬ ledger.Misfires change := by
  have counts := keepsStanding_iff_countOf.mp keeps
  cases change with
  | subscribe topic handler =>
    refine iff_of_true (keepsStanding_iff_countOf.mpr fun subscription => ?_) id
    rw [standing_subscribe genuine, List.count_append, List.count_singleton, ← counts,
      countOf_subscribe]
    simp only [beq_iff_eq]
  | cancel number =>
    cases found : ledger.made[number]? with
    | none =>
      rw [apply_cancel_of_none found]
      exact iff_of_true keeps (by simp [Misfires, found])
    | some ended =>
      by_cases again : number ∈ ledger.cancelled
      · have stands := standing_cancel_again found again
        refine ⟨fun kept misfires => ?_, fun calm => ?_⟩
        · -- the bus has lost one, although as many stand as before
          have same := keepsStanding_iff_countOf.mp kept ended
          rw [stands, ← counts, countOf_cancel found, if_pos rfl] at same
          exact (misfires_iff keeps found again).mp misfires (by omega)
        · have idle := (bus_cancel_again_iff keeps again).mpr calm
          rw [KeepsStanding, stands, idle]
          exact keeps
      · refine iff_of_true (keepsStanding_iff_countOf.mpr fun subscription => ?_) fun misfires =>
          again misfires.1
        rw [countOf_cancel found, counts, count_standing_cancel found again, Nat.add_sub_cancel]

/-- All the time, the right subscriptions are on the bus, as long as no cancellation misfires. -/
theorem keepsStanding_iff (changes : List (BusChange η τ)) :
    (∀ n, (run (changes.take n)).KeepsStanding) ↔
      ∀ n change, changes[n]? = some change → ¬ (run (changes.take n)).Misfires change := by
  have next {n : Nat} {change : BusChange η τ} (here : changes[n]? = some change) :
      run (changes.take (n + 1)) = (run (changes.take n)).apply change := by
    rw [List.take_add_one, here, Option.toList_some, run_concat]
  constructor
  · intro keeps n change here
    have kept := keeps (n + 1)
    rw [next here] at kept
    exact (keepsStanding_apply_iff (traced_run _).genuine (keeps n) change).mp kept
  · intro never n
    induction n with
    | zero => exact fun _ => .refl _
    | succ n ih =>
      cases here : changes[n]? with
      | none =>
        rw [List.take_add_one, here, Option.toList_none, List.append_nil]
        exact ih
      | some change =>
        rw [next here]
        exact (keepsStanding_apply_iff (traced_run _).genuine ih change).mpr (never n change here)

/-! ## Announcements -/

section Announcements

variable [Topics τ]

omit [DecidableEq η] in
theorem filter_due {topic subject : τ} (covered : Topics.covers topic subject = true) :
    (ledger.due subject).filter (·.topic = topic) = ledger.standing.filter (·.topic = topic) := by
  rw [due, List.filter_filter]
  refine List.filter_congr fun subscription _ => ?_
  by_cases here : subscription.topic = topic <;> simp [here, covered]

omit [DecidableEq η] in
theorem filter_due_of_not_covered {topic subject : τ}
    (apart : ¬ Topics.covers topic subject = true) :
    (ledger.due subject).filter (·.topic = topic) = [] := by
  refine List.filter_eq_nil_iff.mpr fun subscription member here => apart ?_
  rw [← of_decide_eq_true here]
  exact (List.mem_filter.mp member).2

omit [DecidableEq η] in
theorem flatMap_due (ledger : BusLedger η τ) (topics : List τ) (subject : τ) :
    ((topics.filter (Topics.covers · subject)).flatMap fun topic =>
        (ledger.standing.filter (·.topic = topic)).map (·.handler)) =
      (topics.flatMap fun topic => (ledger.due subject).filter (·.topic = topic)).map
        (·.handler) := by
  induction topics with
  | nil => rfl
  | cons topic rest ih =>
    rw [List.flatMap_cons, List.map_append, ← ih]
    by_cases covered : Topics.covers topic subject = true
    · rw [List.filter_cons_of_pos (p := (Topics.covers · subject)) covered, List.flatMap_cons,
        filter_due covered]
    · rw [List.filter_cons_of_neg (p := (Topics.covers · subject)) covered,
        filter_due_of_not_covered covered]
      rfl

omit [DecidableEq η] in
theorem topic_mem_of_mem_due {subject : τ} (member : subscription ∈ ledger.due subject) :
    subscription.topic ∈ firstOccurrences (ledger.made.map (·.topic)) := by
  have stands : subscription ∈ ledger.standing := (List.mem_filter.mp member).1
  exact mem_firstOccurrences.mpr (List.mem_map_of_mem (ledger.standing_sublist.mem stands))

theorem perm_recipients (traced : ledger.Traced) (keeps : ledger.KeepsStanding) (subject : τ) :
    (ledger.bus.recipients subject).Perm ((ledger.due subject).map (·.handler)) := by
  refine (List.Perm.flatMap_left _ fun topic _ => keeps topic).trans ?_
  rw [flatMap_due, traced.keys]
  exact (perm_flatMap_filter (nodup_firstOccurrences _) fun _ => topic_mem_of_mem_due).map _

/-- The bus has the right subscriptions after every change if and only if no cancellation is called
again while an equal subscription stands, and it never has more than those. When it has them, the
subscribers of a topic are as many as stand, an announcement calls the handlers of those that it is
for, and a cancellation that was called already does nothing unless it misfires. -/
theorem cancellations_exact (changes : List (BusChange η τ)) :
    ((∀ n, (run (changes.take n)).KeepsStanding) ↔
      ∀ n change, changes[n]? = some change → ¬ (run (changes.take n)).Misfires change) ∧
    (∀ subscription,
      (run changes).bus.countOf subscription ≤ (run changes).standing.count subscription) ∧
    ((run changes).KeepsStanding →
      (∀ topic, (run changes).bus.subscriberCount topic =
        (run changes).standing.countP (·.topic = topic)) ∧
      (∀ number ∈ (run changes).cancelled,
        ((run changes).apply (.cancel number)).bus = (run changes).bus ↔
          ¬ (run changes).Misfires (.cancel number)) ∧
      ∀ handling : Handling η τ, handling.Inert →
        ∀ history : BusHistory η τ, history.bus = (run changes).bus → ∀ (depth : Nat) (subject : τ),
          ∃ (total : Nat) (called : List η), handling.publish? (depth + 1) subject history =
              some (total, history.noting (called.map (⟨·, subject⟩))) ∧
            called.Perm (((run changes).due subject).map (·.handler))) := by
  have traced := traced_run changes
  refine ⟨keepsStanding_iff changes, traced.countOf_le, fun keeps => ⟨fun topic => ?_, ?_, ?_⟩⟩
  · rw [EventBus.subscriberCount, (keeps topic).length_eq, List.length_map,
      List.countP_eq_length_filter]
  · exact fun number again => bus_cancel_again_iff keeps again
  · intro handling inert history same depth subject
    obtain ⟨total, published⟩ := Handling.publish_of_inert inert subject depth history
    refine ⟨total, history.bus.recipients subject, published, ?_⟩
    rw [same]
    exact perm_recipients traced keeps subject

/-- One handler is subscribed to two topics, and one of the cancellations is called twice. -/
theorem cancellations_exact_again :
    let changes : List (BusChange Nat) :=
      [.subscribe .assets 1, .subscribe .everything 1, .cancel 0, .cancel 0]
    (∀ n change, changes[n]? = some change → ¬ (run (changes.take n)).Misfires change) ∧
      (run changes).KeepsStanding ∧ (run changes).bus.subscriberCount .everything = 1 := by
  intro changes
  have never : ∀ n change, changes[n]? = some change →
      ¬ (run (changes.take n)).Misfires change := by
    intro n change here
    obtain ⟨bound, rfl⟩ := List.getElem?_eq_some_iff.mp here
    exact (by decide : ∀ n (bound : n < changes.length),
      ¬ (run (changes.take n)).Misfires changes[n]) n bound
  obtain ⟨always, -, right⟩ := cancellations_exact changes
  have keeps : (run changes).KeepsStanding := always.mpr never changes.length
  exact ⟨never, keeps, (right keeps).1 .everything⟩

/-- One handler is subscribed twice to the same topic, and the first cancellation is called
twice. -/
theorem not_forall_subscriberCount :
    ¬ ∀ (changes : List (BusChange Nat)) (topic : Topic),
      (run changes).bus.subscriberCount topic =
        (run changes).standing.countP (·.topic = topic) := by
  intro claimed
  have counted := claimed [.subscribe .assets 0, .subscribe .assets 0, .cancel 0, .cancel 0] .assets
  exact absurd counted (by decide)

end Announcements

end BusLedger

end SceneScript
