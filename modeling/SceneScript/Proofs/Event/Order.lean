import Mathlib.Data.List.Induction
import SceneScript.Proofs.Event.Standing

/-! # The order of the calls

The handlers of one topic are called in the order in which they subscribed. The topics come in the
order of the first subscriptions to them that were ever made, so a late subscription to an early
topic overtakes the earlier ones to the topics behind it.

* `BusLedger.KeepsOrder` — each topic has the handlers that stand, in the order of subscription;
* `BusLedger.keepsOrder_run` — so it is if no handler subscribes twice;
* `BusLedger.called_in_order_iff` — the calls of an announcement, and when they are in the order of
  subscription.
-/

namespace SceneScript

variable {η τ : Type} [DecidableEq η] [DecidableEq τ]

theorem eq_of_map_eq {α β : Type} {f : α → β} {xs ys : List α}
    (injective : ∀ x ∈ xs, ∀ y ∈ ys, f x = f y → x = y) (same : xs.map f = ys.map f) : xs = ys := by
  have sizes : xs.length = ys.length := by simpa using congrArg List.length same
  refine List.ext_getElem sizes fun n inXs inYs => ?_
  refine injective _ (List.getElem_mem inXs) _ (List.getElem_mem inYs) ?_
  have here := congrArg (·[n]?) same
  simpa [inXs, inYs] using here

namespace BusLedger

variable {ledger : BusLedger η τ} {number : Nat} {change : BusChange η τ}

/-! ## The order within a topic -/

/-- Each topic has the handlers of the subscriptions to it that stand, in the order in which these
were made. -/
def KeepsOrder (ledger : BusLedger η τ) : Prop :=
  ∀ topic, ledger.bus.handlersOf topic =
    (ledger.standing.filter (·.topic = topic)).map (·.handler)

omit [DecidableEq η] in
theorem KeepsOrder.keepsStanding (ordered : ledger.KeepsOrder) : ledger.KeepsStanding :=
  fun topic => .of_eq (ordered topic)

omit [DecidableEq η] [DecidableEq τ] in
theorem nodup_standing (once : (ledger.made.map (·.handler)).Nodup) :
    (ledger.standing.map (·.handler)).Nodup :=
  once.sublist (ledger.standing_sublist.map _)

omit [DecidableEq η] [DecidableEq τ] in
/-- Where no handler subscribes twice, no other subscription equals one that was cancelled. -/
theorem not_misfires (once : (ledger.made.map (·.handler)).Nodup) :
    ¬ ledger.Misfires change := by
  cases change with
  | subscribe topic handler => exact id
  | cancel number =>
    rintro ⟨again, subscription, found, stands⟩
    obtain ⟨other, foundToo, fresh⟩ := mem_standing.mp stands
    obtain ⟨bound, -⟩ := List.getElem?_eq_some_iff.mp found
    have same := (List.getElem?_inj bound (once.of_map _)).mp (found.trans foundToo.symm)
    exact fresh (same ▸ again)

theorem KeepsOrder.subscribe (ordered : ledger.KeepsOrder) (genuine : ledger.Genuine) (topic : τ)
    (handler : η) : (ledger.apply (.subscribe topic handler)).KeepsOrder := by
  intro other
  rw [standing_subscribe genuine, List.filter_append, List.map_append, ← ordered]
  refine (EventBus.handlersOf_subscribe ledger.bus topic other handler).trans ?_
  by_cases here : topic = other <;> simp [here]

theorem KeepsOrder.cancel (ordered : ledger.KeepsOrder)
    (once : (ledger.made.map (·.handler)).Nodup) (number : Nat) :
    (ledger.apply (.cancel number)).KeepsOrder := by
  cases found : ledger.made[number]? with
  | none =>
    rw [apply_cancel_of_none found]
    exact ordered
  | some ended =>
    by_cases again : number ∈ ledger.cancelled
    · have idle := (bus_cancel_again_iff ordered.keepsStanding again).mpr (not_misfires once)
      rw [KeepsOrder, standing_cancel_again found again, idle]
      exact ordered
    · obtain ⟨front, back, before, after⟩ := standing_cancel found again
      have distinct := nodup_standing once
      rw [before, List.map_append, List.map_cons, List.nodup_middle] at distinct
      intro topic
      have kept := ordered topic
      rw [before] at kept
      rw [after, apply_cancel found, EventBus.handlersOf_unsubscribe, kept]
      by_cases here : ended.topic = topic
      · -- the handler that goes is not among those in front of it
        have absent : ended.handler ∉ (front.filter (·.topic = topic)).map (·.handler) := by
          intro member
          have inFront := (List.filter_sublist.map _).mem member
          exact (List.nodup_cons.mp distinct).1 (List.mem_append_left _ inFront)
        rw [if_pos here, List.filter_append, List.filter_cons_of_pos (by simpa using here),
          List.map_append, List.map_cons, List.erase_append_right _ absent, List.erase_cons_head,
          List.filter_append, List.map_append]
      · rw [if_neg here, List.filter_append, List.filter_cons_of_neg (by simpa using here),
          List.filter_append]

theorem keepsOrder_run (changes : List (BusChange η τ))
    (once : ((run changes).made.map (·.handler)).Nodup) : (run changes).KeepsOrder := by
  induction changes using List.reverseRecOn with
  | nil => exact fun _ => rfl
  | append_singleton changes change ih =>
    rw [run_concat] at once ⊢
    cases change with
    | subscribe topic handler =>
      have before : ((run changes).made.map (·.handler)).Nodup :=
        once.sublist ((List.sublist_append_left _ _).map _)
      exact (ih before).subscribe (traced_run changes).genuine topic handler
    | cancel number =>
      have before : ((run changes).made.map (·.handler)).Nodup := by
        cases found : (run changes).made[number]? with
        | none => rwa [apply_cancel_of_none found] at once
        | some ended => rwa [apply_cancel found] at once
      exact (ih before).cancel before number

/-! ## The order of an announcement -/

section Announcements

variable [Topics τ]

theorem recipients_eq (traced : ledger.Traced) (ordered : ledger.KeepsOrder) (subject : τ) :
    ledger.bus.recipients subject =
      ((firstOccurrences (ledger.made.map (·.topic))).flatMap fun topic =>
        (ledger.due subject).filter (·.topic = topic)).map (·.handler) := by
  rw [EventBus.recipients, traced.keys, ← flatMap_due]
  exact List.flatMap_congr fun topic _ => ordered topic

omit [DecidableEq η] [DecidableEq τ] in
theorem handler_injective_of_mem_due (once : (ledger.made.map (·.handler)).Nodup) {subject : τ}
    {first second : Subscription η τ} (dueFirst : first ∈ ledger.due subject)
    (dueSecond : second ∈ ledger.due subject) (same : first.handler = second.handler) :
    first = second :=
  List.inj_on_of_nodup_map (nodup_standing once) (List.mem_filter.mp dueFirst).1
    (List.mem_filter.mp dueSecond).1 same

/-- If no handler subscribes twice, an announcement calls the handlers that stand and that it is
for, each once: topic by topic in the order in which the topics were first subscribed to. That is
the order of the subscriptions if and only if none of them is to a topic that was first subscribed
to before the topic of an earlier one. -/
theorem called_in_order_iff (changes : List (BusChange η τ))
    (once : ((run changes).made.map (·.handler)).Nodup) {handling : Handling η τ}
    (inert : handling.Inert) (history : BusHistory η τ) (same : history.bus = (run changes).bus)
    (depth : Nat) (subject : τ) :
    ∃ (total : Nat) (called : List η),
      handling.publish? (depth + 1) subject history =
        some (total, history.noting (called.map (⟨·, subject⟩))) ∧
      called.Perm (((run changes).due subject).map (·.handler)) ∧
      called = ((firstOccurrences ((run changes).made.map (·.topic))).flatMap fun topic =>
        ((run changes).due subject).filter (·.topic = topic)).map (·.handler) ∧
      (called = ((run changes).due subject).map (·.handler) ↔
        ((run changes).due subject).Pairwise fun earlier later =>
          ((run changes).made.map (·.topic)).idxOf earlier.topic ≤
            ((run changes).made.map (·.topic)).idxOf later.topic) := by
  have traced := traced_run changes
  have ordered := keepsOrder_run changes once
  have known : ∀ subscription ∈ (run changes).due subject,
      subscription.topic ∈ firstOccurrences ((run changes).made.map (·.topic)) :=
    fun _ => topic_mem_of_mem_due
  have perm := perm_flatMap_filter (nodup_firstOccurrences _) known
  obtain ⟨total, published⟩ := Handling.publish_of_inert inert subject depth history
  refine ⟨total, history.bus.recipients subject, published, ?_, ?_, ?_⟩
  · rw [same]
    exact perm_recipients traced ordered.keepsStanding subject
  · rw [same]
    exact recipients_eq traced ordered subject
  · rw [same, recipients_eq traced ordered,
      ← flatMap_filter_eq_iff (pairwise_idxOf_firstOccurrences _) known]
    refine ⟨fun handlers => ?_, congrArg _⟩
    refine eq_of_map_eq (fun first inFirst second inSecond => ?_) handlers
    exact handler_injective_of_mem_due once (perm.mem_iff.mp inFirst) inSecond

/-- The second of three subscriptions is cancelled, and the other two are in the order of their
topics. -/
theorem called_in_order_everything_first :
    let changes : List (BusChange Nat) :=
      [.subscribe .everything 0, .subscribe .everything 1, .subscribe .assets 2, .cancel 1]
    let handling : Handling Nat := ⟨fun _ _ => []⟩
    let history : BusHistory Nat := { bus := (run changes).bus }
    ((run changes).made.map (·.handler)).Nodup ∧ handling.Inert ∧
      ∃ total, handling.publish? 1 .assets history =
        some (total, history.noting [⟨0, .assets⟩, ⟨2, .assets⟩]) := by
  intro changes handling history
  have once : ((run changes).made.map (·.handler)).Nodup := by decide
  have inert : handling.Inert := fun _ _ => List.forall_mem_nil _
  obtain ⟨total, called, published, -, -, inOrder⟩ :=
    called_in_order_iff changes once inert history rfl 0 .assets
  refine ⟨once, inert, total, ?_⟩
  rw [published, inOrder.mpr (by decide)]
  rfl

/-- The handler of the third subscription is called before that of the second one. -/
theorem not_forall_called_in_order :
    ¬ ∀ (changes : List (BusChange Nat)) (handling : Handling Nat) (history : BusHistory Nat)
        (subject : Topic), ((run changes).made.map (·.handler)).Nodup → handling.Inert →
      history.bus = (run changes).bus → ∃ depth total,
        handling.publish? (depth + 1) subject history = some
          (total, history.noting (((run changes).due subject).map (⟨·.handler, subject⟩))) := by
  intro claimed
  let changes : List (BusChange Nat) :=
    [.subscribe .assets 0, .subscribe .everything 1, .subscribe .assets 2]
  let handling : Handling Nat := ⟨fun _ _ => []⟩
  let history : BusHistory Nat := { bus := (run changes).bus }
  have inert : handling.Inert := fun _ _ => List.forall_mem_nil _
  obtain ⟨depth, total, inOrder⟩ := claimed changes handling history .assets (by decide) inert rfl
  obtain ⟨_, published⟩ := Handling.publish_of_inert inert .assets depth history
  have histories := (Prod.mk.inj (Option.some.inj (published.symm.trans inOrder))).2
  exact absurd (congrArg BusHistory.calls histories) (by decide)

end Announcements

end BusLedger

end SceneScript
