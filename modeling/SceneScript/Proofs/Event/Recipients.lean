import Mathlib.Data.List.Perm.Basic
import SceneScript.Event.Bus

/-! # The calls of an announcement

If handlers leave the bus alone, an announcement calls those that are subscribed: topic by topic,
in the order in which the topics came up, and for each topic in the order of the subscriptions.

* `EventBus.recipients` — whom an announcement calls;
* `Handling.publish_of_inert` — an announcement by handlers that leave the bus alone;
* `perm_flatMap_filter`, `flatMap_filter_eq_iff` — a list put together group by group has the same
  elements, and the same order only if it was in the order of the groups already.
-/

namespace SceneScript

/-! ## Groups of a list -/

section Groups

variable {α κ : Type} [DecidableEq κ] {keys : List κ} {key : α → κ} {xs : List α}

theorem filter_filter_key_ne {first : κ} (absent : first ∉ keys) :
    (keys.flatMap fun k => xs.filter (key · = k)) =
      keys.flatMap fun k => (xs.filter (key · ≠ first)).filter (key · = k) := by
  refine List.flatMap_congr fun k member => ?_
  rw [List.filter_filter]
  refine List.filter_congr fun x _ => ?_
  have other : k ≠ first := fun same => absent (same ▸ member)
  by_cases here : key x = k <;> simp [here, other]

theorem known_of_ne {first : κ} (known : ∀ x ∈ xs, key x ∈ first :: keys) :
    ∀ x ∈ xs.filter (key · ≠ first), key x ∈ keys := by
  intro x member
  obtain ⟨member, other⟩ := List.mem_filter.mp member
  exact (List.mem_cons.mp (known x member)).resolve_left (of_decide_eq_true other)

/-- Put together group by group, a list has the same elements. -/
theorem perm_flatMap_filter (distinct : keys.Nodup) (known : ∀ x ∈ xs, key x ∈ keys) :
    (keys.flatMap fun k => xs.filter (key · = k)).Perm xs := by
  induction keys generalizing xs with
  | nil =>
    cases xs with
    | nil => exact .refl _
    | cons x _ => exact absurd (known x List.mem_cons_self) List.not_mem_nil
  | cons first rest ih =>
    obtain ⟨absent, distinct⟩ := List.nodup_cons.mp distinct
    rw [List.flatMap_cons, filter_filter_key_ne absent]
    refine ((ih distinct (known_of_ne known)).append_left _).trans ?_
    simpa using List.filter_append_perm (fun x => decide (key x = first)) xs

theorem filter_append_of_pairwise {first : κ}
    (front : xs.Pairwise fun a b => key b = first → key a = first) :
    xs.filter (key · = first) ++ xs.filter (key · ≠ first) = xs := by
  induction xs with
  | nil => rfl
  | cons x rest ih =>
    obtain ⟨head, tail⟩ := List.pairwise_cons.mp front
    by_cases here : key x = first
    · simpa [here] using ih tail
    · -- behind an element of another group there is none of the first group
      have others : ∀ a ∈ rest, key a ≠ first := fun a member same => here (head a member same)
      have none : rest.filter (key · = first) = [] :=
        List.filter_eq_nil_iff.mpr fun a member => by simpa using others a member
      have all : rest.filter (key · ≠ first) = rest :=
        List.filter_eq_self.mpr fun a member => by simpa using others a member
      rw [List.filter_cons_of_neg (by simpa using here), none,
        List.filter_cons_of_pos (by simpa using here), all, List.nil_append]

/-- A list is in the order of its groups if no element of a later group stands before one of an
earlier group. -/
theorem flatMap_filter_eq_iff {rank : κ → Nat} (ranked : keys.Pairwise (rank · < rank ·))
    (known : ∀ x ∈ xs, key x ∈ keys) :
    (keys.flatMap fun k => xs.filter (key · = k)) = xs ↔
      xs.Pairwise fun a b => rank (key a) ≤ rank (key b) := by
  constructor
  · intro same
    have keyOf {k : κ} {a : α} (member : a ∈ xs.filter (key · = k)) : key a = k :=
      of_decide_eq_true (List.mem_filter.mp member).2
    rw [← same]
    refine List.pairwise_flatMap.mpr
      ⟨fun k _ => ?_, ranked.imp fun before a memberA b memberB => ?_⟩
    · refine List.pairwise_of_forall_mem_list fun a memberA b memberB => ?_
      exact Nat.le_of_eq (congrArg rank ((keyOf memberA).trans (keyOf memberB).symm))
    · rw [keyOf memberA, keyOf memberB]
      exact Nat.le_of_lt before
  · intro ordered
    induction keys generalizing xs with
    | nil => exact (perm_flatMap_filter .nil known).nil_eq
    | cons first rest ih =>
      obtain ⟨least, ranked⟩ := List.pairwise_cons.mp ranked
      have absent : first ∉ rest := fun member => Nat.lt_irrefl _ (least first member)
      have front : xs.Pairwise fun a b => key b = first → key a = first := by
        refine ordered.imp_of_mem fun memberA _ before here => ?_
        refine (List.mem_cons.mp (known _ memberA)).resolve_right fun later => ?_
        exact absurd (least _ later) (Nat.not_lt.mpr (here ▸ before))
      rw [List.flatMap_cons, filter_filter_key_ne absent,
        ih ranked (known_of_ne known) (ordered.filter _), filter_append_of_pairwise front]

end Groups

/-! ## Handlers that leave the bus alone -/

variable {η τ : Type} [DecidableEq η] [DecidableEq τ]

/-- The handlers that an announcement calls, in the order of the calls. -/
def EventBus.recipients [Topics τ] (bus : EventBus η τ) (subject : τ) : List η :=
  (bus.handlers.keys.filter (Topics.covers · subject)).flatMap bus.handlersOf

/-- The history after more calls that changed nothing else. -/
def BusHistory.noting (history : BusHistory η τ) (calls : List (HandlerCall η τ)) :
    BusHistory η τ :=
  { history with calls := history.calls ++ calls }

namespace Handling

/-- Handlers come to their end or fail, and do nothing to the bus. -/
def Inert (handling : Handling η τ) : Prop :=
  ∀ call history, ∀ action ∈ handling.actions call history, action = .fail

variable {handling : Handling η τ} (inert : handling.Inert) (publish : Nested η τ) (subject : τ)

include inert

theorem call_of_inert (call : HandlerCall η τ) (history : BusHistory η τ) :
    ∃ succeeded, handling.call publish call history =
      some (succeeded, history.noting [call]) := by
  have idle := inert call (history.noting [call])
  change ∃ succeeded, perform publish (handling.actions call (history.noting [call]))
    (history.noting [call]) = some (succeeded, history.noting [call])
  cases actions : handling.actions call (history.noting [call]) with
  | nil => exact ⟨true, rfl⟩
  | cons action rest =>
    rw [actions] at idle
    rw [idle action List.mem_cons_self]
    exact ⟨false, rfl⟩

theorem deliver_of_inert (handlers : List η) (delivered : Nat) (history : BusHistory η τ) :
    ∃ total, handling.deliver publish subject handlers delivered history =
      some (total, history.noting (handlers.map (⟨·, subject⟩))) := by
  induction handlers generalizing delivered history with
  | nil => exact ⟨delivered, by simp [deliver, BusHistory.noting]⟩
  | cons handler rest ih =>
    obtain ⟨succeeded, called⟩ := call_of_inert inert publish ⟨handler, subject⟩ history
    obtain ⟨total, done⟩ := ih (delivered + if succeeded then 1 else 0)
      (history.noting [⟨handler, subject⟩])
    refine ⟨total, ?_⟩
    rw [deliver, called]
    refine done.trans ?_
    simp [BusHistory.noting]

variable [Topics τ]

theorem visit_of_inert (topics : List τ) (delivered : Nat) (history : BusHistory η τ) :
    ∃ total, handling.visit publish subject topics delivered history =
      some (total, history.noting
        (((topics.filter (Topics.covers · subject)).flatMap history.bus.handlersOf).map
          (⟨·, subject⟩))) := by
  induction topics generalizing delivered history with
  | nil => exact ⟨delivered, by simp [visit, BusHistory.noting]⟩
  | cons topic rest ih =>
    rw [visit]
    cases covered : Topics.covers topic subject with
    | false =>
      rw [if_neg Bool.false_ne_true, List.filter_cons_of_neg (by simp [covered])]
      exact ih delivered history
    | true =>
      obtain ⟨between, done⟩ := deliver_of_inert inert publish subject
        (history.bus.handlersOf topic) delivered history
      obtain ⟨total, visited⟩ := ih between
        (history.noting ((history.bus.handlersOf topic).map (⟨·, subject⟩)))
      refine ⟨total, ?_⟩
      rw [if_pos rfl, done, List.filter_cons_of_pos (by simpa using covered)]
      refine visited.trans ?_
      simp [BusHistory.noting]

theorem publish_of_inert (depth : Nat) (history : BusHistory η τ) :
    ∃ total, handling.publish? (depth + 1) subject history =
      some (total, history.noting ((history.bus.recipients subject).map (⟨·, subject⟩))) :=
  visit_of_inert inert _ subject history.bus.handlers.keys 0 history

end Handling

end SceneScript
