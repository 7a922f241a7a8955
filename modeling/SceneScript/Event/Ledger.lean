import SceneScript.Event.Bus

/-! # Subscriptions from the outside

Whoever subscribes a handler is given a cancellation for that subscription, which can be called any
number of times and long after other subscriptions were made.

* `BusChange` — subscribing, and calling a cancellation;
* `BusLedger` — a bus with the subscriptions that were made and the cancellations that were called;
* `BusLedger.run` — what a sequence of changes leads to;
* `BusLedger.standing` — the subscriptions whose own cancellations were never called;
* `BusLedger.due` — those of them that an announcement is for.
-/

namespace SceneScript

variable {η τ : Type} [DecidableEq η] [DecidableEq τ]

inductive BusChange (η : Type) (τ : Type := Topic) where
  | subscribe (topic : τ) (handler : η)
  /-- Calls the cancellation of the subscription with this number. -/
  | cancel (number : Nat)
  deriving Repr, DecidableEq

/-- A bus with all that was done to it. -/
structure BusLedger (η : Type) (τ : Type := Topic) where
  bus : EventBus η τ := {}
  /-- The number of a subscription is its place here. -/
  made : List (Subscription η τ) := []
  /-- The numbers of the subscriptions whose cancellations were called. -/
  cancelled : List Nat := []
  deriving Repr, DecidableEq

namespace BusLedger

/-- A cancellation knows the topic and the handler of its subscription. There is none for a number
that no subscription has. -/
def apply (ledger : BusLedger η τ) : BusChange η τ → BusLedger η τ
  | .subscribe topic handler =>
    { ledger with
      bus := ledger.bus.subscribe topic handler
      made := ledger.made ++ [⟨topic, handler⟩] }
  | .cancel number =>
    match ledger.made[number]? with
    | some subscription =>
      { ledger with
        bus := ledger.bus.unsubscribe subscription
        cancelled := ledger.cancelled ++ [number] }
    | none => ledger

def run (changes : List (BusChange η τ)) : BusLedger η τ := changes.foldl apply {}

def standing (ledger : BusLedger η τ) : List (Subscription η τ) :=
  (ledger.made.zipIdx.filter (·.2 ∉ ledger.cancelled)).map (·.1)

def due [Topics τ] (ledger : BusLedger η τ) (subject : τ) : List (Subscription η τ) :=
  ledger.standing.filter (Topics.covers ·.topic subject)

theorem run_concat (changes : List (BusChange η τ)) (change : BusChange η τ) :
    run (changes ++ [change]) = (run changes).apply change := by
  simp [run]

end BusLedger

end SceneScript
