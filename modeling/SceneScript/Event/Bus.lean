import SceneScript.OrderedMap
import SceneScript.Text.Basic

/-! # Announcements

Handlers subscribe to topics; an announcement calls every handler of each topic that it falls
under. A handler may itself change the subscriptions, make further announcements, or fail.

* `Topics` — what announcements can be about, for any set of topics; `Topic` — the project's own;
* `EventBus.subscribe`, `EventBus.unsubscribe` — changes of the subscriptions;
* `Register` — the subscriptions on a bus, each told apart from all others;
* `BusHistory` — a bus with the calls made so far, where subscriptions are kept by name;
* `Handling` — what handlers do when they are called;
* `Handling.publish?` — a whole announcement, with everything that its handlers set off.

The handlers of a topic are looked up when the announcement reaches that topic, and a failure of
one handler keeps no other from being called.
-/

namespace SceneScript

/-- Topics of which some take in what others are about. -/
class Topics (τ : Type) where
  /-- Whether an announcement about `subject` falls under a topic. -/
  covers : (topic subject : τ) → Bool

inductive Topic where
  /-- Every announcement falls under this topic. -/
  | everything
  | index
  | assets
  deriving Repr, DecidableEq

instance : Topics Topic := ⟨fun topic subject => topic = .everything || topic = subject⟩

@[ext]
structure Subscription (η : Type) (τ : Type := Topic) where
  topic : τ
  handler : η
  deriving Repr, DecidableEq

/-- The handlers of each topic; the topics are in the order of their first subscriptions. -/
structure EventBus (η : Type) (τ : Type := Topic) where
  handlers : OrderedMap τ (List η) := ∅
  deriving Repr, DecidableEq

namespace EventBus

variable {η τ : Type} [DecidableEq η] [DecidableEq τ]

def handlersOf (bus : EventBus η τ) (topic : τ) : List η := (bus.handlers.get? topic).getD []

def subscriberCount (bus : EventBus η τ) (topic : τ) : Nat := (bus.handlersOf topic).length

def subscribe (bus : EventBus η τ) (topic : τ) (handler : η) : EventBus η τ :=
  ⟨bus.handlers.modifyD topic [] (· ++ [handler])⟩

/-- Takes the first such handler off its topic, if there is one. -/
def unsubscribe (bus : EventBus η τ) (subscription : Subscription η τ) : EventBus η τ :=
  match bus.handlers.get? subscription.topic with
  | some handlers => ⟨bus.handlers.insert subscription.topic (handlers.erase subscription.handler)⟩
  | none => bus

omit [DecidableEq η] in
theorem handlersOf_subscribe (bus : EventBus η τ) (topic other : τ) (handler : η) :
    (bus.subscribe topic handler).handlersOf other =
      if topic = other then bus.handlersOf other ++ [handler] else bus.handlersOf other := by
  simp only [handlersOf, subscribe, OrderedMap.modifyD, OrderedMap.get?_insert]
  split
  · subst other
    rfl
  · rfl

theorem handlersOf_unsubscribe (bus : EventBus η τ) (subscription : Subscription η τ) (topic : τ) :
    (bus.unsubscribe subscription).handlersOf topic =
      if subscription.topic = topic then (bus.handlersOf topic).erase subscription.handler
      else bus.handlersOf topic := by
  unfold unsubscribe
  split
  next handlers found =>
    simp only [handlersOf, OrderedMap.get?_insert]
    split
    · subst topic
      simp [found]
    · rfl
  next missing =>
    split
    · subst topic
      simp [handlersOf, missing]
    · rfl

omit [DecidableEq η] in
theorem keys_subscribe (bus : EventBus η τ) (topic : τ) (handler : η) :
    (bus.subscribe topic handler).handlers.keys =
      if topic ∈ bus.handlers.keys then bus.handlers.keys else bus.handlers.keys ++ [topic] :=
  OrderedMap.keys_insert _ _ _

theorem keys_unsubscribe (bus : EventBus η τ) (subscription : Subscription η τ) :
    (bus.unsubscribe subscription).handlers.keys = bus.handlers.keys := by
  unfold unsubscribe
  split
  next handlers found =>
    rw [OrderedMap.keys_insert, if_pos (OrderedMap.isSome_get?_iff.mp (by simp [found]))]
  next => rfl

omit [DecidableEq η] in
theorem mem_keys_of_mem_handlersOf {bus : EventBus η τ} {topic : τ} {handler : η}
    (member : handler ∈ bus.handlersOf topic) : topic ∈ bus.handlers.keys := by
  refine OrderedMap.isSome_get?_iff.mp ?_
  unfold handlersOf at member
  cases found : bus.handlers.get? topic with
  | none => simp [found] at member
  | some handlers => rfl

end EventBus

/-! ## Subscriptions told apart -/

/-- A subscription with a number that no other one has. -/
structure Entry (η : Type) (τ : Type := Topic) extends Subscription η τ where
  number : Nat
  deriving Repr, DecidableEq

/-- The subscriptions on a bus in the order in which they were made. Equal handlers that subscribe
to one topic are the same to the bus; the numbers tell them apart. -/
structure Register (η : Type) (τ : Type := Topic) where
  entries : List (Entry η τ) := []
  /-- The number of the next subscription. -/
  next : Nat := 0
  deriving Repr, DecidableEq

namespace Register

variable {η τ : Type} [DecidableEq η] [DecidableEq τ]

def on (register : Register η τ) (topic : τ) : List (Entry η τ) :=
  register.entries.filter (·.topic = topic)

def subscribe (register : Register η τ) (subscription : Subscription η τ) : Register η τ :=
  ⟨register.entries ++ [⟨subscription, register.next⟩], register.next + 1⟩

/-- Strikes out the first entry with this topic and handler, whatever its number is. -/
def unsubscribe (register : Register η τ) (subscription : Subscription η τ) : Register η τ :=
  { register with entries := register.entries.eraseP (·.toSubscription = subscription) }

end Register

/-! ## Handlers at work -/

inductive HandlerAction (η : Type) (τ : Type := Topic) where
  | subscribe (topic : τ) (handler : η) (name : Text)
  | unsubscribe (name : Text)
  | publish (subject : τ)
  | fail
  deriving Repr, DecidableEq

/-- A call of a handler with the subject of the announcement. -/
structure HandlerCall (η : Type) (τ : Type := Topic) where
  handler : η
  subject : τ
  deriving Repr, DecidableEq

/-- A bus and the calls made so far. -/
structure BusHistory (η : Type) (τ : Type := Topic) where
  bus : EventBus η τ := {}
  calls : List (HandlerCall η τ) := []
  /-- The latest subscription under each name, also after it has ended. -/
  kept : OrderedMap Text (Subscription η τ) := ∅
  /-- The subscriptions on the bus. Whom an announcement calls is not read from here. -/
  register : Register η τ := {}
  deriving Repr, DecidableEq

namespace BusHistory

variable {η τ : Type} [DecidableEq η] [DecidableEq τ]

def subscribe (history : BusHistory η τ) (topic : τ) (handler : η) (name : Text) :
    BusHistory η τ :=
  { history with
    bus := history.bus.subscribe topic handler
    kept := history.kept.insert name ⟨topic, handler⟩
    register := history.register.subscribe ⟨topic, handler⟩ }

/-- Ends the subscription that is kept under a name. -/
def unsubscribe? (history : BusHistory η τ) (name : Text) : Option (BusHistory η τ) :=
  (history.kept.get? name).map fun subscription =>
    { history with
      bus := history.bus.unsubscribe subscription
      register := history.register.unsubscribe subscription }

end BusHistory

/-- What a handler does when it is called, which may depend on all that happened before. -/
structure Handling (η : Type) (τ : Type := Topic) where
  actions : HandlerCall η τ → BusHistory η τ → List (HandlerAction η τ)

namespace Handling

variable {η τ : Type} [DecidableEq η] [DecidableEq τ] [Topics τ]

/-- Makes an announcement from within a handler. -/
abbrev Nested (η τ : Type) := τ → BusHistory η τ → Option (BusHistory η τ)

/-- Does the actions up to a failure, and says whether there was none. A name under which no
subscription is kept is a failure. -/
def perform (publish : Nested η τ) :
    List (HandlerAction η τ) → BusHistory η τ → Option (Bool × BusHistory η τ)
  | [], history => some (true, history)
  | .fail :: _, history => some (false, history)
  | .subscribe topic handler name :: rest, history =>
    perform publish rest (history.subscribe topic handler name)
  | .unsubscribe name :: rest, history =>
    match history.unsubscribe? name with
    | some history => perform publish rest history
    | none => some (false, history)
  | .publish subject :: rest, history => (publish subject history).bind (perform publish rest)

def call (handling : Handling η τ) (publish : Nested η τ) (call : HandlerCall η τ)
    (history : BusHistory η τ) : Option (Bool × BusHistory η τ) :=
  let history := { history with calls := history.calls ++ [call] }
  perform publish (handling.actions call history) history

/-- Calls the handlers in order and counts those that do not fail. -/
def deliver (handling : Handling η τ) (publish : Nested η τ) (subject : τ) :
    List η → Nat → BusHistory η τ → Option (Nat × BusHistory η τ)
  | [], delivered, history => some (delivered, history)
  | handler :: rest, delivered, history => do
    let (succeeded, history) ← handling.call publish ⟨handler, subject⟩ history
    handling.deliver publish subject rest (delivered + if succeeded then 1 else 0) history

/-- Visits the topics in order, each with the handlers that it has by then. -/
def visit (handling : Handling η τ) (publish : Nested η τ) (subject : τ) :
    List τ → Nat → BusHistory η τ → Option (Nat × BusHistory η τ)
  | [], delivered, history => some (delivered, history)
  | topic :: rest, delivered, history =>
    if Topics.covers topic subject then do
      let (delivered, history) ←
        handling.deliver publish subject (history.bus.handlersOf topic) delivered history
      handling.visit publish subject rest delivered history
    else handling.visit publish subject rest delivered history

/-- How many handlers got the announcement without failing, and what it set off; nothing if
announcements are nested more deeply than `depth`. -/
def publish? (handling : Handling η τ) :
    Nat → τ → BusHistory η τ → Option (Nat × BusHistory η τ)
  | 0, _, _ => none
  | depth + 1, subject, history =>
    handling.visit (fun inner history => (handling.publish? depth inner history).map (·.2)) subject
      history.bus.handlers.keys 0 history

end Handling

end SceneScript
