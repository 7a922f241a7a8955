import SceneScript.Proofs.Event.Register

/-! # Who is told of an announcement

An announcement goes from topic to topic and calls the subscriptions that a topic has by then, one
turn after another. Whatever the handlers change meanwhile, a subscription that is there from the
beginning to the end gets its turn, and none gets two.

* `Handling.TakesTurns`, `Handling.Rounds` — the turns of one topic, and those of an announcement;
* `Handling.rounds_of_visit` — an announcement is made of such turns;
* `Handling.leadsTo_publish` — what announcements do to the numbers of subscriptions;
* `Handling.Rounds.nodup`, `Handling.Rounds.mem_turns` — nobody is called twice or left out;
* `Handling.delivers_once` — all of this for one announcement.
-/

namespace SceneScript

variable {η τ : Type} [DecidableEq η] [DecidableEq τ]

namespace Handling

/-- One call of a subscription, and whether its handler came to its end without a failure. -/
structure Turn (η : Type) (τ : Type := Topic) where
  entry : Entry η τ
  succeeded : Bool

variable {handling : Handling η τ} {publish : Nested η τ} {subject : τ} {topics : List τ}
  {history between after : BusHistory η τ} {entries : List (Entry η τ)}
  {turns : List (Turn η τ)}

/-- Every turn is a call of its handler, which goes on where the one before it has ended. -/
inductive TakesTurns (handling : Handling η τ) (publish : Nested η τ) (subject : τ) :
    BusHistory η τ → List (Turn η τ) → BusHistory η τ → Prop where
  | done {history : BusHistory η τ} : TakesTurns handling publish subject history [] history
  | turn {history between after : BusHistory η τ} {turn : Turn η τ} {turns : List (Turn η τ)}
      (called : handling.call publish ⟨turn.entry.handler, subject⟩ history =
        some (turn.succeeded, between))
      (rest : TakesTurns handling publish subject between turns after) :
      TakesTurns handling publish subject history (turn :: turns) after

/-- When a topic is reached, the subscriptions that it has by then take their turns. -/
inductive Rounds (handling : Handling η τ) (publish : Nested η τ) (subject : τ) :
    List τ → BusHistory η τ → List (Turn η τ) → BusHistory η τ → Prop where
  | done {history : BusHistory η τ} : Rounds handling publish subject [] history [] history
  | round {topic : τ} {topics : List τ} {history between after : BusHistory η τ}
      {turns more : List (Turn η τ)}
      (present : turns.map (·.entry) = history.register.on topic)
      (taken : TakesTurns handling publish subject history turns between)
      (rest : Rounds handling publish subject topics between more after) :
      Rounds handling publish subject (topic :: topics) history (turns ++ more) after

/-! ## What handlers do to the numbers -/

section Actions

variable (nested : ∀ inner before after, publish inner before = some after → before.LeadsTo after)

include nested

theorem leadsTo_perform {actions : List (HandlerAction η τ)} {succeeded : Bool}
    (performed : perform publish actions history = some (succeeded, after)) :
    history.LeadsTo after := by
  induction actions generalizing history with
  | nil =>
    cases performed
    exact .refl _
  | cons action rest ih =>
    cases action with
    | fail =>
      cases performed
      exact .refl _
    | subscribe topic handler name =>
      exact (history.leadsTo_subscribe topic handler name).trans (ih performed)
    | unsubscribe name =>
      rw [perform] at performed
      split at performed
      next ended found => exact (BusHistory.leadsTo_unsubscribe found).trans (ih performed)
      next =>
        cases performed
        exact .refl _
    | publish inner =>
      obtain ⟨published, announced, performed⟩ := Option.bind_eq_some_iff.mp performed
      exact (nested inner history published announced).trans (ih performed)

theorem leadsTo_call {call : HandlerCall η τ} {succeeded : Bool}
    (called : handling.call publish call history = some (succeeded, after)) :
    history.LeadsTo after := by
  -- a note of the call changes nothing on the bus
  have noted : history.LeadsTo { history with calls := history.calls ++ [call] } :=
    fun numbered => ⟨⟨numbered.distinct, numbered.describes⟩, .refl _⟩
  exact noted.trans (leadsTo_perform nested called)

theorem TakesTurns.leadsTo (taken : TakesTurns handling publish subject history turns after) :
    history.LeadsTo after := by
  induction taken with
  | done => exact .refl _
  | turn called _ ih => exact (leadsTo_call nested called).trans ih

theorem Rounds.leadsTo (rounds : Rounds handling publish subject topics history turns after) :
    history.LeadsTo after := by
  induction rounds with
  | done => exact .refl _
  | round _ taken _ ih => exact (taken.leadsTo nested).trans ih

end Actions

/-! ## An announcement, turn by turn -/

theorem takesTurns_of_deliver {delivered total : Nat}
    (done : handling.deliver publish subject (entries.map (·.handler)) delivered history =
      some (total, after)) :
    ∃ turns, turns.map (·.entry) = entries ∧
      TakesTurns handling publish subject history turns after ∧
      total = delivered + turns.countP (·.succeeded) := by
  induction entries generalizing history delivered with
  | nil =>
    cases done
    exact ⟨[], rfl, .done, rfl⟩
  | cons entry rest ih =>
    obtain ⟨⟨succeeded, between⟩, called, done⟩ := Option.bind_eq_some_iff.mp done
    obtain ⟨turns, same, taken, counted⟩ := ih done
    refine ⟨⟨entry, succeeded⟩ :: turns, by simp [same], .turn called taken, ?_⟩
    rw [counted, List.countP_cons, Nat.add_assoc, Nat.add_comm (turns.countP _)]

variable [Topics τ]

theorem rounds_of_visit
    (nested : ∀ inner before after, publish inner before = some after → before.LeadsTo after)
    (numbered : history.Numbered) {delivered total : Nat}
    (visited : handling.visit publish subject topics delivered history = some (total, after)) :
    ∃ turns, Rounds handling publish subject (topics.filter (Topics.covers · subject)) history
        turns after ∧
      total = delivered + turns.countP (·.succeeded) := by
  induction topics generalizing history delivered with
  | nil =>
    cases visited
    exact ⟨[], .done, rfl⟩
  | cons topic rest ih =>
    rw [visit] at visited
    cases covered : Topics.covers topic subject with
    | false =>
      rw [covered, if_neg Bool.false_ne_true] at visited
      rw [List.filter_cons_of_neg (by simp [covered])]
      exact ih numbered visited
    | true =>
      rw [covered, if_pos rfl] at visited
      obtain ⟨⟨soFar, between⟩, done, visited⟩ := Option.bind_eq_some_iff.mp visited
      rw [numbered.describes.handlersOf] at done
      obtain ⟨turns, present, taken, counted⟩ := takesTurns_of_deliver done
      obtain ⟨more, rounds, countedToo⟩ := ih (taken.leadsTo nested numbered).1 visited
      refine ⟨turns ++ more, ?_, ?_⟩
      · rw [List.filter_cons_of_pos (by simpa using covered)]
        exact .round present taken rounds
      · rw [countedToo, counted, List.countP_append, Nat.add_assoc]

theorem leadsTo_publish (handling : Handling η τ) (depth : Nat) :
    ∀ inner before after, (handling.publish? depth inner before).map (·.2) = some after →
      before.LeadsTo after := by
  induction depth with
  | zero =>
    intro inner before after published
    cases published
  | succ depth ih =>
    intro inner before after published numbered
    obtain ⟨⟨total, _⟩, visited, rfl⟩ := Option.map_eq_some_iff.mp published
    obtain ⟨turns, rounds, -⟩ := rounds_of_visit ih numbered visited
    exact rounds.leadsTo ih numbered

/-! ## Who gets a turn -/

omit [Topics τ]

theorem Rounds.topic_mem (rounds : Rounds handling publish subject topics history turns after) :
    ∀ turn ∈ turns, turn.entry.topic ∈ topics := by
  induction rounds with
  | done => exact List.forall_mem_nil _
  | round present _ _ ih =>
    intro turn member
    rcases List.mem_append.mp member with here | later
    · have inEntries := List.mem_map_of_mem (f := (·.entry)) here
      rw [present, Register.mem_on] at inEntries
      exact inEntries.2 ▸ List.mem_cons_self
    · exact List.mem_cons_of_mem _ (ih turn later)

section Numbers

variable (nested : ∀ inner before after, publish inner before = some after → before.LeadsTo after)

include nested

/-- A subscription with a number from before was there before. -/
theorem Rounds.of_number_lt (rounds : Rounds handling publish subject topics history turns after)
    (numbered : history.Numbered) :
    ∀ turn ∈ turns, turn.entry.number < history.register.next →
      turn.entry ∈ history.register.entries := by
  induction rounds with
  | done => exact List.forall_mem_nil _
  | round present taken _ ih =>
    obtain ⟨numberedBetween, continues⟩ := taken.leadsTo nested numbered
    intro turn member used
    rcases List.mem_append.mp member with here | later
    · have inEntries := List.mem_map_of_mem (f := (·.entry)) here
      rw [present, Register.mem_on] at inEntries
      exact inEntries.1
    · have stillUsed := Nat.lt_of_lt_of_le used continues.next_le
      exact continues.old _ (ih numberedBetween turn later stillUsed) used

theorem Rounds.nodup (rounds : Rounds handling publish subject topics history turns after)
    (numbered : history.Numbered) (distinct : topics.Nodup) :
    (turns.map (·.entry.number)).Nodup := by
  induction rounds with
  | done => exact List.nodup_nil
  | @round topic topics history between after turns more present taken rest ih =>
    obtain ⟨numberedBetween, continues⟩ := taken.leadsTo nested numbered
    obtain ⟨absent, distinct⟩ := List.nodup_cons.mp distinct
    have numbers : turns.map (·.entry.number) = (history.register.on topic).map (·.number) := by
      rw [← present, List.map_map]
      rfl
    have here : (turns.map (·.entry.number)).Nodup := by
      rw [numbers]
      exact List.pairwise_map.mpr
        ((numbered.describes.increasing.sublist List.filter_sublist).imp Nat.ne_of_lt)
    rw [List.map_append, List.nodup_append]
    refine ⟨here, ih numberedBetween distinct, ?_⟩
    -- a number of this round that came again would belong to one subscription with two topics
    rintro number inTurns _ inMore rfl
    rw [numbers] at inTurns
    obtain ⟨entry, onTopic, rfl⟩ := List.mem_map.mp inTurns
    obtain ⟨turn, later, same⟩ := List.mem_map.mp inMore
    obtain ⟨member, topicIs⟩ := Register.mem_on.mp onTopic
    have used := numbered.describes.below entry member
    have before := (Rounds.round present taken rest).of_number_lt nested numbered turn
      (List.mem_append_right _ later) (same ▸ used)
    have equal := numbered.describes.number_unique before member same
    exact absurd (topicIs ▸ equal ▸ rest.topic_mem turn later) absent

/-- A subscription that is there before and after the rounds has had its turn. -/
theorem Rounds.mem_turns (rounds : Rounds handling publish subject topics history turns after)
    (numbered : history.Numbered) {entry : Entry η τ} (onTopic : entry.topic ∈ topics)
    (first : entry ∈ history.register.entries) (last : entry ∈ after.register.entries) :
    entry ∈ turns.map (·.entry) := by
  induction rounds with
  | done => cases onTopic
  | @round topic topics history between after turns more present taken rest ih =>
    obtain ⟨numberedBetween, continues⟩ := taken.leadsTo nested numbered
    obtain ⟨-, continuesToo⟩ := rest.leadsTo nested numberedBetween
    rw [List.map_append, List.mem_append]
    rcases List.mem_cons.mp onTopic with here | later
    · left
      rw [present]
      exact Register.mem_on.mpr ⟨first, here⟩
    · right
      have used := Nat.lt_of_lt_of_le (numbered.describes.below entry first) continues.next_le
      exact ih numberedBetween later (continuesToo.old entry last used) last

end Numbers

/-! ## One announcement -/

variable [Topics τ]

/-- Every bus can be numbered, and however it is, an announcement gives a turn to each subscription
that falls under it and is there all the time, whether other handlers fail or not; it gives no
subscription two turns and none to a subscription to another topic. The number that it answers
is that of its own turns without a failure. -/
theorem delivers_once {bus : EventBus η τ} (distinct : bus.handlers.keys.Nodup) :
    (∃ register : Register η τ, register.Describes bus) ∧
    ∀ history : BusHistory η τ, history.bus = bus → history.register.Describes bus →
      ∀ (handling : Handling η τ) (depth : Nat) (subject : τ) (delivered : Nat)
        (after : BusHistory η τ),
        handling.publish? (depth + 1) subject history = some (delivered, after) →
        (after.register.Describes after.bus ∧ history.register.Continues after.register) ∧
        ∃ turns : List (Turn η τ),
          Rounds handling
            (fun inner history => (handling.publish? depth inner history).map (·.2)) subject
            (bus.handlers.keys.filter (Topics.covers · subject)) history turns after ∧
          (∀ entry ∈ history.register.entries, Topics.covers entry.topic subject = true →
            entry ∈ after.register.entries → (turns.map (·.entry)).count entry = 1) ∧
          (turns.map (·.entry.number)).Nodup ∧
          (∀ turn ∈ turns, Topics.covers turn.entry.topic subject = true) ∧
          delivered = turns.countP (·.succeeded) := by
  refine ⟨Register.exists_describes distinct, ?_⟩
  rintro history rfl describes handling depth subject delivered after published
  have numbered : history.Numbered := ⟨distinct, describes⟩
  have nested := leadsTo_publish handling depth
  obtain ⟨turns, rounds, counted⟩ := rounds_of_visit nested numbered published
  have once := rounds.nodup nested numbered (distinct.filter _)
  obtain ⟨numberedAfter, continues⟩ := rounds.leadsTo nested numbered
  refine ⟨⟨numberedAfter.describes, continues⟩, turns, rounds, ?_, once, ?_, ?_⟩
  · intro entry first covered last
    have topic : entry.topic ∈ history.bus.handlers.keys.filter (Topics.covers · subject) :=
      List.mem_filter.mpr ⟨describes.topic_mem_keys first, covered⟩
    have turned := rounds.mem_turns nested numbered topic first last
    have apart : (turns.map (·.entry)).Nodup := by
      rw [← Function.comp_def Entry.number, ← List.map_map] at once
      exact once.of_map _
    exact List.count_eq_one_of_mem apart turned
  · exact fun turn member => (List.mem_filter.mp (rounds.topic_mem turn member)).2
  · rw [counted, Nat.zero_add]

/-- The first handler ends a subscription behind its own, makes a new one and an announcement of its
own, and then fails; a handler of that other announcement ends its own subscription. -/
theorem delivers_once_reentrant :
    let handling : Handling Nat := ⟨fun call _ =>
      match call.handler, call.subject with
      | 0, _ => [.unsubscribe "one", .subscribe .everything 4 "four", .publish .index, .fail]
      | 2, .index => [.unsubscribe "two"]
      | _, _ => []⟩
    let start : BusHistory Nat := ((((({} : BusHistory Nat).subscribe .assets 0 "zero").subscribe
      .assets 1 "one").subscribe .everything 2 "two").subscribe .everything 3 "three")
    ∃ after, (start.bus.handlers.keys.Nodup ∧ start.register.Describes start.bus ∧
        handling.publish? 2 .assets start = some (3, after)) ∧
      ∃ turns : List (Turn Nat), (turns.map (·.entry.number)).Nodup ∧
        (turns.map (·.entry)).count ⟨⟨.everything, 3⟩, 3⟩ = 1 ∧ turns.countP (·.succeeded) = 3 := by
  intro handling start
  let after := ((handling.publish? 2 .assets start).map (·.2)).getD start
  have empty : ({} : BusHistory Nat).Numbered :=
    ⟨List.nodup_nil, ⟨fun _ => rfl, .nil, List.forall_mem_nil _⟩⟩
  have numbered : start.Numbered :=
    ((((BusHistory.leadsTo_subscribe _ _ _ _).trans (BusHistory.leadsTo_subscribe _ _ _ _)).trans
      (BusHistory.leadsTo_subscribe _ _ _ _)).trans (BusHistory.leadsTo_subscribe _ _ _ _) empty).1
  have published : handling.publish? 2 .assets start = some (3, after) := by decide +kernel
  obtain ⟨-, turns, -, told, once, -, counted⟩ := (delivers_once numbered.distinct).2 start rfl
    numbered.describes handling 1 .assets 3 after published
  refine ⟨after, ⟨numbered.distinct, numbered.describes, published⟩, turns, once, ?_, counted.symm⟩
  exact told _ (by decide +kernel) rfl (by decide +kernel)

end Handling

end SceneScript
