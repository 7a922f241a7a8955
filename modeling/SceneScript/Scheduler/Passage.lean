import SceneScript.Scheduler.History

/-! # Passages of a scheduler

The steps of an event loop in which nobody cancels everything. A turn is one step together with what
is requested in it, and what happens is recorded with the run to which it happens.

* `Scheduler.Move`, `Scheduler.Passage` — one step with its records, and any number of them;
* `Scheduler.WaitsIdle` — what happens while somebody waits until no run is unfinished;
* `Scheduler.Rules.Sparing`, `Scheduler.passage_runUntil` — where no work and no message cancels
  everything, the event loop's steps are a passage;
* `Scheduler.Rules.withFailures` — the same rules, but other work fails.
-/

namespace SceneScript

namespace Scheduler

variable {κ ω μ : Type} [DecidableEq κ]

abbrev Record (ω : Type) := RunId × Occurrence ω

/-! ## Steps -/

inductive Move (rules : Rules κ ω μ) :
    Scheduler κ ω μ → List (Record ω) → Scheduler κ ω μ → Prop where
  | request {s : Scheduler κ ω μ} {request : Request κ ω} (spares : request ≠ .cancelAll) :
      Move rules s [] (s.request request)
  | send (s : Scheduler κ ω μ) (content : μ) : Move rules s [] (s.enqueue (.message content))
  | receive {s : Scheduler κ ω μ} {content : μ} {rest : List (Turn μ)}
      (next : s.queue = .message content :: rest)
      (spares : .cancelAll ∉ rules.answer content { s with queue := rest }) :
      Move rules s []
        (requestAll { s with queue := rest } (rules.answer content { s with queue := rest }))
  | turn {s : Scheduler κ ω μ} {id : RunId} {rest : List (Turn μ)}
      (next : s.queue = .run id :: rest)
      (spares : ∀ run entry, s.run? id = some run → run.phase = .resuming entry →
        .cancelAll ∉ (rules.course run.work).requests) :
      Move rules s (({ s with queue := rest }.resume rules id).1.map (id, ·))
        ({ s with queue := rest }.resume rules id).2
  /-- A timer that is due may fire while turns are left, but then no time passes. -/
  | timer {s t : Scheduler κ ω μ} (fires : s.Fires t)
      (idle : s.queue = [] ∨ t.now = s.now) : Move rules s [] t
  | wait {s : Scheduler κ ω μ} {limit : Time} (idle : s.queue = [])
      (quiet : s.fireTimer? (some limit) = none) :
      Move rules s [] { s with now := max s.now limit }

/-- Any number of steps, with their records. -/
inductive Passage (rules : Rules κ ω μ) (s : Scheduler κ ω μ) :
    List (Record ω) → Scheduler κ ω μ → Prop where
  | stay : Passage rules s [] s
  | move {log more : List (Record ω)} {t u : Scheduler κ ω μ}
      (passage : Passage rules s log t) (move : Move rules t more u) :
      Passage rules s (log ++ more) u

/-- Somebody waits until no run is unfinished: all runs that are so at one moment come to their
ends, and where others are unfinished then, the same begins once more. Meanwhile anything may
happen. -/
inductive WaitsIdle (rules : Rules κ ω μ) :
    Scheduler κ ω μ → List (Record ω) → Scheduler κ ω μ → Prop where
  | idle {s : Scheduler κ ω μ} (none : s.unfinished = []) : WaitsIdle rules s [] s
  | round {s t u : Scheduler κ ω μ} {log more : List (Record ω)} (some : s.unfinished ≠ [])
      (passage : Passage rules s log t) (ended : s.unfinished.all t.hasEnded = true)
      (later : WaitsIdle rules t more u) : WaitsIdle rules s (log ++ more) u

section

variable {rules : Rules κ ω μ} {s t u : Scheduler κ ω μ} {log more : List (Record ω)}

namespace Passage

theorem single (move : Move rules s log t) : Passage rules s log t := .move .stay move

theorem append (first : Passage rules s log t) (second : Passage rules t more u) :
    Passage rules s (log ++ more) u := by
  induction second with
  | stay => simpa using first
  | move _ move ih => simpa using ih.move move

theorem ofEq (passage : Passage rules s log t) (same : log = more) : Passage rules s more t :=
  same ▸ passage

end Passage

theorem WaitsIdle.passage (waits : WaitsIdle rules s log t) : Passage rules s log t := by
  induction waits with
  | idle none => exact .stay
  | round some passage ended later ih => exact passage.append ih

/-- A passage is a history, in which the requests of a turn are steps of their own. -/
theorem Move.history (move : Move rules s log t) : ∃ events, History rules s events t := by
  cases move with
  | request spares => exact ⟨_, .single (.request s _)⟩
  | send content => exact ⟨_, .single (.send s content)⟩
  | receive next spares =>
    exact ⟨_, (History.single (.receive next)).append (history_requestAll rules _ _)⟩
  | turn next spares =>
    obtain ⟨events, history, -⟩ := history_resume rules next
    exact ⟨events, history⟩
  | timer fires idle => exact ⟨_, .single (.timer fires idle)⟩
  | wait idle quiet => exact ⟨_, .single (.wait idle quiet)⟩

theorem Passage.history (passage : Passage rules s log t) : ∃ events, History rules s events t := by
  induction passage with
  | stay => exact ⟨[], .stay⟩
  | move _ move ih =>
    obtain ⟨events, first⟩ := ih
    obtain ⟨more, second⟩ := move.history
    exact ⟨events ++ more, first.append second⟩

end

/-! ## The event loop -/

/-- Neither work nor the answer to a message cancels everything. -/
structure Rules.Sparing (rules : Rules κ ω μ) : Prop where
  work : ∀ work, .cancelAll ∉ (rules.course work).requests
  answer : ∀ content s, .cancelAll ∉ rules.answer content s

section Sparing

variable {rules : Rules κ ω μ} (sparing : rules.Sparing) {s t : Scheduler κ ω μ}
  {occurrences : List (Occurrence ω)}

include sparing

theorem move_takeTurn? (taken : s.takeTurn? rules = some (occurrences, t)) :
    ∃ log, Move rules s log t ∧ log.map Prod.snd = occurrences := by
  unfold takeTurn? at taken
  split at taken
  · cases taken
  · next id rest next =>
    have moved : Move rules s _ _ := .turn next fun run _ _ _ => sparing.work run.work
    simp only [Option.some.injEq] at taken
    rw [taken] at moved
    exact ⟨_, moved, by simp [Function.comp_def]⟩
  · next content rest next =>
    cases taken
    exact ⟨[], .receive next (sparing.answer content _), rfl⟩

theorem move_step? {limit : Option Time}
    (stepped : s.step? rules limit = some (occurrences, t)) :
    ∃ log, Move rules s log t ∧ log.map Prod.snd = occurrences := by
  unfold step? at stepped
  cases taken : s.takeTurn? rules with
  | some next =>
    simp only [taken, Option.some.injEq] at stepped
    exact move_takeTurn? sparing (stepped ▸ taken)
  | none =>
    simp only [taken, Option.map_eq_some_iff] at stepped
    obtain ⟨fired, fires, same⟩ := stepped
    cases same
    exact ⟨[], .timer (fires_of_fireTimer? _ fires) (.inl (takeTurn?_eq_none.mp taken)), rfl⟩

/-- However many steps the event loop takes, they make a passage. -/
theorem passage_runUntil (limit : Option Time) (stop : Scheduler κ ω μ → Bool) (fuel : Nat)
    (s : Scheduler κ ω μ) :
    ∃ log, Passage rules s log (s.runUntil rules limit stop fuel).2 ∧
      log.map Prod.snd = (s.runUntil rules limit stop fuel).1 := by
  induction fuel generalizing s with
  | zero => exact ⟨[], .stay, rfl⟩
  | succ fuel ih =>
    unfold runUntil
    split
    · exact ⟨[], .stay, rfl⟩
    · split
      · exact ⟨[], .stay, rfl⟩
      · next occurrences next stepped =>
        obtain ⟨log, move, recorded⟩ := move_step? sparing stepped
        obtain ⟨more, later, recordedLater⟩ := ih next
        refine ⟨log ++ more, (Passage.single move).append later, ?_⟩
        rw [List.map_append, recorded, recordedLater]

end Sparing

/-! ## Other failures -/

/-- The same rules, but whether work fails is told by `fails`. -/
def Rules.withFailures (rules : Rules κ ω μ) (fails : ω → Bool) : Rules κ ω μ :=
  { rules with course := fun work => { rules.course work with fails := fails work } }

end Scheduler

/-- What an occurrence is under those rules: work that comes to an end fails, or does not. -/
def Occurrence.withFailures {ω : Type} (fails : ω → Bool) (occurrence : Occurrence ω) :
    Occurrence ω :=
  match occurrence.kind with
  | .failed | .done =>
    { occurrence with kind := if fails occurrence.work then .failed else .done }
  | _ => occurrence

def Scheduler.Record.withFailures {ω : Type} (fails : ω → Bool) (record : Record ω) : Record ω :=
  (record.1, record.2.withFailures fails)

end SceneScript
