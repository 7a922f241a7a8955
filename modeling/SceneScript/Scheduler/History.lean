import SceneScript.Scheduler.Clock

/-! # Histories of a scheduler

Requests may come at any moment, from outside and from work that runs. In between the event loop
takes its steps: a turn of the queue, or a timer that fires. Time passes only when no turn is left,
and never beyond a deadline.

* `Scheduler.Event` — a request that is made, or a run that starts;
* `Scheduler.Step`, `Scheduler.History` — one step with its events, and any number of them;
* `Scheduler.history_requestAll`, `Scheduler.history_resume` — what work requests when it is over is
  requested step by step;
* `Scheduler.history_runUntil`, `Scheduler.history_advance` — the event loop's steps and spans of
  time are histories, which report the runs that start.
-/

namespace SceneScript

/-- Whether the work of a run starts or ends with its next turn. -/
def Phase.movesWork : Phase → Bool
  | .due | .resuming _ => true
  | .created | .delayed _ | .working _ _ | .ended => false

namespace Scheduler

inductive Event (κ ω : Type) where
  | scheduled (id : RunId) (key : κ) (work : ω) (time delay : Time)
  | cancelled (key : κ)
  | allCancelled
  | started (id : RunId) (work : ω) (time : Time)
  deriving Repr, DecidableEq

variable {κ ω μ : Type} [DecidableEq κ]

/-- A request as it is recorded: a run that it schedules takes the next number. -/
def requestEvent (s : Scheduler κ ω μ) : Request κ ω → Event κ ω
  | .schedule key work delay =>
    .scheduled s.runs.length key work s.now (delay.getD s.defaultDelay)
  | .cancel key => .cancelled key
  | .cancelAll => .allCancelled

/-! ## Steps -/

inductive Step (rules : Rules κ ω μ) :
    Scheduler κ ω μ → List (Event κ ω) → Scheduler κ ω μ → Prop where
  | request (s : Scheduler κ ω μ) (request : Request κ ω) :
      Step rules s [s.requestEvent request] (s.request request)
  | send (s : Scheduler κ ω μ) (content : μ) : Step rules s [] (s.enqueue (.message content))
  /-- What the message requests is requested by steps of its own. -/
  | receive {s : Scheduler κ ω μ} {content : μ} {rest : List (Turn μ)}
      (next : s.queue = .message content :: rest) : Step rules s [] { s with queue := rest }
  | start {s : Scheduler κ ω μ} {id : RunId} {run : Run κ ω} {rest : List (Turn μ)}
      (next : s.queue = .run id :: rest) (found : s.run? id = some run) (due : run.phase = .due)
      (wanted : run.cancelled = false) :
      Step rules s [.started id run.work s.now] ({ s with queue := rest }.start rules id run).2
  /-- The work is over; its requests are steps of their own. -/
  | finish {s : Scheduler κ ω μ} {id : RunId} {run : Run κ ω} {rest : List (Turn μ)}
      (next : s.queue = .run id :: rest) (found : s.run? id = some run)
      {entry : Option RunId} (resuming : run.phase = .resuming entry)
      (wanted : run.cancelled = false) :
      Step rules s [] ({ s with queue := rest }.setPhase id .ended)
  /-- Any other turn of a run. -/
  | turn {s : Scheduler κ ω μ} {id : RunId} {rest : List (Turn μ)}
      (next : s.queue = .run id :: rest)
      (other : ∀ run, s.run? id = some run → run.cancelled = false →
        run.phase.movesWork = false) :
      Step rules s [] ({ s with queue := rest }.resume rules id).2
  /-- What a run that has ended took out of the waiting table no longer counts as running. -/
  | retire (s : Scheduler κ ω μ) (entry : Option RunId) : Step rules s [] (s.discard entry)
  /-- A timer that is due may fire while turns are left, but then no time passes. -/
  | timer {s t : Scheduler κ ω μ} (fires : s.Fires t)
      (idle : s.queue = [] ∨ t.now = s.now) : Step rules s [] t
  | wait {s : Scheduler κ ω μ} {limit : Time} (idle : s.queue = [])
      (quiet : s.fireTimer? (some limit) = none) :
      Step rules s [] { s with now := max s.now limit }

/-- Any number of steps, with their events. -/
inductive History (rules : Rules κ ω μ) (s : Scheduler κ ω μ) :
    List (Event κ ω) → Scheduler κ ω μ → Prop where
  | stay : History rules s [] s
  | step {events more : List (Event κ ω)} {t u : Scheduler κ ω μ}
      (history : History rules s events t) (step : Step rules t more u) :
      History rules s (events ++ more) u

namespace History

variable {rules : Rules κ ω μ} {s t u : Scheduler κ ω μ} {events more : List (Event κ ω)}

theorem single (step : Step rules s events t) : History rules s events t := .step .stay step

theorem append (first : History rules s events t) (second : History rules t more u) :
    History rules s (events ++ more) u := by
  induction second with
  | stay => simpa using first
  | step _ step ih => simpa using ih.step step

theorem ofEq (history : History rules s events t) (same : events = more) :
    History rules s more t := same ▸ history

end History

/-! ## Turns -/

variable (rules : Rules κ ω μ)

def requestEvents (s : Scheduler κ ω μ) : List (Request κ ω) → List (Event κ ω)
  | [] => []
  | request :: rest => s.requestEvent request :: (s.request request).requestEvents rest

theorem history_requestAll (s : Scheduler κ ω μ) (requests : List (Request κ ω)) :
    History rules s (s.requestEvents requests) (s.requestAll requests) := by
  induction requests generalizing s with
  | nil => exact .stay
  | cons request rest ih => exact (History.single (.request s request)).append (ih _)

/-- The start of a run as it is reported. -/
def Event.report? : Event κ ω → Option (Occurrence ω)
  | .started _ work time => some ⟨work, .started, time⟩
  | _ => none

def reports (events : List (Event κ ω)) : List (Occurrence ω) := events.filterMap Event.report?

def starts (occurrences : List (Occurrence ω)) : List (Occurrence ω) :=
  occurrences.filter (·.kind = .started)

omit [DecidableEq κ] in
theorem reports_append (events more : List (Event κ ω)) :
    reports (events ++ more) = reports events ++ reports more := List.filterMap_append ..

theorem reports_requestEvents (s : Scheduler κ ω μ) (requests : List (Request κ ω)) :
    reports (s.requestEvents requests) = [] := by
  induction requests generalizing s with
  | nil => rfl
  | cons request rest ih =>
    have silent : (s.requestEvent request).report? = none := by cases request <;> rfl
    rw [requestEvents, reports, List.filterMap_cons_none silent]
    exact ih _

theorem starts_start (s : Scheduler κ ω μ) (id : RunId) (run : Run κ ω) :
    starts (s.start rules id run).1 = [⟨run.work, .started, s.now⟩] := rfl

theorem starts_finish (s : Scheduler κ ω μ) (id : RunId) (run : Run κ ω) (entry : Option RunId) :
    starts (s.finish rules id run entry).1 = [] := by
  unfold finish
  cases fails : (rules.course run.work).fails <;> simp [starts, occurrence, fails]

theorem starts_resume_of_not_due {s : Scheduler κ ω μ} {id : RunId}
    (other : ∀ run, s.run? id = some run → run.cancelled = false → run.phase ≠ .due) :
    starts (s.resume rules id).1 = [] := by
  cases found : s.run? id with
  | none => simp [resume, found, starts]
  | some run =>
    have notDue := other run found
    simp only [resume, found]
    split
    · rfl
    · rfl
    · rfl
    · next due wanted => exact absurd due (notDue wanted)
    · rfl
    · exact starts_finish rules s id run _
    · rfl

/-- The turn of a run is a step, or where its work is over a step and its requests. If there are
none of these, nothing but its start is an event. -/
theorem history_resume {s : Scheduler κ ω μ} {id : RunId} {rest : List (Turn μ)}
    (next : s.queue = .run id :: rest) :
    ∃ events, History rules s events ({ s with queue := rest }.resume rules id).2 ∧
      reports events = starts ({ s with queue := rest }.resume rules id).1 ∧
      ((∀ work, (rules.course work).requests = []) →
        ∀ event ∈ events, ∃ work, event = .started id work s.now) := by
  -- Work starts, or it ends, or neither.
  by_cases due : ∃ run, s.run? id = some run ∧ run.phase = .due ∧ run.cancelled = false
  · obtain ⟨run, found, due, wanted⟩ := due
    have resumed : { s with queue := rest }.resume rules id =
        { s with queue := rest }.start rules id run := by
      have found : { s with queue := rest }.run? id = some run := found
      simp [resume, found, due, wanted]
    rw [resumed, starts_start]
    exact ⟨_, .single (.start next found due wanted), rfl, by simp⟩
  by_cases resuming : ∃ run entry, s.run? id = some run ∧ run.phase = .resuming entry ∧
      run.cancelled = false
  · obtain ⟨run, entry, found, resuming, wanted⟩ := resuming
    have resumed : { s with queue := rest }.resume rules id =
        { s with queue := rest }.finish rules id run entry := by
      have found : { s with queue := rest }.run? id = some run := found
      simp [resume, found, resuming, wanted]
    rw [resumed, starts_finish]
    have finished := (History.single (.finish next found resuming wanted)).append
      (history_requestAll rules _ (rules.course run.work).requests)
    refine ⟨_, finished.step (.retire _ entry), by simp [reports_requestEvents], fun silent => ?_⟩
    simp [silent, requestEvents]
  · refine ⟨[], .single (.turn next fun run found wanted => ?_), ?_, by simp⟩
    · cases phase : run.phase with
      | due => exact absurd ⟨run, found, phase, wanted⟩ due
      | resuming entry => exact absurd ⟨run, entry, found, phase, wanted⟩ resuming
      | created | delayed | working | ended => rfl
    · have silent := starts_resume_of_not_due rules (s := { s with queue := rest })
        fun run found wanted isDue => due ⟨run, found, isDue, wanted⟩
      exact silent.symm

variable {rules} in
theorem history_takeTurn? {s t : Scheduler κ ω μ} {occurrences : List (Occurrence ω)}
    (taken : s.takeTurn? rules = some (occurrences, t)) :
    ∃ events, History rules s events t ∧ reports events = starts occurrences := by
  unfold takeTurn? at taken
  split at taken
  · cases taken
  · next id rest next =>
    obtain ⟨events, history, reported, -⟩ := history_resume rules next
    simp only [Option.some.injEq] at taken
    rw [taken] at history reported
    exact ⟨events, history, reported⟩
  · next content rest next =>
    cases taken
    exact ⟨_, (History.single (.receive next)).append (history_requestAll rules _ _),
      reports_requestEvents _ _⟩

/-! ## The event loop -/

variable {rules}

theorem takeTurn?_eq_none {s : Scheduler κ ω μ} : s.takeTurn? rules = none ↔ s.queue = [] := by
  unfold takeTurn?
  split <;> simp_all

theorem step?_eq_none {s : Scheduler κ ω μ} {limit : Option Time} :
    s.step? rules limit = none ↔ s.queue = [] ∧ s.fireTimer? limit = none := by
  rw [← takeTurn?_eq_none, step?]
  cases taken : s.takeTurn? rules <;> simp

theorem history_step? {s t : Scheduler κ ω μ} {limit : Option Time}
    {occurrences : List (Occurrence ω)} (stepped : s.step? rules limit = some (occurrences, t)) :
    ∃ events, History rules s events t ∧ reports events = starts occurrences := by
  unfold step? at stepped
  cases taken : s.takeTurn? rules with
  | some next =>
    simp only [taken, Option.some.injEq] at stepped
    exact history_takeTurn? (stepped ▸ taken)
  | none =>
    simp only [taken, Option.map_eq_some_iff] at stepped
    obtain ⟨fired, fires, same⟩ := stepped
    cases same
    have idle := takeTurn?_eq_none.mp taken
    exact ⟨[], .single (.timer (fires_of_fireTimer? _ fires) (.inl idle)), rfl⟩

/-- However many steps the event loop takes, they make a history. -/
theorem history_runUntil (rules : Rules κ ω μ) (limit : Option Time)
    (stop : Scheduler κ ω μ → Bool) (fuel : Nat) (s : Scheduler κ ω μ) :
    ∃ events, History rules s events (s.runUntil rules limit stop fuel).2 ∧
      reports events = starts (s.runUntil rules limit stop fuel).1 := by
  induction fuel generalizing s with
  | zero => exact ⟨[], .stay, rfl⟩
  | succ fuel ih =>
    unfold runUntil
    split
    · exact ⟨[], .stay, rfl⟩
    · split
      · exact ⟨[], .stay, rfl⟩
      · next occurrences next stepped =>
        obtain ⟨events, first, reported⟩ := history_step? stepped
        obtain ⟨more, second, reportedLater⟩ := ih next
        refine ⟨events ++ more, first.append second, ?_⟩
        rw [reports_append, reported, reportedLater]
        exact (List.filter_append ..).symm

/-- A span of time that leaves no step behind is a history. -/
theorem history_advance {fuel : Nat} {span : Time} {s : Scheduler κ ω μ}
    (exhausted : (s.runUntil rules (some (s.now + span)) (fun _ => false) fuel).2.step? rules
      (some (s.now + span)) = none) :
    ∃ events, History rules s events (s.advance rules fuel span).2 ∧
      reports events = starts (s.advance rules fuel span).1 := by
  obtain ⟨events, history, reported⟩ :=
    history_runUntil rules (some (s.now + span)) (fun _ => false) fuel s
  generalize ended : s.runUntil rules (some (s.now + span)) (fun _ => false) fuel = last
    at exhausted history reported
  obtain ⟨idle, quiet⟩ := step?_eq_none.mp exhausted
  refine ⟨events ++ [], ?_, ?_⟩
  · simp only [advance, ended]
    exact history.step (.wait idle quiet)
  · simpa [advance, ended] using reported

end Scheduler

end SceneScript
