import SceneScript.Proofs.Scheduler.Waiting

/-! # Coalesced runs

From when it is scheduled, a run waits until its work starts or until another request supersedes it.
A run that starts takes whatever stands under its key out of the waiting table; the table being
exact, that is the run itself.

* `Scheduler.Event.isStart`, `Scheduler.Event.supersedes` — which events a run meets with;
* `Scheduler.Pending` — a run that waits, with the moment at which its work is to start;
* `Scheduler.Fate` — the invariant: since it was scheduled, a run has waited, or started on time, or
  was superseded;
* `Scheduler.HasPassed` — the event loop has done all that was due up to a moment;
* `Scheduler.coalesces` — what follows for every history.
-/

namespace SceneScript.Scheduler

variable {κ ω μ : Type} [DecidableEq κ]

/-! ## What a run meets with -/

namespace Event

/-- The start of this run. -/
def isStart (id : RunId) : Event κ ω → Bool
  | .started other _ _ => other = id
  | _ => false

/-- A request after which a run of this key no longer waits. -/
def supersedes (key : κ) : Event κ ω → Bool
  | .scheduled _ other .. | .cancelled other => other = key
  | .allCancelled => true
  | .started .. => false

end Event

/-! ## Requests and a run that waits -/

section Requests

variable {s : Scheduler κ ω μ} (registered : s.Registered) {id : RunId} {key : κ}
  (waits : s.IsWaiting id key)

include registered waits

theorem run?_cancel_of_ne {other : κ} (different : other ≠ key) :
    (s.cancel other).2.run? id = s.run? id := by
  cases entry : s.waiting.get? other with
  | none => rw [Registered.cancel_of_absent entry]
  | some found =>
    have apart : found ≠ id := by
      rintro rfl
      exact different (((registered.entry other found).mp entry).key_unique waits)
    rw [registered.cancel_of_waiting entry, run?_interrupt, if_neg apart]
    rfl

theorem run?_request_of_not_supersedes {request : Request κ ω}
    (apart : (s.requestEvent request).supersedes key = false) :
    (s.request request).run? id = s.run? id := by
  cases request with
  | schedule other work delay =>
    have different : other ≠ key := by simpa [requestEvent, Event.supersedes] using apart
    have kept := run?_cancel_of_ne registered waits different
    obtain ⟨run, found, -⟩ := waits
    rw [found] at kept
    have inside : id < (s.cancel other).2.runs.length := (List.getElem?_eq_some_iff.mp kept).1
    rw [request, schedule, run?_push, if_neg (Nat.ne_of_lt inside), kept, found]
  | cancel other =>
    exact run?_cancel_of_ne registered waits (by simpa [requestEvent, Event.supersedes] using apart)
  | cancelAll => simp [requestEvent, Event.supersedes] at apart

omit registered waits in
/-- The run that a request schedules takes the next number and waits for its first turn. -/
theorem run?_schedule (s : Scheduler κ ω μ) (key : κ) (work : ω) (delay : Option Time) :
    (s.schedule key work delay).run? s.runs.length =
      some { key, work, delay := delay.getD s.defaultDelay } := by
  have sameDelay := (extends_cancel s key).defaultDelay
  have sameLength := length_runs_cancel s key
  rw [schedule, run?_push, if_pos sameLength.symm, sameDelay]

theorem not_isWaiting_request {request : Request κ ω}
    (supersedes : (s.requestEvent request).supersedes key = true) :
    ¬ (s.request request).IsWaiting id key := by
  have after := registered.request request
  intro still
  cases request with
  | schedule other work delay =>
    have same : other = key := by simpa [requestEvent, Event.supersedes] using supersedes
    have newcomer : (s.schedule other work delay).IsWaiting s.runs.length key :=
      ⟨_, run?_schedule s other work delay, same, rfl⟩
    have isNew : id = s.runs.length := after.unique still newcomer
    obtain ⟨run, found, -⟩ := waits
    have inside : id < s.runs.length := (List.getElem?_eq_some_iff.mp found).1
    exact Nat.ne_of_lt inside isNew
  | cancel other =>
    have same : other = key := by simpa [requestEvent, Event.supersedes] using supersedes
    have entry := (after.entry key id).mpr still
    rw [Scheduler.request, waiting_cancel, if_pos same] at entry
    cases entry
  | cancelAll => exact registered.cancelAll.2 id key still

end Requests

/-! ## A run that is over for good -/

/-- The run has started or is cancelled. -/
def Over (s : Scheduler κ ω μ) (id : RunId) : Prop :=
  ∃ run, s.run? id = some run ∧ run.waits = false

section Steps

variable {rules : Rules κ ω μ} {s t : Scheduler κ ω μ} {events : List (Event κ ω)} {id : RunId}

omit [DecidableEq κ] in
theorem Over.keep (past : s.Over id) (keeps : Keeps s t) : t.Over id := by
  obtain ⟨run, found, gone⟩ := past
  obtain ⟨later, foundLater, continues⟩ := keeps id run found
  refine ⟨later, foundLater, ?_⟩
  cases again : later.waits with
  | false => rfl
  | true => exact absurd (continues.waits again) (by simp [gone])

omit [DecidableEq κ] in
/-- Where a run of this key waited and no longer does, it is over. -/
theorem over_of_not_isWaiting {key : κ} (waits : s.IsWaiting id key) (keeps : Keeps s t)
    (gone : ¬ t.IsWaiting id key) : t.Over id := by
  obtain ⟨run, found, same, -⟩ := waits
  obtain ⟨later, foundLater, continues⟩ := keeps id run found
  refine ⟨later, foundLater, ?_⟩
  cases still : later.waits with
  | false => rfl
  | true => exact absurd ⟨later, foundLater, continues.key.trans same, still⟩ gone

theorem Step.eq_nil_or_singleton (step : Step rules s events t) :
    events = [] ∨ ∃ event, events = [event] := by
  cases step with
  | request request => exact .inr ⟨_, rfl⟩
  | start => exact .inr ⟨_, rfl⟩
  | send | receive | finish | turn | retire | timer | wait => exact .inl rfl

/-- Work starts with the turn of a run that waits, which is over with it. -/
theorem Step.of_isStart (step : Step rules s events t) (registered : s.Registered)
    {event : Event κ ω} (member : event ∈ events) (starts : event.isStart id = true) :
    ∃ run, s.run? id = some run ∧ run.phase = .due ∧ run.cancelled = false ∧
      event = .started id run.work s.now ∧ t.Over id := by
  cases step with
  | request request =>
    cases List.mem_singleton.mp member
    cases request <;> simp [requestEvent, Event.isStart] at starts
  | @start other run rest next found due wanted =>
    cases List.mem_singleton.mp member
    have same : other = id := by simpa [Event.isStart] using starts
    subst same
    have shortened : Registered { s with queue := rest } := registered.ofSameRuns rfl rfl rfl
    obtain ⟨phase, turns, late, -, started⟩ :=
      shortened.start_eq rules found (Run.waits_of_due due wanted)
    refine ⟨run, found, due, wanted, rfl, { run with phase }, ?_, by simp [Run.waits, late]⟩
    have foundToo : { s with queue := rest }.run? other = some run := found
    rw [started]
    have changed := run?_setPhase { s with queue := rest } other other phase
    rw [if_pos rfl, foundToo] at changed
    exact changed
  | send | receive | finish | turn | retire | timer | wait => cases member

/-- What is over does not start again. -/
theorem Step.isStart_eq_false (step : Step rules s events t) (registered : s.Registered)
    (past : s.Over id) : ∀ event ∈ events, event.isStart id = false := by
  intro event member
  cases starts : event.isStart id with
  | false => rfl
  | true =>
    obtain ⟨run, found, due, wanted, -⟩ := step.of_isStart registered member starts
    obtain ⟨_, foundToo, gone⟩ := past
    cases found.symm.trans foundToo
    exact absurd (Run.waits_of_due due wanted) (by simp [gone])

end Steps

/-! ## A run that is still to start -/

/-- What a run waits for, if its work is to start at `due`: its turn or the clock. -/
def IsOnTime (s : Scheduler κ ω μ) (id : RunId) (run : Run κ ω) (due : Time) : Prop :=
  match run.phase with
  | .created => .run id ∈ s.queue ∧ s.now + run.delay = due
  | .delayed deadline => deadline = due
  | .due => .run id ∈ s.queue ∧ s.now ≤ due ∧ due < s.now + Time.instant
  | .working _ _ | .resuming _ | .ended => False

/-- The run waits, and its work is to start at `due`. -/
def Pending (s : Scheduler κ ω μ) (id : RunId) (key : κ) (work : ω) (due : Time) : Prop :=
  ∃ run, s.run? id = some run ∧ run.key = key ∧ run.work = work ∧ run.cancelled = false ∧
    s.IsOnTime id run due

section Pending

variable {rules : Rules κ ω μ} {s t : Scheduler κ ω μ} {id : RunId} {key : κ} {work : ω}
  {due : Time}

omit [DecidableEq κ] in
theorem IsOnTime.isEarly {run : Run κ ω} (onTime : s.IsOnTime id run due) :
    run.phase.isEarly = true := by
  unfold IsOnTime at onTime
  cases phase : run.phase <;> simp_all [Phase.isEarly]

omit [DecidableEq κ] in
theorem Pending.isWaiting (pending : s.Pending id key work due) : s.IsWaiting id key := by
  obtain ⟨run, found, sameKey, -, wanted, onTime⟩ := pending
  exact ⟨run, found, sameKey, by simp [Run.waits, onTime.isEarly, wanted]⟩

omit [DecidableEq κ] in
/-- Where the run, its turns and the time stay, it is still on time. -/
theorem Pending.keep (pending : s.Pending id key work due) (same : t.run? id = s.run? id)
    (now : t.now = s.now) (queue : .run id ∈ s.queue → .run id ∈ t.queue) :
    t.Pending id key work due := by
  obtain ⟨run, found, sameKey, sameWork, wanted, onTime⟩ := pending
  refine ⟨run, same.trans found, sameKey, sameWork, wanted, ?_⟩
  unfold IsOnTime at onTime ⊢
  cases phase : run.phase <;> rw [phase] at onTime
  case created => exact ⟨queue onTime.1, by rw [now]; exact onTime.2⟩
  case delayed => exact onTime
  case due => exact ⟨queue onTime.1, by rw [now]; exact onTime.2⟩
  all_goals exact onTime

omit [DecidableEq κ] in
/-- While no turn is left the run waits for the clock, whatever time it is. -/
theorem Pending.keep_idle (pending : s.Pending id key work due) (idle : s.queue = [])
    (same : t.run? id = s.run? id) : t.Pending id key work due := by
  obtain ⟨run, found, sameKey, sameWork, wanted, onTime⟩ := pending
  refine ⟨run, same.trans found, sameKey, sameWork, wanted, ?_⟩
  unfold IsOnTime at onTime ⊢
  cases phase : run.phase <;> rw [phase, idle] at onTime
  case delayed => exact onTime
  case created | due => cases onTime.1
  all_goals exact onTime

omit [DecidableEq κ] in
/-- Any other run may take its turn. -/
theorem Pending.other_turn {other : RunId} {rest : List (Turn μ)}
    (pending : s.Pending id key work due) (next : s.queue = .run other :: rest)
    (different : other ≠ id) (same : t.run? id = s.run? id) (now : t.now = s.now)
    (queue : rest <+: t.queue) : t.Pending id key work due := by
  apply pending.keep same now
  intro member
  rw [next] at member
  rcases List.mem_cons.mp member with first | later
  · cases first
    exact absurd rfl different
  · exact queue.subset later

theorem Pending.resume_other {other : RunId} {rest : List (Turn μ)}
    (pending : s.Pending id key work due) (next : s.queue = .run other :: rest)
    (different : other ≠ id)
    (idle : ∀ run, s.run? other = some run → run.cancelled = false →
      run.phase.movesWork = false) :
    ({ s with queue := rest }.resume rules other).2.Pending id key work due := by
  have untouched (phase : Phase) :
      ({ s with queue := rest }.setPhase other phase).run? id = s.run? id := by
    rw [run?_setPhase, if_neg different]
    rfl
  rcases resume_cases (s := { s with queue := rest }) rules idle with
    stays | ⟨run, running, -, -, ends⟩ | ⟨run, -, -, -, goesOn⟩
  · rw [stays]
    exact pending.other_turn next different rfl rfl List.prefix_rfl
  · rw [ends]
    exact pending.other_turn next different (untouched _) rfl List.prefix_rfl
  · rw [goesOn]
    split
    · exact pending.other_turn next different (untouched _) rfl (List.prefix_append ..)
    · exact pending.other_turn next different (untouched _) rfl List.prefix_rfl

/-- The first turn of a run, or one that comes too early. -/
theorem Pending.resume_self {rest : List (Turn μ)} (pending : s.Pending id key work due)
    (notDue : ∀ run, s.run? id = some run → run.cancelled = false → run.phase ≠ .due) :
    ({ s with queue := rest }.resume rules id).2.Pending id key work due := by
  obtain ⟨run, found, sameKey, sameWork, wanted, onTime⟩ := pending
  have foundToo : { s with queue := rest }.run? id = some run := found
  unfold IsOnTime at onTime
  cases phase : run.phase with
  | created =>
    simp only [phase] at onTime
    have moved (later : Phase) : ({ s with queue := rest }.setPhase id later).run? id =
        some { run with phase := later } := by
      rw [run?_setPhase, if_pos rfl, foundToo]
      rfl
    simp only [resume, foundToo, phase, wanted]
    split
    next instant =>
      refine ⟨_, moved .due, sameKey, sameWork, wanted, ?_⟩
      have now : s.now = due := by simpa [instant] using onTime.2
      have positive : 0 < Time.instant := by decide
      refine ⟨by simp [enqueue], Nat.le_of_eq now, ?_⟩
      exact now ▸ Nat.lt_add_of_pos_right positive
    next => exact ⟨_, moved _, sameKey, sameWork, wanted, onTime.2⟩
  | delayed deadline =>
    simp only [phase] at onTime
    simp only [resume, foundToo, phase, wanted]
    exact ⟨run, foundToo, sameKey, sameWork, wanted, by simpa [IsOnTime, phase] using onTime⟩
  | due => exact absurd phase (notDue run found wanted)
  | working | resuming | ended => simp [phase] at onTime

omit [DecidableEq κ] in
/-- When the timer of the run fires, its deadline is less than an instant away. -/
theorem Pending.fires (pending : s.Pending id key work due) (upcoming : s.Upcoming)
    (fires : s.Fires t) (idle : s.queue = [] ∨ t.now = s.now) : t.Pending id key work due := by
  obtain ⟨other, timed, deadline, foundTimed, awaits, -, fired⟩ := fires
  by_cases same : other = id
  · -- A run that waits for the clock and is not at work waits for its delay.
    subst same
    obtain ⟨run, found, sameKey, sameWork, wanted, onTime⟩ := pending
    cases foundTimed.symm.trans found
    have early := onTime.isEarly
    have delayed : timed.phase = .delayed deadline := by
      cases phase : timed.phase <;> simp_all [Phase.deadline?, Phase.isEarly]
    have atDeadline : deadline = due := by simpa [IsOnTime, delayed] using onTime
    have notPast := upcoming other timed deadline found awaits
    have positive : 0 < Time.instant := by decide
    subst atDeadline
    rw [fired]
    refine ⟨{ timed with phase := .due }, ?_, sameKey, sameWork, wanted, ?_, ?_⟩
    · rw [run?_awaken, if_pos rfl]
      simp [run?] at found
      simp [run?, found, delayed, Phase.awakened]
    · exact mem_queue_awaken_of_delayed _ other found delayed
    · rw [now_awaken]
      dsimp only
      split
      next near => exact ⟨notPast, near⟩
      next => exact ⟨Nat.le_refl _, Nat.lt_add_of_pos_right positive⟩
  · have untouched : t.run? id = s.run? id := by
      rw [fired, run?_awaken, if_neg same]
      rfl
    rcases idle with idle | frozen
    · exact pending.keep_idle idle untouched
    · apply pending.keep untouched frozen
      rw [fired]
      exact fun member => (queue_prefix_awaken _ other).subset member

/-- One step leaves the run pending, or starts it on time, or supersedes it. -/
theorem Step.pending {events : List (Event κ ω)} (step : Step rules s events t)
    (registered : s.Registered) (pending : s.Pending id key work due) :
    (t.Pending id key work due ∧
      ∀ event ∈ events, event.isStart id = false ∧ event.supersedes key = false) ∨
    (∃ moment, events = [.started id work moment] ∧ moment ≤ due ∧ due < moment + Time.instant ∧
      t.Over id) ∨
    (∃ event, events = [event] ∧ event.isStart id = false ∧ event.supersedes key = true ∧
      t.Over id) := by
  have keeps := step.keeps registered
  have waits := pending.isWaiting
  -- A run that takes its turn in another phase is another run.
  have early {run : Run κ ω} (found : s.run? id = some run) : run.phase.isEarly = true := by
    obtain ⟨_, foundToo, -, waiting⟩ := waits
    cases found.symm.trans foundToo
    simp only [Run.waits, Bool.and_eq_true] at waiting
    exact waiting.1
  cases step with
  | request request =>
    have silent : (s.requestEvent request).isStart id = false := by cases request <;> rfl
    cases supersedes : (s.requestEvent request).supersedes key with
    | true =>
      have gone := not_isWaiting_request registered waits supersedes
      exact .inr (.inr ⟨_, rfl, silent, supersedes, over_of_not_isWaiting waits keeps gone⟩)
    | false =>
      have extended := extends_request s request
      have same := run?_request_of_not_supersedes registered waits supersedes
      refine .inl ⟨pending.keep same extended.now fun member => extended.queue.subset member, ?_⟩
      simp [silent, supersedes]
  | send content =>
    exact .inl ⟨pending.keep rfl rfl (List.mem_append_left _), by simp⟩
  | receive next =>
    refine .inl ⟨pending.keep rfl rfl fun member => ?_, by simp⟩
    simpa [next] using member
  | @start other run rest next found due wanted =>
    by_cases same : other = id
    · -- That the run is due means that its moment has come.
      subst same
      have started : Step rules s _ _ := .start next found due wanted
      have itself : (Event.started other run.work s.now : Event κ ω).isStart other = true := by
        simp [Event.isStart]
      obtain ⟨_, -, -, -, -, past⟩ :=
        started.of_isStart registered (List.mem_singleton_self _) itself
      obtain ⟨_, foundToo, -, sameWork, -, onTime⟩ := pending
      cases found.symm.trans foundToo
      simp only [IsOnTime, due] at onTime
      exact .inr (.inl ⟨s.now, by rw [sameWork], onTime.2.1, onTime.2.2, past⟩)
    · have shortened : Registered { s with queue := rest } := registered.ofSameRuns rfl rfl rfl
      obtain ⟨phase, turns, -, -, started⟩ :=
        shortened.start_eq rules found (Run.waits_of_due due wanted)
      refine .inl ⟨?_, by simp [Event.isStart, Event.supersedes, same]⟩
      rw [started]
      apply pending.other_turn next same
      · exact (run?_setPhase { s with queue := rest } other id phase).trans (if_neg same)
      · rfl
      · exact List.prefix_append ..
  | @finish other run rest next found entry resuming wanted =>
    have different : other ≠ id := by
      rintro rfl
      simpa [resuming, Phase.isEarly] using early found
    have untouched : ({ s with queue := rest }.setPhase other .ended).run? id = s.run? id := by
      rw [run?_setPhase, if_neg different]
      rfl
    exact .inl ⟨pending.other_turn next different untouched rfl List.prefix_rfl, by simp⟩
  | @turn other rest next idle =>
    by_cases same : other = id
    · subst same
      refine .inl ⟨pending.resume_self fun run found wanted due => ?_, by simp⟩
      simpa [due, Phase.movesWork] using idle run found wanted
    · exact .inl ⟨pending.resume_other next same idle, by simp⟩
  | retire entry => exact .inl ⟨pending.keep rfl rfl fun member => member, by simp⟩
  | timer fires idle =>
    exact .inl ⟨pending.fires registered.upcoming fires idle, by simp⟩
  | wait idle quiet => exact .inl ⟨pending.keep_idle idle rfl, by simp⟩

end Pending

/-! ## What becomes of a run -/

/-- What the events since a run was scheduled tell about it. -/
inductive Fate (id : RunId) (key : κ) (work : ω) (due : Time) :
    List (Event κ ω) → Scheduler κ ω μ → Prop where
  | pending {events : List (Event κ ω)} {s : Scheduler κ ω μ}
      (quiet : ∀ event ∈ events, event.isStart id = false ∧ event.supersedes key = false)
      (pending : s.Pending id key work due) : Fate id key work due events s
  | started {before later : List (Event κ ω)} {moment : Time} {s : Scheduler κ ω μ}
      (quiet : ∀ event ∈ before, event.isStart id = false ∧ event.supersedes key = false)
      (notLate : moment ≤ due) (notEarly : due < moment + Time.instant)
      (once : ∀ event ∈ later, event.isStart id = false) (past : s.Over id) :
      Fate id key work due (before ++ .started id work moment :: later) s
  | superseded {events : List (Event κ ω)} {s : Scheduler κ ω μ} {event : Event κ ω}
      (member : event ∈ events) (supersedes : event.supersedes key = true)
      (never : ∀ event ∈ events, event.isStart id = false) (past : s.Over id) :
      Fate id key work due events s

section Fate

variable {rules : Rules κ ω μ} {s t : Scheduler κ ω μ} {id : RunId} {key : κ} {work : ω}
  {time delay due : Time} {events more before after : List (Event κ ω)}

theorem Fate.step (fate : Fate id key work due events s) (step : Step rules s more t)
    (registered : s.Registered) : Fate id key work due (events ++ more) t := by
  have keeps := step.keeps registered
  cases fate with
  | pending quiet pending =>
    rcases step.pending registered pending with
      ⟨pending, stillQuiet⟩ | ⟨moment, rfl, notLate, notEarly, past⟩ |
      ⟨event, rfl, silent, supersedes, past⟩
    · exact .pending (List.forall_mem_append.mpr ⟨quiet, stillQuiet⟩) pending
    · exact .started quiet notLate notEarly (by simp) past
    · refine .superseded (List.mem_append_right _ (List.mem_singleton_self _)) supersedes ?_ past
      have neverBefore : ∀ event ∈ events, event.isStart id = false := fun event member =>
        (quiet event member).1
      exact List.forall_mem_append.mpr ⟨neverBefore, by simpa using silent⟩
  | started quiet notLate notEarly once past =>
    rw [List.append_assoc, List.cons_append]
    have never := step.isStart_eq_false registered past
    exact .started quiet notLate notEarly (List.forall_mem_append.mpr ⟨once, never⟩)
      (past.keep keeps)
  | superseded member supersedes neverBefore past =>
    have never := step.isStart_eq_false registered past
    exact .superseded (List.mem_append_left _ member) supersedes
      (List.forall_mem_append.mpr ⟨neverBefore, never⟩) (past.keep keeps)

theorem History.over_of_isStart (history : History rules s events t) (registered : s.Registered)
    {event : Event κ ω} (member : event ∈ events) (starts : event.isStart id = true) :
    t.Over id := by
  induction history with
  | stay => cases member
  | step history step ih =>
    have registered := history.registered registered
    rcases List.mem_append.mp member with earlier | now
    · exact (ih earlier).keep (step.keeps registered)
    · obtain ⟨_, -, -, -, -, past⟩ := step.of_isStart registered now starts
      exact past

/-- A run that is scheduled is pending at once. -/
theorem Step.of_scheduled {event : Event κ ω} (step : Step rules s [event] t)
    (scheduled : event = .scheduled id key work time delay) :
    id = s.runs.length ∧ t.Pending id key work (time + delay) := by
  cases step with
  | request request =>
    cases request with
    | schedule other task wished =>
      have extended := extends_cancel s other
      have found := run?_schedule s other task wished
      cases scheduled
      refine ⟨rfl, _, found, rfl, rfl, rfl, ?_, ?_⟩
      · simp [Scheduler.request, schedule, length_runs_cancel]
      · exact congrArg (· + _) extended.now
    | cancel | cancelAll => cases scheduled
  | start => cases scheduled

/-- Since it was scheduled, a run has waited, or started on time, or was superseded. -/
theorem History.fate (history : History rules s events t) (registered : s.Registered)
    (split : events = before ++ .scheduled id key work time delay :: after) :
    Fate id key work (time + delay) after t ∧ ∀ event ∈ before, event.isStart id = false := by
  -- The last event is the scheduling itself, or belongs to what came after it.
  induction history generalizing after with
  | stay => simp at split
  | @step events more u t history step ih =>
    have registeredThen := history.registered registered
    rcases step.eq_nil_or_singleton with rfl | ⟨event, rfl⟩
    · obtain ⟨fate, never⟩ := ih (by simpa using split)
      exact ⟨by simpa using fate.step step registeredThen, never⟩
    · rcases List.eq_nil_or_concat after with rfl | ⟨earlier, last, rfl⟩
      · obtain ⟨rfl, scheduled⟩ := List.append_inj' split rfl
        obtain ⟨isNew, pending⟩ := step.of_scheduled (List.singleton_inj.mp scheduled)
        refine ⟨.pending (by simp) pending, fun event member => ?_⟩
        -- Numbers are not given out twice.
        cases starts : event.isStart id with
        | false => rfl
        | true =>
          obtain ⟨run, found, -⟩ := history.over_of_isStart registered member starts
          simp [run?, isNew] at found
      · have regrouped : events ++ [event] =
            (before ++ .scheduled id key work time delay :: earlier) ++ [last] := by
          simpa using split
        obtain ⟨splitBefore, same⟩ := List.append_inj' regrouped rfl
        obtain ⟨fate, never⟩ := ih splitBefore
        rw [List.concat_eq_append, ← same]
        exact ⟨fate.step step registeredThen, never⟩

/-- The events up to the start of a run, or all of them. -/
def untilStart (id : RunId) (events : List (Event κ ω)) : List (Event κ ω) :=
  events.takeWhile fun event => !event.isStart id

omit [DecidableEq κ] in
theorem untilStart_of_never (never : ∀ event ∈ events, event.isStart id = false) :
    untilStart id events = events := by
  induction events with
  | nil => rfl
  | cons event rest ih =>
    obtain ⟨first, later⟩ := List.forall_mem_cons.mp never
    have kept := ih later
    simp only [untilStart] at kept ⊢
    simp [first, kept]

omit [DecidableEq κ] in
theorem untilStart_append {moment : Time} (never : ∀ event ∈ before, event.isStart id = false) :
    untilStart id (before ++ .started id work moment :: after) = before := by
  rw [untilStart, List.takeWhile_append_of_pos (by simpa using never)]
  simp [Event.isStart]

omit [DecidableEq κ] in
theorem isStart_started {task : ω} {moment : Time} :
    (Event.started id task moment : Event κ ω).isStart id = true := by
  simp [Event.isStart]

omit [DecidableEq κ] in
theorem countP_isStart_of_never (never : ∀ event ∈ events, event.isStart id = false) :
    events.countP (Event.isStart id) = 0 :=
  List.countP_eq_zero.mpr fun event member => by simp [never event member]

namespace Fate

variable (fate : Fate id key work due events s)

include fate

theorem countP_le_one : events.countP (Event.isStart id) ≤ 1 := by
  cases fate with
  | pending quiet =>
    have none := countP_isStart_of_never fun event member => (quiet event member).1
    omega
  | started quiet _ _ once =>
    have none := countP_isStart_of_never fun event member => (quiet event member).1
    have noneLater := countP_isStart_of_never once
    rw [List.countP_append, List.countP_cons_of_pos isStart_started]
    omega
  | superseded _ _ never =>
    have none := countP_isStart_of_never never
    omega

/-- A run that has started did so on time, and nothing had superseded it. -/
theorem of_started {task : ω} {moment : Time} (member : .started id task moment ∈ events) :
    task = work ∧ moment ≤ due ∧ due < moment + Time.instant ∧
      ∀ event ∈ untilStart id events, event.supersedes key = false := by
  have starts : (Event.started id task moment : Event κ ω).isStart id = true := isStart_started
  cases fate with
  | pending quiet => simp [quiet _ member] at starts
  | superseded _ _ never => simp [never _ member] at starts
  | @started before later started _ quiet notLate notEarly once =>
    have never : ∀ event ∈ before, event.isStart id = false := fun event member =>
      (quiet event member).1
    rw [untilStart_append never]
    rcases List.mem_append.mp member with earlier | laterOn
    · simp [never _ earlier] at starts
    · rcases List.mem_cons.mp laterOn with same | again
      · cases same
        exact ⟨rfl, notLate, notEarly, fun event member => (quiet event member).2⟩
      · simp [once _ again] at starts

/-- A run that has no more to wait for has started, unless it was superseded. -/
theorem started_iff (notPending : ¬ s.Pending id key work due) :
    (∃ moment, .started id work moment ∈ events) ↔
      ∀ event ∈ untilStart id events, event.supersedes key = false := by
  cases fate with
  | pending quiet pending => exact absurd pending notPending
  | @started before later moment _ quiet =>
    have never : ∀ event ∈ before, event.isStart id = false := fun event member =>
      (quiet event member).1
    rw [untilStart_append never]
    exact ⟨fun _ event member => (quiet event member).2, fun _ => ⟨moment, by simp⟩⟩
  | @superseded _ _ event member supersedes never =>
    rw [untilStart_of_never never]
    constructor
    · rintro ⟨moment, started⟩
      simpa [isStart_started] using never _ started
    · intro noneSupersedes
      simp [noneSupersedes event member] at supersedes

end Fate

/-- The clock is beyond a time, or nothing is left to happen up to it. -/
def HasPassed (rules : Rules κ ω μ) (s : Scheduler κ ω μ) (time : Time) : Prop :=
  time < s.now ∨ s.step? rules (some time) = none

theorem Pending.not_hasPassed (pending : s.Pending id key work due) (upcoming : s.Upcoming) :
    ¬ s.HasPassed rules due := by
  obtain ⟨run, found, -, -, -, onTime⟩ := pending
  unfold IsOnTime at onTime
  rintro (beyond | rest)
  · -- The clock does not pass a run that waits.
    have notBeyond : s.now ≤ due := by
      cases phase : run.phase with
      | created =>
        simp only [phase] at onTime
        exact onTime.2 ▸ Nat.le_add_right ..
      | delayed deadline =>
        simp only [phase] at onTime
        exact onTime ▸ upcoming id run deadline found (by rw [phase]; rfl)
      | due =>
        simp only [phase] at onTime
        exact onTime.2.1
      | working | resuming | ended => simp [phase] at onTime
    exact Nat.not_lt.mpr notBeyond beyond
  · -- A run that waits has a turn in the queue or a deadline up to its moment.
    obtain ⟨idle, quiet⟩ := step?_eq_none.mp rest
    cases phase : run.phase with
    | delayed deadline =>
      simp only [phase] at onTime
      have awaits : run.phase.deadline? = some deadline := by rw [phase]; rfl
      exact Nat.ne_of_gt (lt_of_fireTimer?_eq_none quiet found awaits) onTime
    | created | due | working | resuming | ended => simp [phase, idle] at onTime

end Fate

/-! ## The law of coalescing -/

variable {rules : Rules κ ω μ}

/-- Whatever is requested and whenever, a run starts just when nothing supersedes it before it
starts, at most once, and where its delay is over to within an instant. Of each key at most one run
waits, and the questions answer which keys have one. -/
theorem coalesces {defaultDelay now : Time} {events : List (Event κ ω)} {s : Scheduler κ ω μ}
    (history : History rules { defaultDelay, now } events s) :
    (∀ before id key work time delay after,
      events = before ++ .scheduled id key work time delay :: after →
        events.countP (·.isStart id) ≤ 1 ∧
        (∀ task moment, .started id task moment ∈ events →
          .started id task moment ∈ after ∧ task = work ∧
          moment ≤ time + delay ∧ time + delay < moment + Time.instant ∧
          ∀ event ∈ untilStart id after, event.supersedes key = false) ∧
        (s.HasPassed rules (time + delay) →
          ((∃ moment, .started id work moment ∈ after) ↔
            ∀ event ∈ untilStart id after, event.supersedes key = false))) ∧
    (∀ key id other, s.IsWaiting id key → s.IsWaiting other key → id = other) ∧
    (∃ keys : List κ, keys.Nodup ∧ keys.length = s.pendingCount ∧
      ∀ key, key ∈ keys ↔ ∃ id, s.IsWaiting id key) ∧
    (∀ key, s.isPending key = true ↔ ∃ id, s.IsWaiting id key) ∧
    ∀ key, (s.cancel key).1 = s.isPending key ∧ (s.cancel key).2.isPending key = false := by
  have registeredAtStart : Registered ({ defaultDelay, now } : Scheduler κ ω μ) :=
    registered_start defaultDelay now
  have registered := history.registered registeredAtStart
  refine ⟨?_, fun key id other => registered.unique, ?_, fun key => registered.isPending_eq_true,
    fun key => ⟨registered.cancel_fst key, Registered.isPending_cancel key⟩⟩
  · intro before id key work time delay after split
    obtain ⟨fate, never⟩ := history.fate registeredAtStart split
    refine ⟨?_, ?_, ?_⟩
    · have noneBefore := countP_isStart_of_never never
      have once := fate.countP_le_one
      show events.countP (Event.isStart id) ≤ 1
      rw [split, List.countP_append, List.countP_cons_of_neg (by simp [Event.isStart])]
      omega
    · intro task moment member
      have later : .started id task moment ∈ after := by
        rw [split] at member
        rcases List.mem_append.mp member with earlier | here
        · simpa [isStart_started] using never _ earlier
        · simpa using here
      exact ⟨later, fate.of_started later⟩
    · intro passed
      exact fate.started_iff fun pending => pending.not_hasPassed registered.upcoming passed
  · refine ⟨s.waiting.keys, registered.distinct, registered.pendingCount_eq.symm, ?_⟩
    exact fun key => registered.mem_keys_waiting

/-- Work that takes no time and requests nothing. -/
def Rules.quick : Rules κ ω μ := ⟨fun _ => {}, fun _ _ => []⟩

/-- Of two runs that are scheduled at once, the second one starts. -/
theorem coalesces_burst :
    ∃ s : Scheduler Unit Unit Unit,
      History .quick { defaultDelay := Time.perSecond, now := 0 }
        [.scheduled 0 () () 0 Time.perSecond, .scheduled 1 () () 0 Time.perSecond,
          .started 1 () Time.perSecond] s ∧
      s.HasPassed .quick Time.perSecond ∧
      ((∃ moment, (.started 1 () moment : Event Unit Unit) ∈ [.started 1 () Time.perSecond]) ↔
        ∀ event ∈ untilStart 1 [(.started 1 () Time.perSecond : Event Unit Unit)],
          event.supersedes () = false) ∧
      ¬ ∃ moment, (.started 0 () moment : Event Unit Unit) ∈
        [.scheduled 1 () () 0 Time.perSecond, .started 1 () Time.perSecond] := by
  have first : History .quick { defaultDelay := Time.perSecond, now := 0 } _ _ :=
    .single (.request (_ : Scheduler Unit Unit Unit) (.schedule () () none))
  have second := first.step (.request _ (.schedule () () none))
  have dropped := second.step (.turn rfl (by decide))
  have delayed := dropped.step (.turn rfl (by decide))
  have due := delayed.step (.timer (fires_of_fireTimer? none rfl) (.inl rfl))
  have started := due.step (.start rfl rfl rfl rfl)
  have retired := (started.step (.finish rfl rfl rfl rfl)).step (.retire _ (some 1))
  have burst : History .quick _ [.scheduled 0 () () 0 Time.perSecond,
      .scheduled 1 () () 0 Time.perSecond, .started 1 () Time.perSecond] _ :=
    retired.ofEq (by decide +kernel)
  obtain ⟨runs, -⟩ := coalesces burst
  obtain ⟨-, firstRun, -⟩ := runs [] 0 () () 0 Time.perSecond _ rfl
  obtain ⟨-, -, secondRun⟩ :=
    runs [.scheduled 0 () () 0 Time.perSecond] 1 () () 0 Time.perSecond _ rfl
  refine ⟨_, burst, ?passed, secondRun ?passed, ?_⟩
  case passed => exact .inr (by decide +kernel)
  rintro ⟨moment, started⟩
  obtain ⟨-, -, -, -, alone⟩ := firstRun () moment (.tail _ started)
  have superseded := alone (.scheduled 1 () () 0 Time.perSecond) (by decide)
  cases superseded

/-- The clock may be up to an instant behind when work starts. -/
theorem not_forall_started_at_deadline :
    ¬ ∀ (events : List (Event Unit Unit)) (s : Scheduler Unit Unit Unit),
        History .quick { defaultDelay := 1 } events s →
        ∀ id key work time delay, .scheduled id key work time delay ∈ events →
          ∀ moment, .started id work moment ∈ events → moment = time + delay := by
  intro atDeadline
  have requested : History .quick { defaultDelay := 1 } _ _ :=
    .single (.request (_ : Scheduler Unit Unit Unit) (.schedule () () none))
  have delayed := requested.step (.turn rfl (by decide))
  have due := delayed.step (.timer (fires_of_fireTimer? none rfl) (.inl rfl))
  have started : History .quick _ [.scheduled 0 () () 0 1, .started 0 () 0] _ :=
    (due.step (.start rfl rfl rfl rfl)).ofEq (by decide +kernel)
  have onTime := atDeadline _ _ started 0 () () 0 1 (by simp) 0 (by simp)
  cases onTime

end SceneScript.Scheduler
