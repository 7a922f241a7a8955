import SceneScript.Scheduler.History

/-! # Changes of a scheduler

What each operation does to the runs, and what all of them leave alone: a run keeps its key, its
work and its delay, and once it does not wait it never waits again.

* `Run.waits`, `Run.Continues` — a run that has not started and is not cancelled, and what becomes
  of a run;
* `Scheduler.Keeps`, `Scheduler.Extends` — what no step takes back, and what a request leaves alone;
* `Scheduler.resume_cases` — what the turn of a run can do where no work starts or ends;
* `Scheduler.Upcoming` — no deadline is past.
-/

namespace SceneScript

namespace Phase

/-- Whether the work of a run is still to start. -/
def isEarly : Phase → Bool
  | .created | .delayed _ | .due => true
  | .working _ _ | .resuming _ | .ended => false

/-- What a phase becomes when the clock is no longer waited for. -/
def awakened : Phase → Phase
  | .delayed _ => .due
  | .working _ entry => .resuming entry
  | phase => phase

@[simp] theorem isEarly_awakened (phase : Phase) : phase.awakened.isEarly = phase.isEarly := by
  cases phase <;> rfl

@[simp] theorem deadline?_awakened (phase : Phase) : phase.awakened.deadline? = none := by
  cases phase <;> rfl

end Phase

namespace Run

variable {κ ω : Type}

def waits (run : Run κ ω) : Bool := run.phase.isEarly && !run.cancelled

theorem waits_of_due {run : Run κ ω} (due : run.phase = .due) (wanted : run.cancelled = false) :
    run.waits = true := by
  simp [waits, due, wanted, Phase.isEarly]

/-- What a run keeps: what it was scheduled with, and that it does not wait any more. -/
structure Continues (run later : Run κ ω) : Prop where
  key : later.key = run.key
  work : later.work = run.work
  delay : later.delay = run.delay
  waits : later.waits = true → run.waits = true

theorem Continues.refl (run : Run κ ω) : run.Continues run := ⟨rfl, rfl, rfl, id⟩

theorem Continues.trans {run later last : Run κ ω} (first : run.Continues later)
    (second : later.Continues last) : run.Continues last where
  key := second.key.trans first.key
  work := second.work.trans first.work
  delay := second.delay.trans first.delay
  waits := first.waits ∘ second.waits

end Run

namespace Scheduler

variable {κ ω μ : Type}

/-! ## The parts of a state that an operation changes -/

section Operations

variable (s : Scheduler κ ω μ) (id other : RunId)

theorem run?_setPhase (phase : Phase) :
    (s.setPhase id phase).run? other =
      if id = other then (s.run? other).map fun run => { run with phase } else s.run? other := by
  simp only [setPhase, run?, List.getElem?_modify]
  split <;> simp

theorem run?_awaken :
    (s.awaken id).run? other =
      if id = other then (s.run? other).map fun run => { run with phase := run.phase.awakened }
      else s.run? other := by
  have kept (phase : Phase) : ((s.setPhase id phase).enqueue (.run id)).run? other =
      if id = other then (s.run? other).map fun run => { run with phase } else s.run? other :=
    run?_setPhase s id other phase
  unfold awaken
  by_cases same : id = other
  · subst same
    cases found : s.run? id with
    | none => simp [found]
    | some run =>
      obtain ⟨key, work, delay, phase, cancelled⟩ := run
      cases phase <;> simp [kept, found, Phase.awakened]
  · rw [if_neg same]
    split
    · rfl
    · split <;> simp [kept, same]

theorem run?_interrupt :
    (s.interrupt id).run? other =
      if id = other then
        (s.run? other).map fun run => { run with phase := run.phase.awakened, cancelled := true }
      else s.run? other := by
  rw [interrupt, run?_awaken]
  simp only [run?, List.getElem?_modify]
  split <;> simp [Function.comp_def]

theorem awaken_eq :
    ∃ runs turns, s.awaken id = { s with runs := runs, queue := s.queue ++ turns } := by
  unfold awaken
  split
  · exact ⟨s.runs, [], by simp⟩
  · split
    · exact ⟨_, _, rfl⟩
    · exact ⟨_, _, rfl⟩
    · exact ⟨s.runs, [], by simp⟩

@[simp] theorem now_awaken : (s.awaken id).now = s.now := by
  obtain ⟨runs, turns, awaken⟩ := awaken_eq s id
  rw [awaken]

@[simp] theorem waiting_awaken : (s.awaken id).waiting = s.waiting := by
  obtain ⟨runs, turns, awaken⟩ := awaken_eq s id
  rw [awaken]

theorem queue_prefix_awaken : s.queue <+: (s.awaken id).queue := by
  obtain ⟨runs, turns, awaken⟩ := awaken_eq s id
  rw [awaken]
  exact List.prefix_append ..

theorem interrupt_eq :
    ∃ runs turns, s.interrupt id = { s with runs := runs, queue := s.queue ++ turns } :=
  awaken_eq _ id

theorem queue_prefix_interrupt : s.queue <+: (s.interrupt id).queue := by
  obtain ⟨runs, turns, interrupt⟩ := interrupt_eq s id
  rw [interrupt]
  exact List.prefix_append ..

@[simp] theorem defaultDelay_interrupt : (s.interrupt id).defaultDelay = s.defaultDelay := by
  obtain ⟨runs, turns, interrupt⟩ := interrupt_eq s id
  rw [interrupt]

theorem length_runs_awaken : (s.awaken id).runs.length = s.runs.length := by
  unfold awaken
  split
  · rfl
  · split <;> simp [setPhase, enqueue]

theorem length_runs_interrupt : (s.interrupt id).runs.length = s.runs.length := by
  simp [interrupt, length_runs_awaken]

theorem mem_queue_awaken_of_delayed {run : Run κ ω} {deadline : Time}
    (found : s.run? id = some run) (delayed : run.phase = .delayed deadline) :
    .run id ∈ (s.awaken id).queue := by
  simp [awaken, found, delayed, enqueue]

@[simp] theorem now_interrupt : (s.interrupt id).now = s.now := now_awaken ..

@[simp] theorem waiting_interrupt : (s.interrupt id).waiting = s.waiting := waiting_awaken ..

theorem length_runs_cancel [DecidableEq κ] (key : κ) :
    (s.cancel key).2.runs.length = s.runs.length := by
  unfold cancel
  split
  · rfl
  · split <;> simp [length_runs_interrupt]

theorem waiting_cancel [DecidableEq κ] (key k : κ) :
    (s.cancel key).2.waiting.get? k = if key = k then none else s.waiting.get? k := by
  unfold cancel
  split
  next absent =>
    split
    next same => rw [← same, absent]
    next => rfl
  next =>
    split
    · exact OrderedMap.get?_erase ..
    · rw [waiting_interrupt]
      exact OrderedMap.get?_erase ..

end Operations

theorem run?_push (s : Scheduler κ ω μ) (run : Run κ ω) (waiting : OrderedMap κ RunId)
    (queue : List (Turn μ)) (id : RunId) :
    run? { s with runs := s.runs ++ [run], waiting, queue } id =
      if id = s.runs.length then some run else s.run? id := by
  simp only [run?, List.getElem?_append]
  grind

/-! ## What no step takes back -/

def Keeps (s t : Scheduler κ ω μ) : Prop :=
  ∀ id run, s.run? id = some run → ∃ later, t.run? id = some later ∧ run.Continues later

namespace Keeps

variable {s t u : Scheduler κ ω μ}

theorem refl (s : Scheduler κ ω μ) : Keeps s s := fun _ run found => ⟨run, found, .refl run⟩

theorem trans (first : Keeps s t) (second : Keeps t u) : Keeps s u := by
  intro id run found
  obtain ⟨later, foundLater, continues⟩ := first id run found
  obtain ⟨last, foundLast, continuesLater⟩ := second id later foundLater
  exact ⟨last, foundLast, continues.trans continuesLater⟩

/-- Only one run changes. -/
theorem ofChange {id : RunId} {change : Run κ ω → Run κ ω}
    (view : ∀ other, t.run? other =
      if id = other then (s.run? other).map change else s.run? other)
    (continues : ∀ run, s.run? id = some run → run.Continues (change run)) : Keeps s t := by
  intro other run found
  rw [view other, found]
  split
  next same => exact ⟨change run, rfl, continues run (same ▸ found)⟩
  next => exact ⟨run, rfl, .refl run⟩

end Keeps

section

variable (s : Scheduler κ ω μ) (id : RunId)

theorem keeps_setPhase {phase : Phase}
    (early : ∀ run, s.run? id = some run → phase.isEarly = true → run.phase.isEarly = true) :
    Keeps s (s.setPhase id phase) := by
  refine .ofChange (fun other => run?_setPhase s id other phase) fun run found => ?_
  refine ⟨rfl, rfl, rfl, fun waits => ?_⟩
  simp only [Run.waits, Bool.and_eq_true] at waits ⊢
  exact ⟨early run found waits.1, waits.2⟩

theorem keeps_awaken : Keeps s (s.awaken id) :=
  .ofChange (run?_awaken s id) fun _ _ => ⟨rfl, rfl, rfl, fun waits => by
    simpa [Run.waits] using waits⟩

theorem keeps_interrupt : Keeps s (s.interrupt id) :=
  .ofChange (run?_interrupt s id) fun _ _ => ⟨rfl, rfl, rfl, fun waits => by
    simp [Run.waits] at waits⟩

end

/-- What a request leaves alone. -/
structure Extends (s t : Scheduler κ ω μ) : Prop where
  now : t.now = s.now
  defaultDelay : t.defaultDelay = s.defaultDelay
  queue : s.queue <+: t.queue
  keeps : Keeps s t

namespace Extends

variable {s t u : Scheduler κ ω μ}

theorem refl (s : Scheduler κ ω μ) : Extends s s := ⟨rfl, rfl, List.prefix_rfl, .refl s⟩

theorem trans (first : Extends s t) (second : Extends t u) : Extends s u where
  now := second.now.trans first.now
  defaultDelay := second.defaultDelay.trans first.defaultDelay
  queue := first.queue.trans second.queue
  keeps := first.keeps.trans second.keeps

theorem foldl {α : Type} {f : Scheduler κ ω μ → α → Scheduler κ ω μ}
    (extends_f : ∀ s a, Extends s (f s a)) (s : Scheduler κ ω μ) (l : List α) :
    Extends s (l.foldl f s) := by
  induction l generalizing s with
  | nil => exact .refl s
  | cons a rest ih => exact (extends_f s a).trans (ih (f s a))

end Extends

section

variable (s : Scheduler κ ω μ)

theorem extends_interrupt (id : RunId) : Extends s (s.interrupt id) where
  now := now_interrupt s id
  defaultDelay := defaultDelay_interrupt s id
  queue := queue_prefix_interrupt s id
  keeps := keeps_interrupt s id

variable [DecidableEq κ]

theorem extends_cancel (key : κ) : Extends s (s.cancel key).2 := by
  unfold cancel
  split
  · exact .refl s
  · split
    · exact ⟨rfl, rfl, List.prefix_rfl, .refl s⟩
    · next id _ _ =>
      have interrupted := extends_interrupt { s with waiting := s.waiting.erase key } id
      exact ⟨interrupted.now, interrupted.defaultDelay, interrupted.queue, interrupted.keeps⟩

theorem extends_schedule (key : κ) (work : ω) (delay : Option Time) :
    Extends s (s.schedule key work delay) := by
  refine (extends_cancel s key).trans ⟨rfl, rfl, List.prefix_append .., fun id run found => ?_⟩
  have inside : id < (s.cancel key).2.runs.length := (List.getElem?_eq_some_iff.mp found).1
  refine ⟨run, ?_, .refl run⟩
  rw [← found]
  exact List.getElem?_append_left inside

/-- The first half of `cancelAll`. -/
def cancelWaiting : Scheduler κ ω μ := s.waiting.keys.foldl (fun s key => (s.cancel key).2) s

theorem cancelAll_eq :
    s.cancelAll = { s.cancelWaiting.running.foldl interrupt s.cancelWaiting with running := [] } :=
  rfl

theorem extends_cancelAll : Extends s s.cancelAll := by
  have dropped : Extends s s.cancelWaiting := .foldl (fun s key => extends_cancel s key) s _
  have interrupted := dropped.trans (.foldl extends_interrupt _ s.cancelWaiting.running)
  rw [cancelAll_eq]
  exact ⟨interrupted.now, interrupted.defaultDelay, interrupted.queue, interrupted.keeps⟩

theorem extends_request (request : Request κ ω) : Extends s (s.request request) := by
  cases request with
  | schedule key work delay => exact extends_schedule s key work delay
  | cancel key => exact extends_cancel s key
  | cancelAll => exact extends_cancelAll s

end

/-! ## Turns -/

/-- A turn with which no work starts or ends. -/
theorem resume_cases [DecidableEq κ] (rules : Rules κ ω μ) {s : Scheduler κ ω μ} {id : RunId}
    (other : ∀ run, s.run? id = some run → run.cancelled = false →
      run.phase.movesWork = false) :
    (s.resume rules id).2 = s ∨
    (∃ run running, s.run? id = some run ∧ run.cancelled = true ∧
      (s.resume rules id).2 = { s.setPhase id .ended with running := running }) ∨
    (∃ run, s.run? id = some run ∧ run.cancelled = false ∧ run.phase = .created ∧
      (s.resume rules id).2 =
        if run.delay = 0 then (s.setPhase id .due).enqueue (.run id)
        else s.setPhase id (.delayed (s.now + run.delay))) := by
  cases found : s.run? id with
  | none => exact .inl (by simp [resume, found])
  | some run =>
    have neither := other run found
    simp only [resume, found]
    -- The cases are those of the phase and the mark, in the order in which a turn looks at them.
    split
    next cancelled => exact .inr (.inl ⟨run, s.running, rfl, cancelled, rfl⟩)
    next cancelled => exact .inr (.inl ⟨run, s.running, rfl, cancelled, rfl⟩)
    next created wanted => exact .inr (.inr ⟨run, rfl, wanted, created, rfl⟩)
    next due wanted => simp [due, wanted, Phase.movesWork] at neither
    next cancelled => exact .inr (.inl ⟨run, _, rfl, cancelled, rfl⟩)
    next resuming wanted => simp [resuming, wanted, Phase.movesWork] at neither
    next => exact .inl rfl

/-! ## Deadlines -/

/-- No run waits for a moment that is over. -/
def Upcoming (s : Scheduler κ ω μ) : Prop :=
  ∀ id run deadline, s.run? id = some run → run.phase.deadline? = some deadline →
    s.now ≤ deadline

namespace Upcoming

variable {s t : Scheduler κ ω μ} (upcoming : s.Upcoming) (id : RunId)

include upcoming

/-- Only one run changes, and no time passes. -/
theorem ofChange {change : Run κ ω → Run κ ω} (now : t.now = s.now)
    (view : ∀ other, t.run? other =
      if id = other then (s.run? other).map change else s.run? other)
    (later : ∀ run deadline, (change run).phase.deadline? = some deadline → s.now ≤ deadline) :
    t.Upcoming := by
  intro other run deadline found awaits
  rw [view other] at found
  rw [now]
  split at found
  next =>
    obtain ⟨before, -, rfl⟩ := Option.map_eq_some_iff.mp found
    exact later before deadline awaits
  next => exact upcoming other run deadline found awaits

theorem awaken : (s.awaken id).Upcoming :=
  upcoming.ofChange id (now_awaken s id) (run?_awaken s id) (by simp)

theorem interrupt : (s.interrupt id).Upcoming :=
  upcoming.ofChange id (now_interrupt s id) (run?_interrupt s id) (by simp)

theorem setPhase {phase : Phase}
    (later : ∀ deadline, phase.deadline? = some deadline → s.now ≤ deadline) :
    (s.setPhase id phase).Upcoming :=
  upcoming.ofChange id rfl (fun other => run?_setPhase s id other phase) fun _ => later

end Upcoming

end Scheduler

end SceneScript
