import SceneScript.Proofs.Scheduler.Coalescing
import SceneScript.Scheduler.Passage

/-! # Runs that are attended to

Where nobody cancels everything, a run that does not wait is left alone by all but its own turns and
its own timer, and no run is forgotten: something takes care that it goes on, and as long as its
work is not over it counts as running.

* `Scheduler.run?_requestAll` — what is requested does not matter to a run that does not wait;
* `Scheduler.Move.of_not_waits` — what a step can do to such a run;
* `Scheduler.Attended` — the invariant: every run has its turn or its timer to come, and every run
  whose work has started is in the table of those that run;
* `Scheduler.Move.attended`, `Scheduler.Passage.attended` — every step keeps it.
-/

namespace SceneScript

namespace Scheduler

variable {κ ω μ : Type} [DecidableEq κ]

/-! ## Requests and a run that does not wait -/

section Requests

variable {s : Scheduler κ ω μ} (registered : s.Registered) {id : RunId} {run : Run κ ω}
  (found : s.run? id = some run) (past : run.waits = false)

include registered found past

theorem run?_cancel (key : κ) : (s.cancel key).2.run? id = some run := by
  cases entry : s.waiting.get? key with
  | none => rw [Registered.cancel_of_absent entry, found]
  | some other =>
    -- What stands in the table waits, so that it is another run.
    have apart : other ≠ id := by
      rintro rfl
      obtain ⟨_, foundToo, -, waits⟩ := (registered.entry key other).mp entry
      cases found.symm.trans foundToo
      exact absurd waits (by simp [past])
    rw [registered.cancel_of_waiting entry, run?_interrupt, if_neg apart]
    exact found

theorem run?_request {request : Request κ ω} (spares : request ≠ .cancelAll) :
    (s.request request).run? id = some run := by
  cases request with
  | schedule key work delay =>
    have kept := run?_cancel registered found past key
    have inside : id < (s.cancel key).2.runs.length := (List.getElem?_eq_some_iff.mp kept).1
    rw [request, schedule, run?_push, if_neg (Nat.ne_of_lt inside), kept]
  | cancel key => exact run?_cancel registered found past key
  | cancelAll => exact absurd rfl spares

theorem run?_requestAll {requests : List (Request κ ω)} (spares : .cancelAll ∉ requests) :
    (s.requestAll requests).run? id = some run := by
  induction requests generalizing s with
  | nil => exact found
  | cons request rest ih =>
    obtain ⟨first, later⟩ := List.ne_and_not_mem_of_not_mem_cons spares
    exact ih (registered.request request) (run?_request registered found past first.symm) later

end Requests

section RequestAll

variable {s : Scheduler κ ω μ} {requests : List (Request κ ω)}

theorem extends_requestAll (s : Scheduler κ ω μ) (requests : List (Request κ ω)) :
    Extends s (s.requestAll requests) :=
  .foldl (fun s request => extends_request s request) s requests

/-- The queue does not matter. -/
theorem Registered.dequeue (registered : s.Registered) (queue : List (Turn μ)) :
    Registered { s with queue } := registered.ofSameRuns rfl rfl rfl

theorem Registered.requestAll (registered : s.Registered) (requests : List (Request κ ω)) :
    (s.requestAll requests).Registered := by
  induction requests generalizing s with
  | nil => exact registered
  | cons request rest ih => exact ih (registered.request request)

omit [DecidableEq κ] in
@[simp] theorem running_awaken (s : Scheduler κ ω μ) (id : RunId) :
    (s.awaken id).running = s.running := by
  obtain ⟨runs, turns, awaken⟩ := awaken_eq s id
  rw [awaken]

omit [DecidableEq κ] in
@[simp] theorem running_interrupt (s : Scheduler κ ω μ) (id : RunId) :
    (s.interrupt id).running = s.running := running_awaken ..

end RequestAll

/-! ## Turns -/

omit [DecidableEq κ] in
theorem run?_setPhase_self {s : Scheduler κ ω μ} {id : RunId} {run : Run κ ω}
    (found : s.run? id = some run) (phase : Phase) :
    (s.setPhase id phase).run? id = some { run with phase } := by
  rw [run?_setPhase, if_pos rfl, found, Option.map_some]

section Turns

variable (rules : Rules κ ω μ) {s : Scheduler κ ω μ} {id : RunId} {run : Run κ ω}

theorem Registered.setPhase_ended (registered : s.Registered) (found : s.run? id = some run)
    {entry : Option RunId} (resuming : run.phase = .resuming entry) :
    (s.setPhase id .ended).Registered :=
  registered.setPhase found (.inr (by rw [resuming]; rfl)) (by simp [Phase.deadline?])

/-- A run that starts counts as running. -/
theorem Registered.start_snd (registered : s.Registered) (found : s.run? id = some run)
    (waits : run.waits = true) :
    (s.start rules id run).2 =
      let started :=
        { s with waiting := s.waiting.erase run.key, running := s.running ++ [id] }
      let duration := (rules.course run.work).duration
      if duration = 0 then (started.setPhase id (.resuming (some id))).enqueue (.run id)
      else started.setPhase id (.working (s.now + duration) (some id)) := by
  have entry : s.waiting.get? run.key = some id :=
    (registered.entry run.key id).mpr ⟨run, found, rfl, waits⟩
  simp only [Scheduler.start, entry, Option.toList_some]

theorem now_resume (s : Scheduler κ ω μ) (id : RunId) : (s.resume rules id).2.now = s.now := by
  cases found : s.run? id with
  | none => rw [resume, found]
  | some run =>
    simp only [resume, found]
    split
    next => rfl
    next => rfl
    next => dsimp only; split <;> rfl
    next => unfold start; dsimp only; split <;> rfl
    next => rfl
    next => exact (extends_requestAll _ _).now
    next => rfl

/-- The turn of another run does not matter to a run that does not wait. -/
theorem run?_resume_of_ne (registered : s.Registered) (found : s.run? id = some run)
    (past : run.waits = false) {other : RunId} (different : other ≠ id)
    (spares : ∀ turned entry, s.run? other = some turned → turned.phase = .resuming entry →
      .cancelAll ∉ (rules.course turned.work).requests) :
    (s.resume rules other).2.run? id = some run := by
  have apart (t : Scheduler κ ω μ) (runs : t.runs = s.runs) (phase : Phase) :
      (t.setPhase other phase).run? id = some run := by
    rw [run?_setPhase, if_neg different, run?, runs]
    exact found
  cases turn : s.run? other with
  | none =>
    rw [resume, turn]
    exact found
  | some turned =>
    simp only [resume, turn]
    split
    next => exact apart s rfl _
    next => exact apart s rfl _
    next => dsimp only; split <;> exact apart s rfl _
    next => unfold start; dsimp only; split <;> exact apart _ rfl _
    next => exact apart s rfl _
    next resuming wanted =>
      have ended := registered.setPhase_ended turn resuming
      exact run?_requestAll ended (apart s rfl _) past (spares turned _ turn resuming)
    next => exact found

end Turns

/-! ## Steps -/

section Moves

variable {rules : Rules κ ω μ} {s t : Scheduler κ ω μ} {log : List (Record ω)}

theorem Move.registered (move : Move rules s log t) (registered : s.Registered) :
    t.Registered := by
  obtain ⟨events, history⟩ := move.history
  exact history.registered registered

theorem Passage.registered (passage : Passage rules s log t) (registered : s.Registered) :
    t.Registered := by
  obtain ⟨events, history⟩ := passage.history
  exact history.registered registered

theorem History.keeps {events : List (Event κ ω)} (history : History rules s events t)
    (registered : s.Registered) : Keeps s t := by
  induction history with
  | stay => exact .refl s
  | step history step ih => exact ih.trans (step.keeps (history.registered registered))

theorem Move.keeps (move : Move rules s log t) (registered : s.Registered) : Keeps s t := by
  obtain ⟨events, history⟩ := move.history
  exact history.keeps registered

/-- What a step can do to a run that does not wait: nothing, or it is its turn, or its timer. -/
theorem Move.of_not_waits (move : Move rules s log t) (registered : s.Registered) {id : RunId}
    {run : Run κ ω} (found : s.run? id = some run) (past : run.waits = false) :
    (t.run? id = some run ∧ (s.queue = [] ∨ t.now = s.now) ∧ ∀ record ∈ log, record.1 ≠ id) ∨
    (∃ rest, s.queue = .run id :: rest ∧
      (∀ entry, run.phase = .resuming entry → .cancelAll ∉ (rules.course run.work).requests) ∧
      log = ({ s with queue := rest }.resume rules id).1.map (id, ·) ∧
      t = ({ s with queue := rest }.resume rules id).2) ∨
    ∃ deadline, run.phase.deadline? = some deadline ∧ log = [] ∧
      t.run? id = some { run with phase := run.phase.awakened } ∧
      t.now = if deadline < s.now + Time.instant then s.now else deadline := by
  cases move with
  | request spares =>
    exact .inl ⟨run?_request registered found past spares, .inr (extends_request s _).now, by simp⟩
  | send content => exact .inl ⟨found, .inr rfl, by simp⟩
  | @receive content rest next spares =>
    have shortened := registered.dequeue rest
    exact .inl ⟨run?_requestAll shortened found past spares, .inr (extends_requestAll _ _).now,
      by simp⟩
  | @turn other rest next spares =>
    by_cases same : other = id
    · subst same
      exact .inr (.inl ⟨rest, next, fun entry => spares run entry found, rfl, rfl⟩)
    · have shortened := registered.dequeue rest
      refine .inl ⟨run?_resume_of_ne rules shortened found past same spares, .inr ?_, ?_⟩
      · exact now_resume rules { s with queue := rest } other
      · simp [same]
  | timer fires idle =>
    obtain ⟨other, timed, deadline, foundTimed, awaits, -, fired⟩ := fires
    have view := run?_awaken { s with
      now := if deadline < s.now + Time.instant then s.now else deadline } other id
    rw [← fired] at view
    by_cases same : other = id
    · subst same
      cases foundTimed.symm.trans found
      refine .inr (.inr ⟨deadline, awaits, rfl, ?_, by rw [fired, now_awaken]⟩)
      rw [view, if_pos rfl]
      exact congrArg (Option.map _) found
    · refine .inl ⟨?_, idle, by simp⟩
      rw [view, if_neg same]
      exact found
  | wait idle quiet => exact .inl ⟨found, .inl idle, by simp⟩

end Moves

/-! ## Who takes care of a run -/

/-- What a run is waiting for will come, and its work counts as running until it is over, under its
own number. -/
def Attends (s : Scheduler κ ω μ) (id : RunId) (run : Run κ ω) : Prop :=
  match run.phase with
  | .created | .due => .run id ∈ s.queue
  | .delayed _ => run.cancelled = false
  | .working _ entry => run.cancelled = false ∧ entry = some id ∧ id ∈ s.running
  | .resuming entry =>
    run.cancelled = false ∧ entry = some id ∧ id ∈ s.running ∧ .run id ∈ s.queue
  | .ended => True

structure Attended (s : Scheduler κ ω μ) : Prop where
  runs : ∀ id run, s.run? id = some run → s.Attends id run
  past : ∀ id ∈ s.running, s.Over id

omit [DecidableEq κ] in
theorem attended_start (defaultDelay now : Time) :
    ({ defaultDelay, now } : Scheduler κ ω μ).Attended where
  runs := by simp [run?]
  past := by simp

section Attended

variable {s t : Scheduler κ ω μ}

omit [DecidableEq κ] in
theorem Attends.mono {id : RunId} {run : Run κ ω} (attends : s.Attends id run)
    (turn : .run id ∈ s.queue → .run id ∈ t.queue) (running : id ∈ s.running → id ∈ t.running) :
    t.Attends id run := by
  unfold Attends at attends ⊢
  cases phase : run.phase <;> rw [phase] at attends
  case created | due => exact turn attends
  case delayed | ended => exact attends
  case working => exact ⟨attends.1, attends.2.1, running attends.2.2⟩
  case resuming => exact ⟨attends.1, attends.2.1, running attends.2.2.1, turn attends.2.2.2⟩

omit [DecidableEq κ] in
/-- Only one run changes, and for that one it is to be shown anew. -/
theorem Attended.ofChange (attended : s.Attended) (id : RunId)
    (view : ∀ other, other ≠ id → t.run? other = s.run? other)
    (turns : ∀ other, other ≠ id → .run other ∈ s.queue → .run other ∈ t.queue)
    (running : ∀ other, other ≠ id → (other ∈ t.running ↔ other ∈ s.running))
    (own : ∀ run, t.run? id = some run → t.Attends id run)
    (past : id ∈ t.running → t.Over id) : t.Attended where
  runs other run found := by
    by_cases same : other = id
    · subst same
      exact own run found
    · rw [view other same] at found
      exact (attended.runs other run found).mono (turns other same) (running other same).mpr
  past other member := by
    by_cases same : other = id
    · subst same
      exact past member
    · obtain ⟨run, found, gone⟩ := attended.past other ((running other same).mp member)
      exact ⟨run, (view other same).trans found, gone⟩

omit [DecidableEq κ] in
/-- A run that has not started is cancelled at a turn that is to come. -/
theorem Attended.interrupt (attended : s.Attended) {id : RunId} {run : Run κ ω}
    (found : s.run? id = some run) (early : run.phase.isEarly = true) :
    (s.interrupt id).Attended := by
  have kept := queue_prefix_interrupt s id
  refine attended.ofChange id (fun other different => ?_)
    (fun other _ member => kept.subset member) (fun other _ => by rw [running_interrupt])
    (fun later foundLater => ?_) fun member => ?_
  · rw [run?_interrupt, if_neg different.symm]
  · rw [run?_interrupt, if_pos rfl, found] at foundLater
    cases foundLater
    have attends := attended.runs id run found
    obtain ⟨key, work, delay, phase, cancelled⟩ := run
    cases phase with
    | created => exact kept.subset attends
    | due => exact kept.subset attends
    | delayed deadline =>
      have marked : run?
          { s with runs := s.runs.modify id fun run => { run with cancelled := true } } id =
            some ⟨key, work, delay, .delayed deadline, true⟩ := by
        have found : s.runs[id]? = some _ := found
        simp [run?, found]
      exact mem_queue_awaken_of_delayed _ id marked rfl
    | working | resuming | ended => cases early
  · rw [running_interrupt] at member
    exact (attended.past id member).keep (keeps_interrupt s id)

theorem Attended.cancel (attended : s.Attended) (registered : s.Registered) (key : κ) :
    (s.cancel key).2.Attended := by
  cases entry : s.waiting.get? key with
  | none =>
    rw [Registered.cancel_of_absent entry]
    exact attended
  | some id =>
    obtain ⟨run, found, -, waits⟩ := (registered.entry key id).mp entry
    have early : run.phase.isEarly = true := by
      rw [Run.waits, Bool.and_eq_true] at waits
      exact waits.1
    have dropped : Attended { s with waiting := s.waiting.erase key } :=
      ⟨attended.runs, attended.past⟩
    rw [registered.cancel_of_waiting entry]
    exact dropped.interrupt found early

theorem Attended.schedule (attended : s.Attended) (registered : s.Registered) (key : κ) (work : ω)
    (delay : Option Time) : (s.schedule key work delay).Attended := by
  have cancelled := attended.cancel registered key
  simp only [Scheduler.schedule]
  generalize (s.cancel key).2 = s at cancelled
  refine cancelled.ofChange s.runs.length (fun other different => ?_)
    (fun other _ => List.mem_append_left _) (fun other _ => Iff.rfl) (fun run found => ?_)
    fun member => ?_
  · rw [run?_push, if_neg different]
  · rw [run?_push, if_pos rfl] at found
    cases found
    exact List.mem_append_right _ (List.mem_singleton_self _)
  · obtain ⟨run, found, -⟩ := cancelled.past _ member
    simp [run?] at found

theorem Attended.requestAll (attended : s.Attended) (registered : s.Registered)
    {requests : List (Request κ ω)} (spares : .cancelAll ∉ requests) :
    (s.requestAll requests).Attended := by
  induction requests generalizing s with
  | nil => exact attended
  | cons request rest ih =>
    obtain ⟨first, later⟩ := List.ne_and_not_mem_of_not_mem_cons spares
    have requested : (s.request request).Attended := by
      cases request with
      | schedule key work delay => exact attended.schedule registered key work delay
      | cancel key => exact attended.cancel registered key
      | cancelAll => exact absurd rfl first
    exact ih requested (registered.request request) later

omit [DecidableEq κ] in
theorem mem_queue_awaken {id : RunId} {run : Run κ ω} (found : s.run? id = some run)
    {deadline : Time} (awaits : run.phase.deadline? = some deadline) :
    .run id ∈ (s.awaken id).queue := by
  cases phase : run.phase with
  | delayed time => simp [awaken, found, phase, enqueue]
  | working time entry => simp [awaken, found, phase, enqueue]
  | created | due | resuming | ended => simp [phase, Phase.deadline?] at awaits

omit [DecidableEq κ] in
theorem Attended.awaken (attended : s.Attended) {id : RunId} {run : Run κ ω}
    (found : s.run? id = some run) {deadline : Time}
    (awaits : run.phase.deadline? = some deadline) : (s.awaken id).Attended := by
  have kept := queue_prefix_awaken s id
  have turn := mem_queue_awaken found awaits
  refine attended.ofChange id (fun other different => ?_)
    (fun other _ member => kept.subset member) (fun other _ => by rw [running_awaken])
    (fun later foundLater => ?_) fun member => ?_
  · rw [run?_awaken, if_neg different.symm]
  · rw [run?_awaken, if_pos rfl, found] at foundLater
    cases foundLater
    have attends := attended.runs id run found
    obtain ⟨key, work, delay, phase, cancelled⟩ := run
    cases phase with
    | delayed time => exact turn
    | working time entry =>
      exact ⟨attends.1, attends.2.1, by rw [running_awaken]; exact attends.2.2, turn⟩
    | created | due | resuming | ended => cases awaits
  · rw [running_awaken] at member
    exact (attended.past id member).keep (keeps_awaken s id)

end Attended

/-! ## Every step -/

section Steps

variable {rules : Rules κ ω μ} {s t : Scheduler κ ω μ} {log : List (Record ω)} {id : RunId}
  {run : Run κ ω} {rest : List (Turn μ)}

omit [DecidableEq κ] in
theorem mem_rest_of_ne (next : s.queue = .run id :: rest) {other : RunId} (different : other ≠ id)
    (member : .run other ∈ s.queue) : .run other ∈ rest := by
  rw [next] at member
  rcases List.mem_cons.mp member with first | later
  · cases first
    exact absurd rfl different
  · exact later

omit [DecidableEq κ] in
/-- The turn of a run that goes over to another phase. -/
theorem Attended.setPhase (attended : s.Attended) (found : s.run? id = some run)
    (next : s.queue = .run id :: rest) {phase : Phase} (runs : t.runs = (s.setPhase id phase).runs)
    (turns : rest <+: t.queue)
    (running : ∀ other, other ≠ id → (other ∈ t.running ↔ other ∈ s.running))
    (attends : t.Attends id { run with phase })
    (past : id ∈ t.running → ({ run with phase } : Run κ ω).waits = false) : t.Attended := by
  have view (other : RunId) : t.run? other = _ :=
    (congrArg (·[other]?) runs).trans (run?_setPhase s id other phase)
  have own : t.run? id = some { run with phase } :=
    (congrArg (·[id]?) runs).trans (run?_setPhase_self found phase)
  refine attended.ofChange id (fun other different => ?_)
    (fun other different member => turns.subset (mem_rest_of_ne next different member)) running
    (fun later foundLater => ?_) fun member => ⟨_, own, past member⟩
  · exact (view other).trans (if_neg different.symm)
  · cases foundLater.symm.trans own
    exact attends

theorem Attended.start (attended : s.Attended) (registered : s.Registered)
    (found : s.run? id = some run) (next : s.queue = .run id :: rest) (due : run.phase = .due)
    (wanted : run.cancelled = false) :
    (start rules { s with queue := rest } id run).2.Attended := by
  have shortened := registered.dequeue rest
  have running (other : RunId) (different : other ≠ id) :
      other ∈ s.running ++ [id] ↔ other ∈ s.running := by
    simp [different]
  rw [shortened.start_snd rules found (Run.waits_of_due due wanted)]
  dsimp only
  split
  · refine attended.setPhase found next rfl (List.prefix_append ..) running ?_ fun _ => rfl
    exact ⟨wanted, rfl, by simp [enqueue, Scheduler.setPhase], by simp [enqueue]⟩
  · refine attended.setPhase found next rfl List.prefix_rfl running ?_ fun _ => rfl
    exact ⟨wanted, rfl, by simp [Scheduler.setPhase]⟩

theorem Attended.finish (attended : s.Attended) (registered : s.Registered)
    (found : s.run? id = some run) (next : s.queue = .run id :: rest)
    (resuming : run.phase = .resuming (some id))
    (spares : .cancelAll ∉ (rules.course run.work).requests) :
    (finish rules { s with queue := rest } id run (some id)).2.Attended := by
  have ended := (registered.dequeue rest).setPhase_ended found resuming
  have past := run?_setPhase_self (s := { s with queue := rest }) found .ended
  have left : ({ s with queue := rest }.setPhase id .ended).Attended :=
    attended.setPhase found next rfl List.prefix_rfl (fun _ _ => Iff.rfl) trivial fun _ => rfl
  -- What is requested next does not matter to a run that has ended.
  have stays := run?_requestAll ended past rfl spares
  have requested := left.requestAll ended spares
  refine requested.ofChange id (fun _ _ => rfl) (fun _ _ member => member)
    (fun other different => ?_) (fun later foundLater => ?_) fun member => ?_
  · simp [Scheduler.finish, discard, different]
  · cases foundLater.symm.trans stays
    trivial
  · simp [Scheduler.finish, discard] at member

omit [DecidableEq κ] in
/-- The turn of a run that does not change. -/
theorem Attended.shorten (attended : s.Attended) (next : s.queue = .run id :: rest)
    (own : ∀ run, s.run? id = some run → Attends { s with queue := rest } id run) :
    Attended { s with queue := rest } := by
  exact attended.ofChange id (fun _ _ => rfl) (fun other => mem_rest_of_ne next)
    (fun _ _ => Iff.rfl) own fun member => attended.past id member

theorem Attended.resume (attended : s.Attended) (registered : s.Registered)
    (next : s.queue = .run id :: rest)
    (spares : ∀ run entry, s.run? id = some run → run.phase = .resuming entry →
      .cancelAll ∉ (rules.course run.work).requests) :
    ({ s with queue := rest }.resume rules id).2.Attended := by
  cases found : s.run? id with
  | none =>
    have absent : { s with queue := rest }.run? id = none := found
    rw [Scheduler.resume, absent]
    refine attended.shorten next fun run there => ?_
    cases absent.symm.trans there
  | some run =>
    have foundToo : { s with queue := rest }.run? id = some run := found
    have stays : ∀ other, other ≠ id → (other ∈ s.running ↔ other ∈ s.running) :=
      fun _ _ => Iff.rfl
    have attends := attended.runs id run found
    unfold Attends at attends
    simp only [Scheduler.resume, foundToo]
    split
    next => exact attended.setPhase found next rfl List.prefix_rfl stays trivial fun _ => rfl
    next => exact attended.setPhase found next rfl List.prefix_rfl stays trivial fun _ => rfl
    next created wanted =>
      have notRunning : id ∉ s.running := by
        intro member
        obtain ⟨_, there, gone⟩ := attended.past id member
        cases found.symm.trans there
        simp [Run.waits, created, wanted, Phase.isEarly] at gone
      dsimp only
      split
      · refine attended.setPhase found next rfl (List.prefix_append ..) stays ?_
          fun member => absurd member notRunning
        exact List.mem_append_right _ (List.mem_singleton_self _)
      · exact attended.setPhase found next rfl List.prefix_rfl stays wanted
          fun member => absurd member notRunning
    next due wanted => exact attended.start registered found next due wanted
    next entry resuming cancelled =>
      -- Nobody cancels work that has started.
      simp [resuming, cancelled] at attends
    next entry resuming wanted =>
      simp only [resuming] at attends
      obtain ⟨-, rfl, -⟩ := attends
      exact attended.finish registered found next resuming (spares run _ found resuming)
    next =>
      -- In any other phase the run does not wait for this turn.
      refine attended.shorten next fun other there => ?_
      cases found.symm.trans there
      unfold Attends
      cases phase : run.phase <;> rw [phase] at attends
      case delayed | working | ended => exact attends
      all_goals cases wanted : run.cancelled <;> simp_all

/-! ### The steps together -/

theorem Move.attended (move : Move rules s log t) (registered : s.Registered)
    (attended : s.Attended) : t.Attended := by
  cases move with
  | @request request spares =>
    have alone : .cancelAll ∉ [request] := by simpa using spares.symm
    exact attended.requestAll registered alone
  | send content =>
    exact ⟨fun id run found =>
      (attended.runs id run found).mono (List.mem_append_left _) fun member => member,
      attended.past⟩
  | @receive content rest next spares =>
    have shortened := registered.dequeue rest
    have left : Attended { s with queue := rest } := by
      refine ⟨fun id run found => (attended.runs id run found).mono (fun member => ?_)
        fun member => member, attended.past⟩
      rw [next] at member
      simpa using member
    exact left.requestAll shortened spares
  | turn next spares => exact attended.resume registered next spares
  | timer fires idle =>
    obtain ⟨id, run, deadline, found, awaits, -, rfl⟩ := fires
    have later : Attended { s with
        now := if deadline < s.now + Time.instant then s.now else deadline } :=
      ⟨attended.runs, attended.past⟩
    exact later.awaken found awaits
  | wait idle quiet => exact ⟨attended.runs, attended.past⟩

theorem Passage.attended (passage : Passage rules s log t) (registered : s.Registered)
    (attended : s.Attended) : t.Attended := by
  induction passage with
  | stay => exact attended
  | move passage move ih => exact move.attended (passage.registered registered) ih

end Steps

end Scheduler

end SceneScript
