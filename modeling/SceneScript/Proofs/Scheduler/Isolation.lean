import SceneScript.Proofs.Scheduler.Attendance

/-! # Work that has started

Once the work of a run has started nothing keeps it from its end, whatever is scheduled or cancelled
meanwhile and whatever becomes of other work. Who waits until no run is unfinished finds none that
waits and none at work.

* `Scheduler.AtWork` — a run at work, with the moment at which its work is to end;
* `Scheduler.Move.of_atWork`, `Scheduler.Move.of_hasEnded` — what a step does to such a run, and to
  one that has ended;
* `Scheduler.WorkFate` — the invariant: since its start a run is at work, or came to its own end;
* `Scheduler.Passage.withFailures` — whether work fails matters to nothing else;
* `Scheduler.quiet_of_unfinished_eq_nil`, `Scheduler.waitIdle_spec` — what waiting finds, and that
  the event loop waits like this;
* `Scheduler.isolated` — what follows for every passage.
-/

namespace SceneScript

/-- The work of a run has started and is not over. -/
def Phase.isBusy : Phase → Bool
  | .working _ _ | .resuming _ => true
  | .created | .delayed _ | .due | .ended => false

theorem Time.lt_add_instant (time : Time) : time < time + Time.instant :=
  Nat.lt_add_of_pos_right (by decide)

/-- How work ends. -/
def Course.outcome {κ ω : Type} (course : Course κ ω) : OccurrenceKind :=
  if course.fails then .failed else .done

namespace Scheduler

variable {κ ω μ : Type} [DecidableEq κ]

/-! ## A run at work -/

/-- The work of the run has started and is to end at `ends`. -/
def AtWork (s : Scheduler κ ω μ) (id : RunId) (work : ω) (ends : Time) : Prop :=
  ∃ run, s.run? id = some run ∧ run.work = work ∧
    match run.phase with
    | .working deadline _ => deadline = ends
    | .resuming _ => s.now ≤ ends ∧ ends < s.now + Time.instant
    | .created | .delayed _ | .due | .ended => False

/-- What is recorded of a run. -/
def recordsOf (id : RunId) (log : List (Record ω)) : List (Record ω) := log.filter (·.1 = id)

theorem recordsOf_append (id : RunId) (log more : List (Record ω)) :
    recordsOf id (log ++ more) = recordsOf id log ++ recordsOf id more := List.filter_append ..

theorem recordsOf_eq_nil {id : RunId} {log : List (Record ω)} :
    recordsOf id log = [] ↔ ∀ record ∈ log, record.1 ≠ id := by
  simp [recordsOf, List.filter_eq_nil_iff]

section Moves

variable {rules : Rules κ ω μ} {s t : Scheduler κ ω μ} {log more : List (Record ω)} {id : RunId}
  {work : ω} {ends : Time}

omit [DecidableEq κ] in
theorem hasEnded_iff : s.hasEnded id = true ↔ ∃ run, s.run? id = some run ∧ run.phase = .ended := by
  simp [hasEnded, Option.any_eq_true]

/-- The work is over, and the run ends, whatever the work requests. -/
theorem finish_of_resuming (registered : s.Registered) {run : Run κ ω}
    (found : s.run? id = some run) {entry : Option RunId} (resuming : run.phase = .resuming entry)
    (spares : .cancelAll ∉ (rules.course run.work).requests) :
    (finish rules s id run entry).1 =
        [⟨run.work, Course.outcome (rules.course run.work), s.now⟩] ∧
      (finish rules s id run entry).2.hasEnded id = true := by
  have ended := registered.setPhase_ended found resuming
  have past := run?_setPhase_self found .ended
  constructor
  · have now := (extends_requestAll (s.setPhase id .ended) (rules.course run.work).requests).now
    simp only [finish, occurrence, now, Course.outcome]
    rfl
  · exact hasEnded_iff.mpr ⟨_, run?_requestAll ended past rfl spares, rfl⟩

omit [DecidableEq κ] in
theorem AtWork.over (atWork : s.AtWork id work ends) : s.Over id := by
  obtain ⟨run, found, -, busy⟩ := atWork
  refine ⟨run, found, ?_⟩
  cases phase : run.phase <;> simp [phase, Run.waits, Phase.isEarly] at busy ⊢

omit [DecidableEq κ] in
/-- Where the run stays as it is, it is still at work. While it has a turn to come, no time
passes. -/
theorem AtWork.keep (atWork : s.AtWork id work ends) (attended : s.Attended)
    (same : t.run? id = s.run? id) (still : s.queue = [] ∨ t.now = s.now) :
    t.AtWork id work ends := by
  obtain ⟨run, found, sameWork, busy⟩ := atWork
  have attends := attended.runs id run found
  unfold Attends at attends
  refine ⟨run, same.trans found, sameWork, ?_⟩
  cases phase : run.phase <;> simp only [phase] at busy attends ⊢
  case working => exact busy
  case resuming =>
    rcases still with idle | frozen
    · rw [idle] at attends
      cases attends.2.2.2
    · rwa [frozen]

omit [DecidableEq κ] in
/-- When the timer of the run fires, the end of its work is less than an instant away. -/
theorem AtWork.awaken (atWork : s.AtWork id work ends) (upcoming : s.Upcoming) {run : Run κ ω}
    (found : s.run? id = some run) {deadline : Time}
    (awaits : run.phase.deadline? = some deadline)
    (own : t.run? id = some { run with phase := run.phase.awakened })
    (now : t.now = if deadline < s.now + Time.instant then s.now else deadline) :
    t.AtWork id work ends := by
  obtain ⟨_, foundToo, sameWork, busy⟩ := atWork
  cases found.symm.trans foundToo
  have notPast := upcoming id run deadline found awaits
  refine ⟨_, own, sameWork, ?_⟩
  cases phase : run.phase <;> simp only [phase] at busy awaits ⊢
  case working time entry =>
    cases awaits
    subst busy
    simp only [Phase.awakened, now]
    split
    next near => exact ⟨notPast, near⟩
    next => exact ⟨Nat.le_refl _, Time.lt_add_instant _⟩
  case resuming => cases awaits

/-- At its own turn the run comes to its end, or it has to wait for the clock. -/
theorem AtWork.resume {rest : List (Turn μ)} (atWork : s.AtWork id work ends)
    (registered : s.Registered) (attended : s.Attended) {run : Run κ ω}
    (found : s.run? id = some run)
    (spares : ∀ entry, run.phase = .resuming entry →
      .cancelAll ∉ (rules.course run.work).requests) :
    (({ s with queue := rest }.resume rules id).2.AtWork id work ends ∧
      ({ s with queue := rest }.resume rules id).1 = []) ∨
    (({ s with queue := rest }.resume rules id).1 = [⟨work, (rules.course work).outcome, s.now⟩] ∧
      s.now ≤ ends ∧ ends < s.now + Time.instant ∧
      ({ s with queue := rest }.resume rules id).2.hasEnded id = true) := by
  obtain ⟨_, foundToo, sameWork, busy⟩ := atWork
  cases found.symm.trans foundToo
  have here : { s with queue := rest }.run? id = some run := found
  have attends := attended.runs id run found
  unfold Attends at attends
  cases phase : run.phase <;> simp only [phase] at busy attends
  case working =>
    simp only [Scheduler.resume, here, phase]
    exact .inl ⟨⟨run, here, sameWork, by simpa only [phase] using busy⟩, trivial⟩
  case resuming entry =>
    have shortened := registered.dequeue rest
    obtain ⟨recorded, ended⟩ := finish_of_resuming shortened here phase (spares entry phase)
    have resumed : { s with queue := rest }.resume rules id =
        finish rules { s with queue := rest } id run entry := by
      simp only [Scheduler.resume, here, phase, attends.1]
    rw [resumed, recorded, sameWork]
    exact .inr ⟨rfl, busy.1, busy.2, ended⟩

/-- A run at work goes on, or its work is over at the moment that is meant for it. -/
theorem Move.of_atWork (move : Move rules s log t) (registered : s.Registered)
    (attended : s.Attended) (atWork : s.AtWork id work ends) :
    (t.AtWork id work ends ∧ recordsOf id log = []) ∨
    (∃ last, log = [(id, ⟨work, (rules.course work).outcome, last⟩)] ∧ last ≤ ends ∧
      ends < last + Time.instant ∧ t.hasEnded id = true) := by
  obtain ⟨run, found, past⟩ := atWork.over
  rcases move.of_not_waits registered found past with
    ⟨same, still, others⟩ | ⟨rest, -, spares, rfl, rfl⟩ | ⟨deadline, awaits, rfl, own, now⟩
  · exact .inl ⟨atWork.keep attended (same.trans found.symm) still, recordsOf_eq_nil.mpr others⟩
  · rcases atWork.resume registered attended found spares with
      ⟨goesOn, nothing⟩ | ⟨recorded, notLate, notEarly, ended⟩
    · exact .inl ⟨goesOn, by rw [nothing]; rfl⟩
    · exact .inr ⟨s.now, by rw [recorded]; rfl, notLate, notEarly, ended⟩
  · exact .inl ⟨atWork.awaken registered.upcoming found awaits own now, rfl⟩

theorem Move.of_hasEnded (move : Move rules s log t) (registered : s.Registered)
    (ended : s.hasEnded id = true) : t.hasEnded id = true ∧ recordsOf id log = [] := by
  obtain ⟨run, found, phase⟩ := hasEnded_iff.mp ended
  have past : run.waits = false := by simp [Run.waits, phase, Phase.isEarly]
  rcases move.of_not_waits registered found past with
    ⟨foundToo, still, others⟩ | ⟨rest, next, spares, rfl, rfl⟩ |
    ⟨deadline, awaits, rfl, foundToo, now⟩
  · exact ⟨hasEnded_iff.mpr ⟨run, foundToo, phase⟩, recordsOf_eq_nil.mpr others⟩
  · have foundToo : { s with queue := rest }.run? id = some run := found
    simp only [resume, foundToo, phase]
    exact ⟨ended, rfl⟩
  · rw [phase] at awaits
    cases awaits

/-! ## What is recorded -/

/-- A run that starts is at work. -/
theorem atWork_start (rules : Rules κ ω μ) {s : Scheduler κ ω μ} (registered : s.Registered)
    {run : Run κ ω} (found : s.run? id = some run) (waits : run.waits = true) :
    (s.start rules id run).2.AtWork id run.work
      (s.now + (rules.course run.work).duration) := by
  have own (phase : Phase) := run?_setPhase_self found phase
  rw [registered.start_snd rules found waits]
  dsimp only
  split
  next atOnce =>
    refine ⟨_, own (.resuming _), rfl, ?_⟩
    rw [atOnce]
    exact ⟨Nat.le_refl _, Time.lt_add_instant _⟩
  next => exact ⟨_, own (.working _ _), rfl, rfl⟩

/-- With a turn at most one thing happens, and after that the run does not wait. -/
theorem resume_records (rules : Rules κ ω μ) {s : Scheduler κ ω μ} (registered : s.Registered)
    (spares : ∀ run entry, s.run? id = some run → run.phase = .resuming entry →
      .cancelAll ∉ (rules.course run.work).requests) :
    (s.resume rules id).1 = [] ∨
      ∃ occurrence, (s.resume rules id).1 = [occurrence] ∧ (s.resume rules id).2.Over id ∧
        (occurrence.kind = .started → (∃ key, s.IsWaiting id key) ∧
          (s.resume rules id).2.AtWork id occurrence.work
            (occurrence.time + (rules.course occurrence.work).duration)) := by
  cases found : s.run? id with
  | none => exact .inl (by rw [resume, found])
  | some run =>
    simp only [resume, found]
    split
    next => exact .inl rfl
    next => exact .inl rfl
    next => exact .inl rfl
    next due wanted =>
      have waits := Run.waits_of_due due wanted
      have atWork := atWork_start rules registered found waits
      refine .inr ⟨⟨run.work, .started, s.now⟩, rfl, atWork.over, ?_⟩
      exact fun _ => ⟨⟨run.key, run, found, rfl, waits⟩, atWork⟩
    next cancelled =>
      refine .inr ⟨_, rfl, ⟨_, run?_setPhase_self found .ended, rfl⟩, fun started => ?_⟩
      cases started
    next resuming wanted =>
      obtain ⟨recorded, ended⟩ := finish_of_resuming registered found resuming
        (spares run _ found resuming)
      obtain ⟨last, foundLast, phase⟩ := hasEnded_iff.mp ended
      refine .inr ⟨_, recorded, ⟨last, foundLast, by simp [Run.waits, phase, Phase.isEarly]⟩, ?_⟩
      -- However work ends, that is no start.
      intro started
      simp only [Course.outcome] at started
      split at started <;> cases started
    next => exact .inl rfl

/-- So with a step at most one thing happens. -/
theorem Move.of_record (move : Move rules s log t) (registered : s.Registered) :
    log = [] ∨ ∃ id occurrence, log = [(id, occurrence)] ∧ t.Over id ∧
      (occurrence.kind = .started → (∃ key, s.IsWaiting id key) ∧
        t.AtWork id occurrence.work
          (occurrence.time + (rules.course occurrence.work).duration)) := by
  cases move with
  | @turn id rest next spares =>
    have shortened := registered.dequeue rest
    rcases resume_records rules shortened spares with nothing | ⟨occurrence, recorded, happened⟩
    · exact .inl (by rw [nothing]; rfl)
    · exact .inr ⟨id, occurrence, by rw [recorded]; rfl, happened⟩
  | request | send | receive | timer | wait => exact .inl rfl

/-- What has been recorded of a run has been recorded after it waited. -/
theorem Passage.over_of_record (passage : Passage rules s log t) (registered : s.Registered) :
    ∀ record ∈ log, t.Over record.1 := by
  induction passage with
  | stay => simp
  | move passage move ih =>
    have registeredThen := passage.registered registered
    intro record member
    rcases List.mem_append.mp member with earlier | now
    · exact (ih record earlier).keep (move.keeps registeredThen)
    · rcases move.of_record registeredThen with rfl | ⟨id, occurrence, rfl, past, -⟩
      · cases now
      · cases List.mem_singleton.mp now
        exact past

/-! ## What becomes of work that has started -/

/-- Since its start the run is at work, or its work came to its own end, of which there is one
record. -/
def WorkFate (rules : Rules κ ω μ) (id : RunId) (work : ω) (ends : Time) (log : List (Record ω))
    (s : Scheduler κ ω μ) : Prop :=
  (s.AtWork id work ends ∧ recordsOf id log = []) ∨
  ∃ last, recordsOf id log = [(id, ⟨work, (rules.course work).outcome, last⟩)] ∧ last ≤ ends ∧
    ends < last + Time.instant ∧ s.hasEnded id = true

theorem WorkFate.move (fate : WorkFate rules id work ends log s) (move : Move rules s more t)
    (registered : s.Registered) (attended : s.Attended) :
    WorkFate rules id work ends (log ++ more) t := by
  unfold WorkFate
  rw [recordsOf_append]
  rcases fate with ⟨atWork, quiet⟩ | ⟨last, recorded, notLate, notEarly, ended⟩
  · rw [quiet, List.nil_append]
    rcases move.of_atWork registered attended atWork with
      goesOn | ⟨last, rfl, notLate, notEarly, ended⟩
    · exact .inl goesOn
    · exact .inr ⟨last, by simp [recordsOf], notLate, notEarly, ended⟩
  · obtain ⟨stillEnded, quiet⟩ := move.of_hasEnded registered ended
    rw [recorded, quiet, List.append_nil]
    exact .inr ⟨last, rfl, notLate, notEarly, stillEnded⟩

theorem Passage.workFate {before after : List (Record ω)} {moment : Time}
    (passage : Passage rules s log t) (registered : s.Registered) (attended : s.Attended)
    (split : log = before ++ (id, ⟨work, .started, moment⟩) :: after) :
    recordsOf id before = [] ∧
      WorkFate rules id work (moment + (rules.course work).duration) after t := by
  -- The last record is the start itself, or belongs to what came after it.
  induction passage generalizing after with
  | stay => simp at split
  | @move log more t u passage move ih =>
    have registeredThen := passage.registered registered
    have attendedThen := passage.attended registered attended
    rcases move.of_record registeredThen with rfl | ⟨other, occurrence, rfl, past, started⟩
    · obtain ⟨never, fate⟩ := ih (by simpa using split)
      exact ⟨never, by simpa using fate.move move registeredThen attendedThen⟩
    · rcases List.eq_nil_or_concat after with rfl | ⟨earlier, last, rfl⟩
      · obtain ⟨rfl, same⟩ := List.append_inj' split rfl
        cases same
        obtain ⟨⟨key, run, found, -, waits⟩, atWork⟩ := started rfl
        refine ⟨recordsOf_eq_nil.mpr fun record member same => ?_, .inl ⟨atWork, rfl⟩⟩
        -- A run that has a record no longer waits.
        obtain ⟨_, foundToo, gone⟩ := passage.over_of_record registered record member
        rw [same] at foundToo
        cases found.symm.trans foundToo
        exact absurd waits (by simp [gone])
      · have regrouped : log ++ [(other, occurrence)] =
            (before ++ (id, ⟨work, .started, moment⟩) :: earlier) ++ [last] := by
          simpa using split
        obtain ⟨splitBefore, same⟩ := List.append_inj' regrouped rfl
        obtain ⟨never, fate⟩ := ih splitBefore
        rw [List.concat_eq_append, ← same]
        exact ⟨never, fate.move move registeredThen attendedThen⟩

/-- When the moment has passed at which work is to end, it has ended. -/
theorem AtWork.not_hasPassed (atWork : s.AtWork id work ends) (upcoming : s.Upcoming)
    (attended : s.Attended) : ¬ s.HasPassed rules ends := by
  obtain ⟨run, found, -, busy⟩ := atWork
  have attends := attended.runs id run found
  unfold Attends at attends
  rintro (beyond | rest)
  · -- The clock does not pass a run at work.
    have notBeyond : s.now ≤ ends := by
      cases phase : run.phase <;> simp only [phase] at busy
      case working deadline entry =>
        exact busy ▸ upcoming id run deadline found (by rw [phase]; rfl)
      case resuming => exact busy.1
    exact Nat.not_lt.mpr notBeyond beyond
  · -- A run at work has a deadline up to its moment, or a turn in the queue.
    obtain ⟨idle, quiet⟩ := step?_eq_none.mp rest
    cases phase : run.phase <;> simp only [phase] at busy attends
    case working deadline entry =>
      have awaits : run.phase.deadline? = some deadline := by rw [phase]; rfl
      exact Nat.ne_of_gt (lt_of_fireTimer?_eq_none quiet found awaits) busy
    case resuming =>
      rw [idle] at attends
      cases attends.2.2.2

/-! ## Work that fails -/

section Failures

variable (fails : ω → Bool)

/-- Whether work fails is told by its record and by nothing else. -/
theorem resume_withFailures (s : Scheduler κ ω μ) (id : RunId) :
    s.resume (rules.withFailures fails) id =
      ((s.resume rules id).1.map (·.withFailures fails), (s.resume rules id).2) := by
  cases found : s.run? id with
  | none => simp only [resume, found, List.map_nil]
  | some run =>
    simp only [resume, found]
    split
    next => rfl
    next => rfl
    next => rfl
    next => rfl
    next => rfl
    next =>
      have outcome (kind : OccurrenceKind) (ending : kind = .failed ∨ kind = .done) (now : Time) :
          Occurrence.withFailures fails ⟨run.work, kind, now⟩ =
            ⟨run.work, if fails run.work then .failed else .done, now⟩ := by
        rcases ending with rfl | rfl <;> rfl
      simp only [finish, occurrence, Rules.withFailures, List.map_cons, List.map_nil]
      rw [outcome _ (by split <;> simp)]
      rfl
    next => rfl

theorem Move.withFailures (move : Move rules s log t) :
    Move (rules.withFailures fails) s (log.map (Record.withFailures fails)) t := by
  cases move with
  | request spares => exact .request spares
  | send content => exact .send s content
  | receive next spares => exact .receive next spares
  | turn next spares =>
    have turned : Move (rules.withFailures fails) s _ _ := .turn next spares
    rw [resume_withFailures, List.map_map] at turned
    rw [List.map_map]
    exact turned
  | timer fires idle => exact .timer fires idle
  | wait idle quiet => exact .wait idle quiet

/-- If other work failed, everything else would happen just the same. -/
theorem Passage.withFailures (passage : Passage rules s log t) :
    Passage (rules.withFailures fails) s (log.map (Record.withFailures fails)) t := by
  induction passage with
  | stay => exact .stay
  | move passage move ih =>
    rw [List.map_append]
    exact ih.move (move.withFailures fails)

end Failures

/-! ## Waiting until no run is unfinished -/

section Waiting

variable {run : Run κ ω} (registered : s.Registered) (attended : s.Attended)

include registered attended

/-- A run that waits or is at work is unfinished. -/
theorem mem_unfinished (found : s.run? id = some run)
    (lives : run.waits = true ∨ run.phase.isBusy = true) : id ∈ s.unfinished := by
  rw [unfinished, List.mem_filter, List.mem_append]
  rcases lives with waits | busy
  · have entry := (registered.entry run.key id).mpr ⟨run, found, rfl, waits⟩
    have listed := (OrderedMap.get?_eq_some_iff registered.distinct).mp entry
    exact ⟨.inl (List.mem_map_of_mem (f := Prod.snd) listed),
      by simp [registered.not_hasEnded entry]⟩
  · have attends := attended.runs id run found
    unfold Attends at attends
    cases phase : run.phase <;> simp only [phase, Phase.isBusy] at busy attends
    case working => exact ⟨.inr attends.2.2, by simp [hasEnded, found, phase]⟩
    case resuming => exact ⟨.inr attends.2.2.1, by simp [hasEnded, found, phase]⟩
    all_goals cases busy

/-- Where nothing is unfinished, no run waits and none is at work. -/
theorem quiet_of_unfinished_eq_nil (none : s.unfinished = []) (found : s.run? id = some run) :
    run.waits = false ∧ run.phase.isBusy = false := by
  have gone : ¬ (run.waits = true ∨ run.phase.isBusy = true) := by
    intro lives
    have member := mem_unfinished registered attended found lives
    rw [none] at member
    cases member
  simpa using gone

theorem exists_of_mem_unfinished (member : id ∈ s.unfinished) : ∃ run, s.run? id = some run := by
  rw [unfinished, List.mem_filter, List.mem_append] at member
  rcases member.1 with waits | running
  · obtain ⟨⟨key, _⟩, listed, rfl⟩ := List.mem_map.mp waits
    have entry := (OrderedMap.get?_eq_some_iff registered.distinct).mpr listed
    obtain ⟨run, found, -⟩ := (registered.entry key _).mp entry
    exact ⟨run, found⟩
  · obtain ⟨run, found, -⟩ := attended.past id running
    exact ⟨run, found⟩

/-- Where no turn is left and nothing is unfinished, all runs have ended. -/
theorem hasEnded_of_rest (idle : s.queue = []) (none : s.unfinished = [])
    (found : s.run? id = some run) : s.hasEnded id = true := by
  obtain ⟨past, notBusy⟩ := quiet_of_unfinished_eq_nil registered attended none found
  have attends := attended.runs id run found
  unfold Attends at attends
  cases phase : run.phase with
  | created | due =>
    simp only [phase, idle] at attends
    cases attends
  | delayed =>
    simp only [phase] at attends
    simp [Run.waits, phase, attends, Phase.isEarly] at past
  | working | resuming =>
    rw [phase] at notBusy
    cases notBusy
  | ended => exact hasEnded_iff.mpr ⟨run, found, phase⟩

end Waiting

theorem WaitsIdle.unfinished_eq_nil (waits : WaitsIdle rules s log t) : t.unfinished = [] := by
  induction waits with
  | idle none => exact none
  | round _ _ _ _ ih => exact ih

theorem waitIdle_succ (rules : Rules κ ω μ) (fuel : Nat) (limit : Option Time) (rounds : Nat)
    {s : Scheduler κ ω μ} (some : s.unfinished ≠ []) :
    s.waitIdle rules fuel limit (rounds + 1) =
      let (occurrences, t) :=
        s.runUntil rules limit (fun t => s.unfinished.all t.hasEnded) fuel
      if s.unfinished.all t.hasEnded then
        let (isOver, later, u) := t.waitIdle rules fuel limit rounds
        (isOver, occurrences ++ later, u)
      else (false, occurrences, t) := by
  rw [waitIdle]
  split
  next none => exact absurd none some
  next => rfl

/-- So does the event loop wait; a wait that is not over leaves a turn or a run behind. -/
theorem waitIdle_spec (sparing : rules.Sparing) (fuel : Nat) (limit : Option Time) (rounds : Nat)
    {s t : Scheduler κ ω μ} {isOver : Bool} {occurrences : List (Occurrence ω)}
    (registered : s.Registered) (attended : s.Attended)
    (waited : s.waitIdle rules fuel limit rounds = (isOver, occurrences, t)) :
    (isOver = true → ∃ log, WaitsIdle rules s log t ∧ log.map Prod.snd = occurrences) ∧
      (isOver = false → t.queue ≠ [] ∨ t.unfinished ≠ []) := by
  induction rounds generalizing s occurrences with
  | zero =>
    cases waited
    refine ⟨fun none => ⟨[], .idle (of_decide_eq_true none), rfl⟩, fun some => ?_⟩
    exact .inr (of_decide_eq_false some)
  | succ rounds ih =>
    by_cases nothing : s.unfinished = []
    · rw [waitIdle, nothing] at waited
      cases waited
      exact ⟨fun _ => ⟨[], .idle nothing, rfl⟩, nofun⟩
    rw [waitIdle_succ rules fuel limit rounds nothing] at waited
    obtain ⟨log, passage, recorded⟩ :=
      passage_runUntil sparing limit (fun t => s.unfinished.all t.hasEnded) fuel s
    generalize s.runUntil rules limit (fun t => s.unfinished.all t.hasEnded) fuel = reached
      at waited passage recorded
    obtain ⟨first, u⟩ := reached
    have registeredThen := passage.registered registered
    have attendedThen := passage.attended registered attended
    dsimp only at waited passage recorded
    split at waited
    next ended =>
      cases waited
      obtain ⟨whenTrue, whenFalse⟩ := ih registeredThen attendedThen rfl
      refine ⟨fun isOver => ?_, whenFalse⟩
      obtain ⟨more, later, recordedLater⟩ := whenTrue isOver
      refine ⟨log ++ more, .round nothing passage ended later, ?_⟩
      rw [List.map_append, recorded, recordedLater]
    next going =>
      cases waited
      refine ⟨nofun, fun _ => Decidable.or_iff_not_imp_left.mpr fun stillIdle none => ?_⟩
      have idle : t.queue = [] := Decidable.not_not.mp stillIdle
      -- At rest all runs have ended, and so have those that were waited for.
      refine going (List.all_eq_true.mpr fun id member => ?_)
      obtain ⟨run, found⟩ := exists_of_mem_unfinished registered attended member
      obtain ⟨events, history⟩ := passage.history
      obtain ⟨later, foundLater, -⟩ := history.keeps registered id run found
      exact hasEnded_of_rest registeredThen attendedThen idle none foundLater

/-! ## The law of isolation -/

/-- Unless everything is cancelled, work that has started is still before its end or has come to it,
once and in its own way and to within an instant, whatever else is requested and whenever. Whether
other work fails makes no difference to all this. Whoever waits until no run is unfinished finds
none that waits and none at work. The event loop waits like this, unless it has to give up while a
turn or a run is left. -/
theorem isolated {defaultDelay now : Time} (passage : Passage rules { defaultDelay, now } log s) :
    (∀ before id work moment after, log = before ++ (id, ⟨work, .started, moment⟩) :: after →
      let ends := moment + (rules.course work).duration
      recordsOf id before = [] ∧
      ((s.AtWork id work ends ∧ recordsOf id after = [] ∧ ¬ s.HasPassed rules ends) ∨
        ∃ last, recordsOf id after = [(id, ⟨work, (rules.course work).outcome, last⟩)] ∧
          last ≤ ends ∧ ends < last + Time.instant ∧ s.hasEnded id = true)) ∧
    (∀ fails, Passage (rules.withFailures fails) { defaultDelay, now }
      (log.map (Record.withFailures fails)) s) ∧
    (∀ more t, WaitsIdle rules s more t → ∀ id run, t.run? id = some run →
      run.waits = false ∧ run.phase.isBusy = false) ∧
    (rules.Sparing → ∀ fuel limit rounds isOver occurrences t,
      s.waitIdle rules fuel limit rounds = (isOver, occurrences, t) →
        (isOver = true → ∃ more, WaitsIdle rules s more t ∧ more.map Prod.snd = occurrences) ∧
        (isOver = false → t.queue ≠ [] ∨ t.unfinished ≠ [])) := by
  have registeredAtStart : Registered ({ defaultDelay, now } : Scheduler κ ω μ) :=
    registered_start defaultDelay now
  have attendedAtStart : Attended ({ defaultDelay, now } : Scheduler κ ω μ) :=
    attended_start defaultDelay now
  have registered := passage.registered registeredAtStart
  have attended := passage.attended registeredAtStart attendedAtStart
  refine ⟨?_, fun fails => passage.withFailures fails, ?_, ?_⟩
  · intro before id work moment after split ends
    obtain ⟨never, fate⟩ := passage.workFate registeredAtStart attendedAtStart split
    refine ⟨never, fate.imp_left fun ⟨atWork, quiet⟩ => ⟨atWork, quiet, ?_⟩⟩
    exact atWork.not_hasPassed registered.upcoming attended
  · intro more t waits id run found
    have registeredThen := waits.passage.registered registered
    have attendedThen := waits.passage.attended registered attended
    exact quiet_of_unfinished_eq_nil registeredThen attendedThen waits.unfinished_eq_nil found
  · intro sparing fuel limit rounds isOver occurrences t waited
    exact waitIdle_spec sparing fuel limit rounds registered attended waited

end Moves

/-- Work of two lengths, of which the longer one fails. -/
def Rules.unequal : Rules Unit Bool Unit :=
  ⟨fun long => if long then { duration := 5000, fails := true } else { duration := 2000 },
    fun _ _ => []⟩

/-- Two runs of one key at work. -/
def overlap : Scheduler Unit Bool Unit where
  defaultDelay := 0
  runs :=
    [{ key := (), work := false, delay := 0, phase := .working 2000 (some 0) },
     { key := (), work := true, delay := 0, phase := .working 5000 (some 1) }]
  running := [0, 1]

/-- Both come to their own ends, and who waits for them finds no run at work. -/
theorem isolated_overlap :
    Passage .unequal { defaultDelay := 0 }
      [(0, ⟨false, .started, 0⟩), (1, ⟨true, .started, 0⟩)] overlap ∧
    overlap.AtWork 0 false 2000 ∧ overlap.AtWork 1 true 5000 ∧
    ∃ t, WaitsIdle .unequal overlap [(0, ⟨false, .done, 2000⟩), (1, ⟨true, .failed, 5000⟩)] t ∧
      ∀ id run, t.run? id = some run → run.waits = false ∧ run.phase.isBusy = false := by
  have silent {s : Scheduler Unit Bool Unit} {id : RunId} (run : Run Unit Bool)
      (entry : Option RunId) (_ : s.run? id = some run) (_ : run.phase = .resuming entry) :
      .cancelAll ∉ (Rules.unequal.course run.work).requests := by
    cases run.work <;> decide
  have schedules (s : Scheduler Unit Bool Unit) (long : Bool) :
      Move .unequal s [] (s.request (.schedule () long none)) := .request nofun
  -- Both runs start before any time passes.
  have first : Passage .unequal { defaultDelay := 0 } _ _ := .single (schedules _ false)
  have firstStarts := (first.move (.turn rfl silent)).move (.turn rfl silent)
  have second := firstStarts.move (schedules _ true)
  have secondStarts := (second.move (.turn rfl silent)).move (.turn rfl silent)
  have started : Passage .unequal { defaultDelay := 0 }
      [(0, ⟨false, .started, 0⟩), (1, ⟨true, .started, 0⟩)] overlap := secondStarts
  -- Then each of them ends when its own timer has fired.
  have firstDue : Passage .unequal overlap _ _ :=
    .single (.timer (fires_of_fireTimer? none rfl) (.inl rfl))
  have firstEnds := firstDue.move (.turn rfl silent)
  have secondDue := firstEnds.move (.timer (fires_of_fireTimer? none rfl) (.inl rfl))
  have secondEnds := secondDue.move (.turn rfl silent)
  have bothEnd := secondEnds.ofEq
    (show _ = [(0, ⟨false, .done, 2000⟩), (1, ⟨true, .failed, 5000⟩)] by decide +kernel)
  have waits := WaitsIdle.round (by decide +kernel) bothEnd (by decide +kernel)
    (.idle (by decide +kernel))
  obtain ⟨works, -, quiet, -⟩ := isolated started
  obtain ⟨-, firstWork | ⟨last, ended, -⟩⟩ := works [] 0 false 0 _ rfl
  · obtain ⟨-, secondWork | ⟨last, ended, -⟩⟩ := works [(0, ⟨false, .started, 0⟩)] 1 true 0 _ rfl
    · exact ⟨started, firstWork.1, secondWork.1, _, waits, quiet _ _ waits⟩
    · cases ended
  · cases ended

end Scheduler

end SceneScript
