import SceneScript.Proofs.Scheduler.Keeping

/-! # Runs that wait

The waiting table holds exactly the runs that have not started and are not cancelled, each under its
own key. It stays so although a run that starts takes out whatever stands under its key.

* `Scheduler.IsWaiting` — a run of a key that has not started and is not cancelled;
* `Scheduler.Registered` — the invariant: the table tells which runs wait, and no deadline is past;
* `Scheduler.Step.registered`, `Scheduler.Step.keeps`, `Scheduler.History.registered` — every step
  keeps it, and takes nothing back;
* `Scheduler.Registered.isPending_eq_true`, `Scheduler.Registered.pendingCount_eq` — what the
  questions answer.
-/

namespace SceneScript.Scheduler

variable {κ ω μ : Type}

/-! ## The waiting table -/

/-- The run of a key that has not started and is not cancelled. -/
def IsWaiting (s : Scheduler κ ω μ) (id : RunId) (key : κ) : Prop :=
  ∃ run, s.run? id = some run ∧ run.key = key ∧ run.waits = true

theorem IsWaiting.key_unique {s : Scheduler κ ω μ} {id : RunId} {key k : κ}
    (waits : s.IsWaiting id key) (waitsToo : s.IsWaiting id k) : key = k := by
  obtain ⟨run, found, same, -⟩ := waits
  obtain ⟨_, foundToo, sameToo, -⟩ := waitsToo
  cases found.symm.trans foundToo
  exact same.symm.trans sameToo

theorem isWaiting_interrupt {s : Scheduler κ ω μ} {id other : RunId} {key : κ} :
    (s.interrupt id).IsWaiting other key ↔ other ≠ id ∧ s.IsWaiting other key := by
  simp only [IsWaiting, run?_interrupt]
  by_cases same : id = other
  · simp [same, Run.waits]
  · simp [same, Ne.symm same]

theorem isWaiting_push {s : Scheduler κ ω μ} {run : Run κ ω} {waiting : OrderedMap κ RunId}
    {queue : List (Turn μ)} {id : RunId} {key : κ} (waits : run.waits = true) :
    IsWaiting { s with runs := s.runs ++ [run], waiting, queue } id key ↔
      (id = s.runs.length ∧ run.key = key) ∨ s.IsWaiting id key := by
  simp only [IsWaiting, run?_push]
  split
  next same =>
    subst same
    have fresh : s.run? s.runs.length = none := by simp [run?]
    simp [waits, fresh]
  next different => simp [different]

variable [DecidableEq κ]

structure Registered (s : Scheduler κ ω μ) : Prop where
  distinct : s.waiting.keys.Nodup
  entry : ∀ key id, s.waiting.get? key = some id ↔ s.IsWaiting id key
  upcoming : s.Upcoming

theorem registered_start (defaultDelay now : Time) :
    ({ defaultDelay, now } : Scheduler κ ω μ).Registered where
  distinct := List.nodup_nil
  entry := by simp [IsWaiting, run?]
  upcoming := by simp [Upcoming, run?]

namespace Registered

variable {s : Scheduler κ ω μ} (registered : s.Registered)

include registered

/-- The queue and the running work do not matter. -/
theorem ofSameRuns {t : Scheduler κ ω μ} (runs : t.runs = s.runs) (waiting : t.waiting = s.waiting)
    (now : t.now = s.now) : t.Registered := by
  cases t
  subst runs waiting now
  exact ⟨registered.distinct, registered.entry, registered.upcoming⟩

theorem unique {key : κ} {id other : RunId} (waits : s.IsWaiting id key)
    (waitsToo : s.IsWaiting other key) : id = other :=
  Option.some.inj
    (((registered.entry key id).mpr waits).symm.trans ((registered.entry key other).mpr waitsToo))

/-- What stands in the table has not ended. -/
theorem not_hasEnded {key : κ} {id : RunId} (entry : s.waiting.get? key = some id) :
    s.hasEnded id = false := by
  obtain ⟨run, found, -, waits⟩ := (registered.entry key id).mp entry
  cases phase : run.phase <;> simp_all [hasEnded, Run.waits, Phase.isEarly]

theorem cancel_of_waiting {key : κ} {id : RunId} (entry : s.waiting.get? key = some id) :
    s.cancel key = (true, { s with waiting := s.waiting.erase key }.interrupt id) := by
  simp [Scheduler.cancel, entry, registered.not_hasEnded entry]

omit registered in
theorem cancel_of_absent {key : κ} (absent : s.waiting.get? key = none) :
    s.cancel key = (false, s) := by
  simp [Scheduler.cancel, absent]

/-- An entry that is taken out is missed for the run that waits under it, and for no other. -/
theorem get?_erase_iff {key k : κ} {id other : RunId} (waits : s.IsWaiting id key) :
    (s.waiting.erase key).get? k = some other ↔ other ≠ id ∧ s.IsWaiting other k := by
  rw [OrderedMap.get?_erase]
  split
  next same =>
    subst same
    simpa using fun different waitsToo => different (registered.unique waitsToo waits)
  next different =>
    rw [registered.entry]
    refine ⟨fun waitsToo => ⟨?_, waitsToo⟩, And.right⟩
    rintro rfl
    exact different (waits.key_unique waitsToo)

theorem cancel (key : κ) : (s.cancel key).2.Registered := by
  cases entry : s.waiting.get? key with
  | none => rw [cancel_of_absent entry]; exact registered
  | some id =>
    rw [registered.cancel_of_waiting entry]
    refine ⟨?_, fun k other => ?_, ?_⟩
    · rw [waiting_interrupt]
      exact OrderedMap.nodup_keys_erase registered.distinct key
    · rw [waiting_interrupt, isWaiting_interrupt]
      exact registered.get?_erase_iff ((registered.entry key id).mp entry)
    · exact Upcoming.interrupt (s := { s with waiting := s.waiting.erase key })
        registered.upcoming id

/-- Of a run that has started the table knows nothing. -/
theorem interrupt_of_not_waiting {id : RunId} (started : ∀ key, ¬ s.IsWaiting id key) :
    (s.interrupt id).Registered := by
  refine ⟨?_, fun key other => ?_, registered.upcoming.interrupt id⟩
  · rw [waiting_interrupt]
    exact registered.distinct
  · rw [waiting_interrupt, isWaiting_interrupt, registered.entry]
    refine ⟨fun waits => ⟨?_, waits⟩, And.right⟩
    rintro rfl
    exact started key waits

theorem schedule (key : κ) (work : ω) (delay : Option Time) :
    (s.schedule key work delay).Registered := by
  have cancelled := registered.cancel key
  have absent := waiting_cancel s key key
  rw [if_pos rfl] at absent
  simp only [Scheduler.schedule]
  generalize (s.cancel key).2 = s at cancelled absent
  -- After the cancellation no run of the key is left beside the new one.
  have isFree (id : RunId) : ¬ s.IsWaiting id key := fun waits => by
    simp [(cancelled.entry key id).mpr waits] at absent
  constructor
  · exact OrderedMap.nodup_keys_insert cancelled.distinct _ _
  · intro k id
    rw [OrderedMap.get?_insert, isWaiting_push rfl]
    split
    next same =>
      subst same
      simp [isFree, eq_comm]
    next different => simp [different, cancelled.entry]
  · intro id run deadline found awaits
    rw [run?_push] at found
    split at found
    next =>
      cases found
      simp [Phase.deadline?] at awaits
    next => exact cancelled.upcoming id run deadline found awaits

end Registered

theorem registered_foldl_cancel {s : Scheduler κ ω μ} (registered : s.Registered)
    (keys : List κ) : (keys.foldl (fun s key => (s.cancel key).2) s).Registered := by
  induction keys generalizing s with
  | nil => exact registered
  | cons key rest ih => exact ih (registered.cancel key)

theorem waiting_foldl_cancel (s : Scheduler κ ω μ) (keys : List κ) (key : κ) :
    (keys.foldl (fun s key => (s.cancel key).2) s).waiting.get? key =
      if key ∈ keys then none else s.waiting.get? key := by
  induction keys generalizing s with
  | nil => simp
  | cons first rest ih =>
    rw [List.foldl_cons, ih, waiting_cancel]
    grind

theorem waiting_cancelWaiting (s : Scheduler κ ω μ) (key : κ) :
    s.cancelWaiting.waiting.get? key = none := by
  rw [cancelWaiting, waiting_foldl_cancel]
  split
  next => rfl
  next absent => exact OrderedMap.get?_eq_none_iff.mpr absent

theorem registered_foldl_interrupt {s : Scheduler κ ω μ} (registered : s.Registered)
    (idle : ∀ id key, ¬ s.IsWaiting id key) (ids : List RunId) :
    (ids.foldl interrupt s).Registered ∧ ∀ id key, ¬ (ids.foldl interrupt s).IsWaiting id key := by
  induction ids generalizing s with
  | nil => exact ⟨registered, idle⟩
  | cons id rest ih =>
    exact ih (registered.interrupt_of_not_waiting (idle id)) fun other key waits =>
      idle other key (isWaiting_interrupt.mp waits).2

/-- Afterwards nothing waits. -/
theorem Registered.cancelAll {s : Scheduler κ ω μ} (registered : s.Registered) :
    s.cancelAll.Registered ∧ ∀ id key, ¬ s.cancelAll.IsWaiting id key := by
  have dropped : s.cancelWaiting.Registered := registered_foldl_cancel registered _
  have idle (id : RunId) (key : κ) : ¬ s.cancelWaiting.IsWaiting id key := fun waits => by
    have entry := (dropped.entry key id).mpr waits
    rw [waiting_cancelWaiting] at entry
    cases entry
  -- So what is interrupted next has started, and the table knows nothing of it.
  obtain ⟨interrupted, stillIdle⟩ :=
    registered_foldl_interrupt dropped idle s.cancelWaiting.running
  rw [cancelAll_eq]
  exact ⟨interrupted.ofSameRuns rfl rfl rfl, stillIdle⟩

theorem Registered.request {s : Scheduler κ ω μ} (registered : s.Registered)
    (request : Request κ ω) : (s.request request).Registered := by
  cases request with
  | schedule key work delay => exact registered.schedule key work delay
  | cancel key => exact registered.cancel key
  | cancelAll => exact registered.cancelAll.1

/-! ## Turns -/

section Turns

variable (rules : Rules κ ω μ) {s : Scheduler κ ω μ} {id : RunId} {run : Run κ ω}

omit [DecidableEq κ] in
theorem isWaiting_setPhase {phase : Phase} (found : s.run? id = some run)
    (same : run.cancelled = true ∨ phase.isEarly = run.phase.isEarly) {other : RunId} {key : κ} :
    (s.setPhase id phase).IsWaiting other key ↔ s.IsWaiting other key := by
  simp only [IsWaiting, run?_setPhase]
  by_cases changed : id = other
  · subst changed
    rcases same with cancelled | early
    · simp [found, Run.waits, cancelled]
    · simp [found, Run.waits, early]
  · simp [changed]

omit [DecidableEq κ] in
theorem isWaiting_awaken {other : RunId} {key : κ} :
    (s.awaken id).IsWaiting other key ↔ s.IsWaiting other key := by
  simp only [IsWaiting, run?_awaken]
  split
  next => cases s.run? other <;> simp [Run.waits]
  next => rfl

omit [DecidableEq κ] in
theorem isWaiting_setPhase_late {phase : Phase} (late : phase.isEarly = false) {other : RunId}
    {key : κ} :
    (s.setPhase id phase).IsWaiting other key ↔ other ≠ id ∧ s.IsWaiting other key := by
  simp only [IsWaiting, run?_setPhase]
  by_cases same : id = other
  · simp [same, Run.waits, late]
  · simp [same, Ne.symm same]

namespace Registered

variable (registered : s.Registered) (found : s.run? id = some run)

include registered found

theorem setPhase {phase : Phase}
    (same : run.cancelled = true ∨ phase.isEarly = run.phase.isEarly)
    (later : ∀ deadline, phase.deadline? = some deadline → s.now ≤ deadline) :
    (s.setPhase id phase).Registered where
  distinct := registered.distinct
  entry key other := by
    rw [isWaiting_setPhase found same]
    exact registered.entry key other
  upcoming := registered.upcoming.setPhase id later

/-- A run that starts takes itself out of the table. -/
theorem start_eq (waits : run.waits = true) :
    ∃ phase turns, phase.isEarly = false ∧
      (∀ deadline, phase.deadline? = some deadline → s.now ≤ deadline) ∧
      (s.start rules id run).2 =
        { s.setPhase id phase with
          waiting := s.waiting.erase run.key
          running := s.running ++ [id]
          queue := s.queue ++ turns } := by
  -- The start never looks whose entry it takes out; the invariant says that it is its own.
  have entry : s.waiting.get? run.key = some id :=
    (registered.entry run.key id).mpr ⟨run, found, rfl, waits⟩
  unfold Scheduler.start
  rw [entry]
  by_cases instant : (rules.course run.work).duration = 0
  · refine ⟨.resuming (some id), [.run id], rfl, by simp [Phase.deadline?], ?_⟩
    simp [instant, Scheduler.setPhase, enqueue]
  · refine ⟨.working (s.now + (rules.course run.work).duration) (some id), [], rfl, ?_, ?_⟩
    · simp [Phase.deadline?]
    · simp [instant, Scheduler.setPhase]

theorem start (waits : run.waits = true) : (s.start rules id run).2.Registered := by
  obtain ⟨phase, turns, late, later, started⟩ := registered.start_eq rules found waits
  have waiting : s.IsWaiting id run.key := ⟨run, found, rfl, waits⟩
  rw [started]
  refine ⟨OrderedMap.nodup_keys_erase registered.distinct _, fun key other => ?_, ?_⟩
  · exact (registered.get?_erase_iff waiting).trans (isWaiting_setPhase_late late).symm
  · exact registered.upcoming.setPhase id later

omit found in
/-- A turn with which no work starts or ends. -/
theorem resume
    (other : ∀ run, s.run? id = some run → run.cancelled = false →
      run.phase.movesWork = false) :
    (s.resume rules id).2.Registered := by
  rcases resume_cases rules other with
    stays | ⟨run, running, found, cancelled, ends⟩ | ⟨run, found, -, created, goesOn⟩
  · rw [stays]
    exact registered
  · rw [ends]
    have ended : (s.setPhase id .ended).Registered :=
      registered.setPhase found (.inl cancelled) (by simp [Phase.deadline?])
    exact ended.ofSameRuns rfl rfl rfl
  · rw [goesOn]
    split
    · have due : (s.setPhase id .due).Registered :=
        registered.setPhase found (.inr (by rw [created]; rfl)) (by simp [Phase.deadline?])
      exact due.ofSameRuns rfl rfl rfl
    · exact registered.setPhase found (.inr (by rw [created]; rfl)) (by simp [Phase.deadline?])

end Registered

end Turns

/-! ## Every step -/

/-- The clock stops at the earliest deadline, so that none is left behind. -/
theorem Registered.fires {s t : Scheduler κ ω μ} (registered : s.Registered)
    (fires : s.Fires t) : t.Registered := by
  obtain ⟨id, run, deadline, found, awaits, least, rfl⟩ := fires
  have upcoming : Upcoming { s with
      now := if deadline < s.now + Time.instant then s.now else deadline } := by
    intro other later time foundLater awaitsLater
    have notPast := registered.upcoming other later time foundLater awaitsLater
    have notEarlier := least other later time foundLater awaitsLater
    dsimp only
    split <;> assumption
  refine ⟨?_, fun key other => ?_, upcoming.awaken id⟩
  · rw [waiting_awaken]
    exact registered.distinct
  · rw [waiting_awaken, isWaiting_awaken]
    exact registered.entry key other

variable {rules : Rules κ ω μ} {s t : Scheduler κ ω μ} {events : List (Event κ ω)}

theorem Step.registered (step : Step rules s events t) (registered : s.Registered) :
    t.Registered := by
  have shortened (rest : List (Turn μ)) : Registered { s with queue := rest } :=
    registered.ofSameRuns rfl rfl rfl
  cases step with
  | request request => exact registered.request request
  | send content => exact registered.ofSameRuns rfl rfl rfl
  | receive next => exact shortened _
  | start next found due wanted =>
    exact (shortened _).start rules found (Run.waits_of_due due wanted)
  | @finish id run rest next found entry resuming wanted =>
    exact (shortened rest).setPhase found (.inr (by rw [resuming]; rfl)) (by simp [Phase.deadline?])
  | turn next other => exact (shortened _).resume rules other
  | retire entry => exact registered.ofSameRuns rfl rfl rfl
  | timer fires idle => exact registered.fires fires
  | wait idle quiet =>
    refine ⟨registered.distinct, registered.entry, fun id run deadline found awaits => ?_⟩
    have notPast := registered.upcoming id run deadline found awaits
    have beyond := lt_of_fireTimer?_eq_none quiet found awaits
    exact Nat.max_le.mpr ⟨notPast, Nat.le_of_lt beyond⟩

theorem Step.keeps (step : Step rules s events t) (registered : s.Registered) : Keeps s t := by
  have shortened (rest : List (Turn μ)) : Registered { s with queue := rest } :=
    registered.ofSameRuns rfl rfl rfl
  cases step with
  | request request => exact (extends_request s request).keeps
  | send content => exact .refl s
  | receive next => exact .refl s
  | @start id run rest next found due wanted =>
    obtain ⟨phase, turns, late, -, started⟩ :=
      (shortened rest).start_eq rules found (Run.waits_of_due due wanted)
    rw [started]
    exact keeps_setPhase s _ (by simp [late])
  | finish next found resuming wanted => exact keeps_setPhase s _ (by simp [Phase.isEarly])
  | @turn id rest next other =>
    rcases resume_cases (s := { s with queue := rest }) rules other with
      stays | ⟨run, running, found, cancelled, ends⟩ | ⟨run, found, -, created, goesOn⟩
    · rw [stays]
      exact .refl s
    · rw [ends]
      exact keeps_setPhase s id (by simp [Phase.isEarly])
    · have early (later : Run κ ω) (foundLater : s.run? id = some later) :
          later.phase.isEarly = true := by
        cases foundLater.symm.trans found
        rw [created]
        rfl
      rw [goesOn]
      split
      · exact keeps_setPhase s id fun later foundLater _ => early later foundLater
      · exact keeps_setPhase s id fun later foundLater _ => early later foundLater
  | retire entry => exact .refl s
  | timer fires idle =>
    obtain ⟨id, run, deadline, found, awaits, least, rfl⟩ := fires
    have passed (now : Time) : Keeps s { s with now := now } := .refl s
    exact (passed _).trans (keeps_awaken _ id)
  | wait idle quiet => exact .refl s

theorem History.registered (history : History rules s events t) (registered : s.Registered) :
    t.Registered := by
  induction history with
  | stay => exact registered
  | step _ step ih => exact step.registered ih

/-! ## What the questions answer -/

namespace Registered

variable (registered : s.Registered)

include registered

theorem isPending_eq_true {key : κ} : s.isPending key = true ↔ ∃ id, s.IsWaiting id key := by
  simp only [isPending, Option.any_eq_true]
  constructor
  · rintro ⟨id, entry, -⟩
    exact ⟨id, (registered.entry key id).mp entry⟩
  · rintro ⟨id, waits⟩
    have entry := (registered.entry key id).mpr waits
    exact ⟨id, entry, by simp [registered.not_hasEnded entry]⟩

theorem pendingCount_eq : s.pendingCount = s.waiting.keys.length := by
  have live : ∀ id ∈ s.waiting.values, (!s.hasEnded id) = true := by
    intro id member
    obtain ⟨⟨key, _⟩, entry, rfl⟩ := List.mem_map.mp member
    simp [registered.not_hasEnded ((OrderedMap.get?_eq_some_iff registered.distinct).mpr entry)]
  rw [pendingCount, List.countP_eq_length.mpr live]
  simp [OrderedMap.values, OrderedMap.keys]

theorem mem_keys_waiting {key : κ} : key ∈ s.waiting.keys ↔ ∃ id, s.IsWaiting id key := by
  rw [← OrderedMap.isSome_get?_iff, Option.isSome_iff_exists]
  simp [registered.entry]

theorem cancel_fst (key : κ) : (s.cancel key).1 = s.isPending key := by
  cases entry : s.waiting.get? key with
  | none => simp [cancel_of_absent entry, isPending, entry]
  | some id =>
    rw [registered.cancel_of_waiting entry]
    simp [isPending, entry, registered.not_hasEnded entry]

omit registered in
theorem isPending_cancel (key : κ) : (s.cancel key).2.isPending key = false := by
  simp [isPending, waiting_cancel]

end Registered

end SceneScript.Scheduler