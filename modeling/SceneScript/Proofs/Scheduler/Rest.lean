import Mathlib.Algebra.GroupWithZero.Nat
import SceneScript.Proofs.Scheduler.Keeping

/-! # The event loop comes to rest

Where work makes no requests and a message makes at most one, every step uses up something that is
still to be done. So the event loop has nothing left to do after finitely many steps, however long
the delays are.

* `Scheduler.remaining` — how many steps may still be to come, at most;
* `Scheduler.remaining_step?` — each step is one of them;
* `Scheduler.runUntil_rests` — with that many steps no step is left.
-/

namespace SceneScript

/-- The steps that a run may still take, without the turns that it waits for in the queue. -/
def Phase.remaining : Phase → Nat
  | .created | .delayed _ => 4
  | .due | .working _ _ => 2
  | .resuming _ | .ended => 0

namespace Scheduler

variable {κ ω μ : Type}

def Turn.remaining : Turn μ → Nat
  | .run _ => 1
  | .message _ => 6

/-- More than the steps that are to come if nothing is requested from outside. -/
def remaining (s : Scheduler κ ω μ) : Nat :=
  (s.runs.map (·.phase.remaining)).sum + (s.queue.map Turn.remaining).sum

/-! ## Changes of one run -/

theorem sum_map_modify {α : Type} (f : α → Nat) (g : α → α) {l : List α} {i : Nat} {a : α}
    (found : l[i]? = some a) : ((l.modify i g).map f).sum + f a = (l.map f).sum + f (g a) := by
  induction l generalizing i with
  | nil => simp at found
  | cons first rest ih =>
    cases i with
    | zero =>
      cases found
      simp only [List.modify_zero_cons, List.map_cons, List.sum_cons]
      omega
    | succ i =>
      have later := ih (by simpa using found)
      simp only [List.modify_succ_cons, List.map_cons, List.sum_cons]
      omega

section Runs

variable {s : Scheduler κ ω μ} {id : RunId} {run : Run κ ω}

theorem remaining_setPhase (found : s.run? id = some run) (phase : Phase) :
    (s.setPhase id phase).remaining + run.phase.remaining =
      s.remaining + phase.remaining := by
  have changed := sum_map_modify (fun run => run.phase.remaining)
    (fun run : Run κ ω => { run with phase }) found
  simp only [remaining, setPhase] at changed ⊢
  omega

theorem remaining_enqueue (s : Scheduler κ ω μ) (turn : Turn μ) :
    (s.enqueue turn).remaining = s.remaining + Turn.remaining turn := by
  simp only [remaining, enqueue, List.map_append, List.sum_append, List.map_cons, List.map_nil,
    List.sum_cons, List.sum_nil]
  omega

/-- The clock was one of the things to wait for. -/
theorem remaining_awaken_of_deadline (found : s.run? id = some run) {deadline : Time}
    (awaits : run.phase.deadline? = some deadline) :
    (s.awaken id).remaining < s.remaining := by
  have changed := remaining_setPhase found
  unfold awaken
  rw [found]
  cases phase : run.phase with
  | delayed time =>
    have due := changed .due
    simp only [phase, remaining_enqueue, Phase.remaining, Turn.remaining] at due ⊢
    omega
  | working time entry =>
    have resuming := changed (.resuming entry)
    simp only [phase, remaining_enqueue, Phase.remaining, Turn.remaining] at resuming ⊢
    omega
  | created | due | resuming | ended => simp [phase, Phase.deadline?] at awaits

theorem remaining_awaken (s : Scheduler κ ω μ) (id : RunId) :
    (s.awaken id).remaining ≤ s.remaining := by
  cases found : s.run? id with
  | none => simp [awaken, found]
  | some run =>
    cases awaits : run.phase.deadline? with
    | some deadline => exact Nat.le_of_lt (remaining_awaken_of_deadline found awaits)
    | none =>
      -- Only a run that waits for the clock is awakened.
      have stays : s.awaken id = s := by
        unfold awaken
        rw [found]
        cases phase : run.phase <;> simp_all [Phase.deadline?]
      exact Nat.le_of_eq (congrArg remaining stays)

theorem remaining_interrupt (s : Scheduler κ ω μ) (id : RunId) :
    (s.interrupt id).remaining ≤ s.remaining := by
  -- The mark does not matter to the phase.
  have marked : remaining
      { s with runs := s.runs.modify id fun run => { run with cancelled := true } } =
        s.remaining := by
    simp only [remaining]
    cases found : s.runs[id]? with
    | none => rw [List.modify_eq_self (by simpa using found)]
    | some run =>
      have changed := sum_map_modify (fun run => run.phase.remaining)
        (fun run : Run κ ω => { run with cancelled := true }) found
      dsimp only at changed
      omega
  exact Nat.le_trans (remaining_awaken _ id) (Nat.le_of_eq marked)

end Runs

/-! ## Requests -/

variable [DecidableEq κ]

theorem remaining_cancel (s : Scheduler κ ω μ) (key : κ) :
    (s.cancel key).2.remaining ≤ s.remaining := by
  unfold cancel
  split
  · exact Nat.le_refl _
  · split
    · exact Nat.le_refl _
    · exact remaining_interrupt { s with waiting := s.waiting.erase key } _

/-- Five steps at most are to come from a new run, and its first turn. -/
theorem remaining_schedule (s : Scheduler κ ω μ) (key : κ) (work : ω) (delay : Option Time) :
    (s.schedule key work delay).remaining ≤ s.remaining + 5 := by
  have cancelled := remaining_cancel s key
  have newRun : Phase.remaining .created = 4 := rfl
  simp only [remaining] at cancelled
  simp only [remaining, schedule, List.map_append, List.sum_append, List.map_cons, List.map_nil,
    List.sum_cons, List.sum_nil, newRun, Turn.remaining]
  omega

omit [DecidableEq κ] in
theorem remaining_foldl {α : Type} {f : Scheduler κ ω μ → α → Scheduler κ ω μ}
    (less : ∀ s a, (f s a).remaining ≤ s.remaining) (s : Scheduler κ ω μ) (l : List α) :
    (l.foldl f s).remaining ≤ s.remaining := by
  induction l generalizing s with
  | nil => exact Nat.le_refl _
  | cons a rest ih => exact Nat.le_trans (ih (f s a)) (less s a)

theorem remaining_cancelAll (s : Scheduler κ ω μ) : s.cancelAll.remaining ≤ s.remaining := by
  have dropped : s.cancelWaiting.remaining ≤ s.remaining :=
    remaining_foldl (fun s key => remaining_cancel s key) s _
  have interrupted := remaining_foldl remaining_interrupt s.cancelWaiting s.cancelWaiting.running
  rw [cancelAll_eq]
  exact Nat.le_trans interrupted dropped

theorem remaining_request (s : Scheduler κ ω μ) (request : Request κ ω) :
    (s.request request).remaining ≤ s.remaining + 5 := by
  cases request with
  | schedule key work delay => exact remaining_schedule s key work delay
  | cancel key => exact Nat.le_trans (remaining_cancel s key) (Nat.le_add_right _ _)
  | cancelAll => exact Nat.le_trans (remaining_cancelAll s) (Nat.le_add_right _ _)

/-! ## Steps -/

/-- Work makes no requests, and a message makes one at most. -/
structure Rules.Modest (rules : Rules κ ω μ) : Prop where
  silent : ∀ work, (rules.course work).requests = []
  brief : ∀ content s, (rules.answer content s).length ≤ 1

section Steps

variable {rules : Rules κ ω μ} {s t : Scheduler κ ω μ} {occurrences : List (Occurrence ω)}

omit [DecidableEq κ] in
/-- Work that starts has its end still before it. -/
theorem remaining_setPhase_of_due {id : RunId} {run : Run κ ω} (found : s.run? id = some run)
    (due : run.phase = .due) (duration : Time) (entry : Option RunId) :
    (if duration = 0 then (s.setPhase id (.resuming entry)).enqueue (.run id)
      else s.setPhase id (.working (s.now + duration) entry)).remaining ≤ s.remaining := by
  have changed := remaining_setPhase found
  split
  · have resuming := changed (.resuming entry)
    simp only [due, Phase.remaining] at resuming
    rw [remaining_enqueue, Turn.remaining]
    omega
  · have working := changed (.working (s.now + duration) entry)
    simp only [due, Phase.remaining] at working
    omega

theorem remaining_start (rules : Rules κ ω μ) {id : RunId} {run : Run κ ω}
    (found : s.run? id = some run) (due : run.phase = .due) :
    (s.start rules id run).2.remaining ≤ s.remaining := by
  -- The table and the running work do not count.
  let entry := s.waiting.get? run.key
  let started :=
    { s with waiting := s.waiting.erase run.key, running := s.running ++ entry.toList }
  exact remaining_setPhase_of_due (s := started) found due _ _

/-- The turn of a run uses up no more than the turn itself. -/
theorem remaining_resume (modest : rules.Modest) (s : Scheduler κ ω μ) (id : RunId) :
    (s.resume rules id).2.remaining ≤ s.remaining := by
  cases found : s.run? id with
  | none =>
    have stays : (s.resume rules id).2 = s := by rw [resume, found]
    exact Nat.le_of_eq (congrArg remaining stays)
  | some run =>
    have changed := remaining_setPhase found
    have ended : (s.setPhase id .ended).remaining ≤ s.remaining := by
      have last := changed .ended
      simp only [Phase.remaining] at last
      omega
    simp only [resume, found]
    split
    next => exact ended
    next => exact ended
    next created wanted =>
      have due := changed .due
      have delayed := changed (.delayed (s.now + run.delay))
      simp only [created, Phase.remaining] at due delayed
      dsimp only
      split
      · rw [remaining_enqueue, Turn.remaining]
        omega
      · omega
    next due wanted => exact remaining_start rules found due
    next => exact ended
    next resuming wanted =>
      simp only [finish, modest.silent, requestAll, List.foldl_nil]
      exact ended
    next => exact Nat.le_refl _

theorem remaining_takeTurn? (modest : rules.Modest)
    (taken : s.takeTurn? rules = some (occurrences, t)) : t.remaining < s.remaining := by
  unfold takeTurn? at taken
  split at taken
  next => cases taken
  next id rest next =>
    have used : s.remaining = remaining { s with queue := rest } + 1 := by
      simp only [remaining, next, List.map_cons, List.sum_cons, Turn.remaining]
      omega
    have resumed := remaining_resume modest { s with queue := rest } id
    simp only [Option.some.injEq] at taken
    rw [taken] at resumed
    dsimp only at resumed
    omega
  next content rest next =>
    -- A message counts for one more than what it may request.
    have used : s.remaining = remaining { s with queue := rest } + 6 := by
      simp only [remaining, next, List.map_cons, List.sum_cons, Turn.remaining]
      omega
    have short := modest.brief content { s with queue := rest }
    cases taken
    match answer : rules.answer content { s with queue := rest } with
    | [] =>
      simp only [requestAll, List.foldl_nil]
      omega
    | [request] =>
      have requested := remaining_request { s with queue := rest } request
      simp only [requestAll, List.foldl_cons, List.foldl_nil]
      omega
    | _ :: _ :: _ => simp [answer] at short

omit [DecidableEq κ] in
theorem remaining_fires (fires : s.Fires t) : t.remaining < s.remaining := by
  obtain ⟨id, run, deadline, found, awaits, -, rfl⟩ := fires
  exact remaining_awaken_of_deadline (s := { s with now := _ }) found awaits

theorem remaining_step? (modest : rules.Modest) {limit : Option Time}
    (stepped : s.step? rules limit = some (occurrences, t)) : t.remaining < s.remaining := by
  unfold step? at stepped
  cases taken : s.takeTurn? rules with
  | some next =>
    simp only [taken, Option.some.injEq] at stepped
    exact remaining_takeTurn? modest (stepped ▸ taken)
  | none =>
    simp only [taken, Option.map_eq_some_iff] at stepped
    obtain ⟨fired, fires, same⟩ := stepped
    cases same
    exact remaining_fires (fires_of_fireTimer? _ fires)

/-- The event loop comes to rest. -/
theorem runUntil_rests (modest : rules.Modest) (limit : Option Time) {fuel : Nat}
    (s : Scheduler κ ω μ) (enough : s.remaining ≤ fuel) :
    (s.runUntil rules limit (fun _ => false) fuel).2.step? rules limit = none := by
  -- Every step uses up what the fuel is enough for.
  induction fuel generalizing s with
  | zero =>
    cases stepped : s.step? rules limit with
    | none => exact stepped
    | some next =>
      have less := remaining_step? modest (stepped : _ = some (next.1, next.2))
      omega
  | succ fuel ih =>
    unfold runUntil
    simp only [Bool.false_eq_true, if_false]
    cases stepped : s.step? rules limit with
    | none => exact stepped
    | some next =>
      have less := remaining_step? modest (stepped : _ = some (next.1, next.2))
      exact ih next.2 (by omega)

end Steps

end Scheduler

end SceneScript
