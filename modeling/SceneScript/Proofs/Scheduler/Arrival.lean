import SceneScript.Proofs.Scheduler.Coalescing

/-! # What arrives in the queue and among the runs

Messages keep their order in the queue, and nothing but their own turn takes them out. The runs are
those that were scheduled.

* `Scheduler.messages` — the messages that wait for their turn;
* `Scheduler.messages_request`, `Scheduler.messages_resume`, `Scheduler.messages_fires` — what
  leaves them alone;
* `Scheduler.Step.isWaiting`, `Scheduler.History.isWaiting` — a run that waits has waited before, or
  was scheduled since;
* `Scheduler.Pending.fate` — what becomes of a run that waits.
-/

namespace SceneScript

def Turn.message? {μ : Type} : Turn μ → Option μ
  | .run _ => none
  | .message content => some content

namespace Scheduler

variable {κ ω μ : Type}

/-! ## Messages in line -/

/-- The messages that wait for their turn, in this order. -/
def messages (s : Scheduler κ ω μ) : List μ := s.queue.filterMap Turn.message?

theorem mem_messages {s : Scheduler κ ω μ} {content : μ} :
    content ∈ s.messages ↔ .message content ∈ s.queue := by
  simp only [messages, List.mem_filterMap]
  constructor
  · rintro ⟨turn, member, same⟩
    cases turn with
    | run id => cases same
    | message other =>
      cases same
      exact member
  · exact fun member => ⟨_, member, rfl⟩

theorem messages_enqueue_run (s : Scheduler κ ω μ) (id : RunId) :
    (s.enqueue (.run id)).messages = s.messages := by
  simp [messages, enqueue, Turn.message?]

theorem messages_enqueue_message (s : Scheduler κ ω μ) (content : μ) :
    (s.enqueue (.message content)).messages = s.messages ++ [content] := by
  simp [messages, enqueue, Turn.message?]

theorem messages_awaken (s : Scheduler κ ω μ) (id : RunId) :
    (s.awaken id).messages = s.messages := by
  unfold awaken
  split
  next => rfl
  next =>
    split
    · exact messages_enqueue_run _ id
    · exact messages_enqueue_run _ id
    · rfl

theorem messages_interrupt (s : Scheduler κ ω μ) (id : RunId) :
    (s.interrupt id).messages = s.messages := messages_awaken _ id

theorem messages_foldl {α : Type} {f : Scheduler κ ω μ → α → Scheduler κ ω μ}
    (same : ∀ s a, (f s a).messages = s.messages) (s : Scheduler κ ω μ) (l : List α) :
    (l.foldl f s).messages = s.messages := by
  induction l generalizing s with
  | nil => rfl
  | cons a rest ih => exact (ih (f s a)).trans (same s a)

theorem messages_fires {s t : Scheduler κ ω μ} (fires : s.Fires t) :
    t.messages = s.messages := by
  obtain ⟨id, _, _, _, _, _, rfl⟩ := fires
  exact messages_awaken _ id

variable [DecidableEq κ]

theorem messages_cancel (s : Scheduler κ ω μ) (key : κ) :
    (s.cancel key).2.messages = s.messages := by
  unfold cancel
  split
  · rfl
  · split
    · rfl
    · exact messages_interrupt _ _

theorem messages_request (s : Scheduler κ ω μ) (request : Request κ ω) :
    (s.request request).messages = s.messages := by
  cases request with
  | schedule key work delay =>
    have cancelled := messages_cancel s key
    simp only [messages] at cancelled
    simp [request, schedule, messages, cancelled, Turn.message?]
  | cancel key => exact messages_cancel s key
  | cancelAll =>
    have dropped : s.cancelWaiting.messages = s.messages := messages_foldl messages_cancel s _
    have interrupted := messages_foldl messages_interrupt s.cancelWaiting s.cancelWaiting.running
    rw [request, cancelAll_eq]
    exact interrupted.trans dropped

theorem messages_requestAll (s : Scheduler κ ω μ) (requests : List (Request κ ω)) :
    (s.requestAll requests).messages = s.messages := messages_foldl messages_request s requests

theorem messages_resume (rules : Rules κ ω μ) (s : Scheduler κ ω μ) (id : RunId) :
    (s.resume rules id).2.messages = s.messages := by
  cases found : s.run? id with
  | none => rw [resume, found]
  | some run =>
    simp only [resume, found]
    split
    next => rfl
    next => rfl
    next =>
      dsimp only
      split
      · exact messages_enqueue_run _ id
      · rfl
    next =>
      unfold start
      dsimp only
      split
      · exact messages_enqueue_run _ id
      · rfl
    next => rfl
    next => exact messages_requestAll _ _
    next => rfl

/-! ## New runs -/

section Steps

variable {rules : Rules κ ω μ} {s t : Scheduler κ ω μ} {events : List (Event κ ω)} {id : RunId}
  {key : κ}

omit [DecidableEq κ] in
theorem length_runs_foldl {α : Type} {f : Scheduler κ ω μ → α → Scheduler κ ω μ}
    (same : ∀ s a, (f s a).runs.length = s.runs.length) (s : Scheduler κ ω μ) (l : List α) :
    (l.foldl f s).runs.length = s.runs.length := by
  induction l generalizing s with
  | nil => rfl
  | cons a rest ih => exact (ih (f s a)).trans (same s a)

theorem length_runs_cancelAll (s : Scheduler κ ω μ) : s.cancelAll.runs.length = s.runs.length := by
  have dropped : s.cancelWaiting.runs.length = s.runs.length :=
    length_runs_foldl (fun s key => length_runs_cancel s key) s _
  have interrupted :=
    length_runs_foldl length_runs_interrupt s.cancelWaiting s.cancelWaiting.running
  rw [cancelAll_eq]
  exact interrupted.trans dropped

omit [DecidableEq κ] in
theorem length_runs_setPhase (s : Scheduler κ ω μ) (id : RunId) (phase : Phase) :
    (s.setPhase id phase).runs.length = s.runs.length := by simp [setPhase]

/-- Every step but a scheduling leaves the runs that there are. -/
theorem Step.length_runs (step : Step rules s events t) (registered : s.Registered) :
    t.runs.length = s.runs.length ∨
      ∃ key work time delay, events = [.scheduled s.runs.length key work time delay] ∧
        t.runs.length = s.runs.length + 1 := by
  cases step with
  | request request =>
    cases request with
    | schedule key work delay =>
      refine .inr ⟨key, work, s.now, delay.getD s.defaultDelay, rfl, ?_⟩
      simp [Scheduler.request, schedule, length_runs_cancel]
    | cancel key => exact .inl (length_runs_cancel s key)
    | cancelAll => exact .inl (length_runs_cancelAll s)
  | send content => exact .inl rfl
  | receive next => exact .inl rfl
  | @start id run rest next found due wanted =>
    have shortened : Registered { s with queue := rest } := registered.ofSameRuns rfl rfl rfl
    obtain ⟨phase, turns, -, -, started⟩ :=
      shortened.start_eq rules found (Run.waits_of_due due wanted)
    rw [started]
    exact .inl (length_runs_setPhase _ _ _)
  | finish next found resuming wanted => exact .inl (length_runs_setPhase _ _ _)
  | @turn id rest next other =>
    rcases resume_cases (s := { s with queue := rest }) rules other with
      stays | ⟨run, running, -, -, ends⟩ | ⟨run, -, -, -, goesOn⟩
    · rw [stays]
      exact .inl rfl
    · rw [ends]
      exact .inl (length_runs_setPhase _ _ _)
    · rw [goesOn]
      split
      · exact .inl (length_runs_setPhase _ _ _)
      · exact .inl (length_runs_setPhase _ _ _)
  | retire entry => exact .inl rfl
  | timer fires idle =>
    obtain ⟨id, _, _, _, _, _, rfl⟩ := fires
    exact .inl (length_runs_awaken _ id)
  | wait idle quiet => exact .inl rfl

/-- A run that waits has waited before, unless it is new. -/
theorem Step.isWaiting (step : Step rules s events t) (registered : s.Registered)
    (waits : t.IsWaiting id key) :
    s.IsWaiting id key ∨ ∃ work time delay, .scheduled id key work time delay ∈ events := by
  obtain ⟨later, foundLater, sameKey, waiting⟩ := waits
  by_cases known : id < s.runs.length
  · obtain ⟨run, found⟩ : ∃ run, s.run? id = some run := ⟨_, List.getElem?_eq_getElem known⟩
    obtain ⟨other, foundToo, continues⟩ := step.keeps registered id run found
    cases foundLater.symm.trans foundToo
    exact .inl ⟨run, found, continues.key.symm.trans sameKey, continues.waits waiting⟩
  · have inside : id < t.runs.length := (List.getElem?_eq_some_iff.mp foundLater).1
    rcases step.length_runs registered with same | ⟨k, work, time, delay, rfl, longer⟩
    · rw [same] at inside
      exact absurd inside known
    · rw [longer] at inside
      have isNew : id = s.runs.length :=
        Nat.le_antisymm (Nat.le_of_lt_succ inside) (Nat.not_lt.mp known)
      obtain ⟨-, _, foundToo, newKey, -⟩ := step.of_scheduled rfl
      rw [← isNew] at foundToo
      cases foundLater.symm.trans foundToo
      rw [← sameKey, newKey, isNew]
      exact .inr ⟨work, time, delay, List.mem_singleton_self _⟩

theorem History.isWaiting (history : History rules s events t) (registered : s.Registered)
    (waits : t.IsWaiting id key) :
    s.IsWaiting id key ∨ ∃ work time delay, .scheduled id key work time delay ∈ events := by
  induction history with
  | stay => exact .inl waits
  | step history step ih =>
    rcases step.isWaiting (history.registered registered) waits with
      before | ⟨work, time, delay, now⟩
    · rcases ih before with atFirst | ⟨work, time, delay, earlier⟩
      · exact .inl atFirst
      · exact .inr ⟨work, time, delay, List.mem_append_left _ earlier⟩
    · exact .inr ⟨work, time, delay, List.mem_append_right _ now⟩

/-- A run that waits goes on waiting, or starts, or is superseded. -/
theorem Pending.fate {work : ω} {due : Time} (history : History rules s events t)
    (registered : s.Registered) (pending : s.Pending id key work due) :
    Fate id key work due events t := by
  induction history with
  | stay => exact .pending (by simp) pending
  | step history step ih => exact ih.step step (history.registered registered)

end Steps

end Scheduler

end SceneScript
