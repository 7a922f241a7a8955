import SceneScript.Proofs.Scheduler.Arrival
import SceneScript.Proofs.Scheduler.Rest
import SceneScript.Proofs.Watch.Relevance
import SceneScript.Watch.History

/-! # No change is dropped

A message that is heard while a full rescan waits requests nothing, and a message that requests a
rescan cancels the one that waits under the same key. In both cases a rescan is left that waits and
that makes up for the change, so that it has still to look at the disk.

* `Watch.calls`, `Watch.callbacks` — the rescans that the reported changes call for, and those that
  have been heard of;
* `Watch.Answer` — what has become of a change: it is in line, or its callback has run, and since
  then a rescan that covers it has started or waits;
* `Watch.Watched` — the invariant of a watch: every change has an answer;
* `Watch.no_change_dropped` — what follows for every history, also where the event loop is left to
  itself.
-/

namespace SceneScript.Watch

open Scheduler (Registered IsWaiting Pending Rules)

variable {workingDirectory : Place} {paths : ProjectPaths} {s t : RescanScheduler}
  {events more before after : List Event}

/-! ## Calls and callbacks -/

/-- The rescans that the reported changes call for. -/
def calls (workingDirectory : Place) (paths : ProjectPaths) (events : List Event) : List Rescan :=
  events.filterMap fun
    | .notified change => paths.rescanFor? workingDirectory change
    | _ => none

/-- The rescans of the messages that have been heard. -/
def callbacks (events : List Event) : List Rescan :=
  events.filterMap fun
    | .heard rescan _ => some rescan
    | _ => none

theorem calls_append (events more : List Event) :
    calls workingDirectory paths (events ++ more) =
      calls workingDirectory paths events ++ calls workingDirectory paths more :=
  List.filterMap_append ..

theorem callbacks_append (events more : List Event) :
    callbacks (events ++ more) = callbacks events ++ callbacks more := List.filterMap_append ..

/-- Events that are starts only. -/
def OnlyStarts (events : List Event) : Prop :=
  ∀ event ∈ events, ∃ rescan time, event = .started rescan time

theorem calls_of_onlyStarts (only : OnlyStarts more) : calls workingDirectory paths more = [] := by
  apply List.filterMap_eq_nil_iff.mpr
  intro event member
  obtain ⟨rescan, time, rfl⟩ := only event member
  rfl

theorem callbacks_of_onlyStarts (only : OnlyStarts more) : callbacks more = [] := by
  apply List.filterMap_eq_nil_iff.mpr
  intro event member
  obtain ⟨rescan, time, rfl⟩ := only event member
  rfl

theorem onlyStarts_startEvents (occurrences : List (Occurrence Rescan)) :
    OnlyStarts (startEvents occurrences) := by
  intro event member
  obtain ⟨occurrence, -, rfl⟩ := List.mem_map.mp member
  exact ⟨_, _, rfl⟩

/-! ## What becomes of the rescans that wait -/

/-- Every rescan that waits does so under itself as a key, and in time. -/
def Timely (s : RescanScheduler) : Prop :=
  ∀ id rescan, s.IsWaiting id rescan → ∃ due, s.Pending id rescan rescan due

/-- A rescan that waits goes on waiting, perhaps in another run, or starts. -/
def Preserves (s : RescanScheduler) (events : List Event) (t : RescanScheduler) : Prop :=
  ∀ id rescan, s.IsWaiting id rescan →
    (∃ other, t.IsWaiting other rescan) ∨ ∃ moment, .started rescan moment ∈ events

section Loop

variable {rules : Rules Rescan Rescan Rescan} {steps : List (Scheduler.Event Rescan Rescan)}

/-- A report changes nothing but the queue. -/
theorem history_report (workingDirectory : Place) (paths : ProjectPaths) (s : RescanScheduler)
    (change : FileChange) :
    Scheduler.History rescanRules s [] (report workingDirectory paths s change) := by
  unfold report
  cases paths.rescanFor? workingDirectory change with
  | none => exact .stay
  | some rescan => exact .single (.send s rescan)

/-- The rescans that wait are old ones, which are still in time, or new ones. -/
theorem timely_of_history (history : Scheduler.History rules s steps t) (registered : s.Registered)
    (timely : Timely s)
    (new : ∀ id rescan work time delay, .scheduled id rescan work time delay ∈ steps →
      ∃ due, t.Pending id rescan rescan due) : Timely t := by
  intro id rescan waits
  -- What is over does not wait.
  have notOver (past : t.Over id) : False := by
    obtain ⟨run, found, -, waiting⟩ := waits
    obtain ⟨other, foundToo, ended⟩ := past
    cases found.symm.trans foundToo
    rw [waiting] at ended
    cases ended
  rcases history.isWaiting registered waits with waited | ⟨work, time, delay, scheduled⟩
  · obtain ⟨due, pending⟩ := timely id rescan waited
    cases Pending.fate history registered pending with
    | pending quiet still => exact ⟨due, still⟩
    | started quiet notLate notEarly once past => exact (notOver past).elim
    | superseded member supersedes never past => exact (notOver past).elim
  · exact new id rescan work time delay scheduled

theorem isWaiting_of_history (history : Scheduler.History rules s steps t)
    (registered : s.Registered) (timely : Timely s) {id : RunId} {rescan : Rescan}
    (waits : s.IsWaiting id rescan) :
    t.IsWaiting id rescan ∨ (∃ moment, .started id rescan moment ∈ steps) ∨
      ∃ step ∈ steps, step.supersedes rescan = true := by
  obtain ⟨due, pending⟩ := timely id rescan waits
  cases Pending.fate history registered pending with
  | pending quiet still => exact .inl still.isWaiting
  | started quiet notLate notEarly once past =>
    exact .inr (.inl ⟨_, List.mem_append_right _ List.mem_cons_self⟩)
  | superseded member supersedes never past => exact .inr (.inr ⟨_, member, supersedes⟩)

/-- The start of a run is reported. -/
theorem mem_startEvents {occurrences : List (Occurrence Rescan)} {id : RunId} {rescan : Rescan}
    {moment : Time} (reported : Scheduler.reports steps = Scheduler.starts occurrences)
    (member : .started id rescan moment ∈ steps) :
    .started rescan moment ∈ startEvents occurrences := by
  have inReports : ⟨rescan, .started, moment⟩ ∈ Scheduler.reports steps :=
    List.mem_filterMap.mpr ⟨_, member, rfl⟩
  rw [reported] at inReports
  exact List.mem_map.mpr ⟨_, inReports, rfl⟩

end Loop

/-! ## Answers -/

/-- What has become of a change that was reported between `before` and `after`. -/
inductive Answer (workingDirectory : Place) (paths : ProjectPaths) (before after : List Event)
    (rescan : Rescan) (s : RescanScheduler) : Prop where
  /-- Only callbacks for earlier changes have run. -/
  | inLine (order : callbacks (before ++ after) <+: calls workingDirectory paths before)
  /-- The callbacks for the earlier changes have run, and then that for the change itself. -/
  | heard {between later : List Event} {time : Time} {cover : Rescan}
      (split : after = between ++ .heard rescan time :: later)
      (order : callbacks (before ++ between) = calls workingDirectory paths before)
      (covers : Covers cover rescan)
      (covered : (∃ moment, .started cover moment ∈ later) ∨ ∃ id, s.IsWaiting id cover)

theorem Answer.step {rescan : Rescan}
    (answer : Answer workingDirectory paths before after rescan s) (preserves : Preserves s more t)
    (order : callbacks (before ++ after) <+: calls workingDirectory paths before →
      Answer workingDirectory paths before (after ++ more) rescan t) :
    Answer workingDirectory paths before (after ++ more) rescan t := by
  cases answer with
  | inLine inLine => exact order inLine
  | @heard between later time cover split earlier covers covered =>
    have regrouped : after ++ more = between ++ .heard rescan time :: (later ++ more) := by
      rw [split]
      simp
    refine .heard regrouped earlier covers ?_
    rcases covered with ⟨moment, started⟩ | ⟨id, waits⟩
    · exact .inl ⟨moment, List.mem_append_left _ started⟩
    · rcases preserves id cover waits with still | ⟨moment, started⟩
      · exact .inr still
      · exact .inl ⟨moment, List.mem_append_right _ started⟩

/-- Where no callback runs, a change stays in line. -/
theorem Answer.keep {rescan : Rescan}
    (answer : Answer workingDirectory paths before after rescan s) (preserves : Preserves s more t)
    (silent : callbacks more = []) :
    Answer workingDirectory paths before (after ++ more) rescan t := by
  apply answer.step preserves
  intro inLine
  apply Answer.inLine
  rw [← List.append_assoc, callbacks_append, silent, List.append_nil]
  exact inLine

/-! ## The invariant -/

structure Watched (workingDirectory : Place) (paths : ProjectPaths) (events : List Event)
    (s : RescanScheduler) : Prop where
  registered : s.Registered
  timely : Timely s
  line : calls workingDirectory paths events = callbacks events ++ s.messages
  answered : ∀ before change after rescan, events = before ++ .notified change :: after →
    paths.rescanFor? workingDirectory change = some rescan →
      Answer workingDirectory paths before after rescan s

namespace Watched

theorem start (workingDirectory : Place) (paths : ProjectPaths) (defaultDelay now : Time) :
    Watched workingDirectory paths [] { defaultDelay, now } where
  registered := Scheduler.registered_start defaultDelay now
  timely := by
    rintro id rescan ⟨run, found, -⟩
    simp [Scheduler.run?] at found
  line := rfl
  answered := by simp

/-- An event among two spans of events is in the first or in the second. -/
theorem split_cases {event : Event} (split : events ++ more = before ++ event :: after) :
    (∃ earlier, events = before ++ event :: earlier ∧ after = earlier ++ more) ∨
      ∃ between, before = events ++ between ∧ more = between ++ event :: after := by
  rcases List.append_eq_append_iff.mp split with ⟨between, first, last⟩ | ⟨rest, first, last⟩
  · exact .inr ⟨between, first, last⟩
  · cases rest with
    | nil => exact .inr ⟨[], by simpa using first.symm, by simpa using last.symm⟩
    | cons head earlier =>
      obtain ⟨rfl, rfl⟩ := List.cons.inj last
      exact .inl ⟨earlier, first, rfl⟩

/-- An event that is not among the last ones was among the first. -/
theorem split_of_notMem {event : Event} (split : events ++ more = before ++ event :: after)
    (absent : event ∉ more) : ∃ earlier, events = before ++ event :: earlier ∧
      after = earlier ++ more := by
  rcases split_cases split with first | ⟨between, -, last⟩
  · exact first
  · exact absurd (by simp [last]) absent

variable (watched : Watched workingDirectory paths events s)

include watched

/-- Where a change stands in the line of all that was called for. -/
theorem line_of_split {change : FileChange} {rescan : Rescan}
    (split : events = before ++ .notified change :: after)
    (called : paths.rescanFor? workingDirectory change = some rescan) :
    callbacks events = callbacks (before ++ after) ∧
      calls workingDirectory paths before ++ rescan :: calls workingDirectory paths after =
        callbacks (before ++ after) ++ s.messages := by
  have mine : calls workingDirectory paths (.notified change :: after) =
      rescan :: calls workingDirectory paths after := by
    simp [calls, called]
  have silent : callbacks (.notified change :: after) = callbacks after := rfl
  have same : callbacks events = callbacks (before ++ after) := by
    rw [split, callbacks_append, callbacks_append, silent]
  refine ⟨same, ?_⟩
  rw [← same, ← watched.line, split, calls_append, mine]

/-- A step at which nothing is reported or heard. -/
theorem quiet (registered : t.Registered) (timely : Timely t) (preserves : Preserves s more t)
    (only : OnlyStarts more) (messages : t.messages = s.messages) :
    Watched workingDirectory paths (events ++ more) t where
  registered := registered
  timely := timely
  line := by
    rw [calls_append, callbacks_append, calls_of_onlyStarts only, callbacks_of_onlyStarts only,
      List.append_nil, List.append_nil, messages]
    exact watched.line
  answered := by
    intro before change after rescan split called
    have absent : .notified change ∉ more := fun member => by
      obtain ⟨rescan, time, same⟩ := only _ member
      cases same
    obtain ⟨earlier, first, rfl⟩ := split_of_notMem split absent
    exact (watched.answered before change earlier rescan first called).keep preserves
      (callbacks_of_onlyStarts only)

/-- A step of the event loop with which no message is heard. -/
theorem loop {rules : Rules Rescan Rescan Rescan} {steps : List (Scheduler.Event Rescan Rescan)}
    {occurrences : List (Occurrence Rescan)} (history : Scheduler.History rules s steps t)
    (only : ∀ step ∈ steps, ∃ id work time, step = .started id work time)
    (reported : Scheduler.reports steps = Scheduler.starts occurrences)
    (messages : t.messages = s.messages) :
    Watched workingDirectory paths (events ++ startEvents occurrences) t := by
  refine watched.quiet (history.registered watched.registered) ?timely ?preserves
    (onlyStarts_startEvents occurrences) messages
  case timely =>
    apply timely_of_history history watched.registered watched.timely
    intro id rescan work time delay scheduled
    obtain ⟨_, _, _, same⟩ := only _ scheduled
    cases same
  case preserves =>
    intro id rescan waits
    rcases isWaiting_of_history history watched.registered watched.timely waits with
      still | ⟨moment, started⟩ | ⟨step, member, supersedes⟩
    · exact .inl ⟨id, still⟩
    · exact .inr ⟨moment, mem_startEvents reported started⟩
    · obtain ⟨_, _, _, rfl⟩ := only _ member
      cases supersedes

theorem report (change : FileChange) :
    Watched workingDirectory paths (events ++ [.notified change])
      (report workingDirectory paths s change) := by
  have silent : callbacks [.notified change] = [] := rfl
  have ahead : callbacks events <+: calls workingDirectory paths events :=
    ⟨s.messages, watched.line.symm⟩
  have history := history_report workingDirectory paths s change
  have preserves :
      Preserves s [.notified change] (Watch.report workingDirectory paths s change) := by
    intro id rescan waits
    rcases isWaiting_of_history history watched.registered watched.timely waits with
      still | ⟨moment, started⟩ | ⟨step, member, -⟩
    · exact .inl ⟨id, still⟩
    · cases started
    · cases member
  constructor
  case registered => exact history.registered watched.registered
  case timely => exact timely_of_history history watched.registered watched.timely (by simp)
  case line =>
    have called : calls workingDirectory paths [.notified change] =
        (paths.rescanFor? workingDirectory change).toList := by
      cases found : paths.rescanFor? workingDirectory change <;> simp [calls, found]
    rw [calls_append, callbacks_append, silent, List.append_nil, watched.line, called]
    unfold Watch.report
    cases paths.rescanFor? workingDirectory change with
    | none => simp
    | some rescan => simp [Scheduler.messages_enqueue_message]
  case answered =>
    intro before other after rescan split called
    obtain rfl | ⟨earlier, last, ends⟩ := List.eq_nil_or_concat after
    · obtain ⟨rfl, -⟩ := List.append_inj' split rfl
      exact .inLine (by simpa using ahead)
    · rw [List.concat_eq_append] at ends
      have regrouped : events ++ [.notified change] =
          (before ++ .notified other :: earlier) ++ [last] := by
        rw [split, ends]
        simp
      obtain ⟨first, same⟩ := List.append_inj' regrouped rfl
      rw [ends, ← same]
      exact (watched.answered before other earlier rescan first called).keep preserves silent

/-! ## A message is heard -/

section Hear

variable {rescan : Rescan} {rest : List (Turn Rescan)} (next : s.queue = .message rescan :: rest)
  {scan : Scan} {occurrences : List (Occurrence Rescan)}
  (taken : s.takeTurn? scan.rules = some (occurrences, t))

include next taken

/-- What the message requests: nothing while a full rescan waits, and its own rescan otherwise. -/
theorem hear_cases :
    (t = { s with queue := rest } ∧ ∃ id, t.IsWaiting id .everything) ∨
      t = { s with queue := rest }.schedule rescan rescan none := by
  simp only [Scheduler.takeTurn?, next, Option.some.injEq, Prod.mk.injEq] at taken
  obtain ⟨-, rfl⟩ := taken
  simp only [Scan.rules, rescanRequests]
  split
  next skipped =>
    have shortened : Registered { s with queue := rest } :=
      watched.registered.ofSameRuns rfl rfl rfl
    exact .inl ⟨rfl, shortened.isPending_eq_true.mp skipped.2⟩
  next => exact .inr rfl

/-- Afterwards a rescan waits that covers what was heard, and none that waited is lost. -/
theorem hear_covers :
    t.Registered ∧ Timely t ∧ Preserves s [.heard rescan s.now] t ∧
      ∃ cover id, Covers cover rescan ∧ t.IsWaiting id cover := by
  have received : Scheduler.History scan.rules s [] { s with queue := rest } :=
    .single (.receive next)
  rcases watched.hear_cases next taken with ⟨rfl, full⟩ | scheduled
  · refine ⟨received.registered watched.registered,
      timely_of_history received watched.registered watched.timely (by simp), ?_,
      .everything, full.imp fun _ waits => ⟨.inl rfl, waits⟩⟩
    intro id other waits
    exact .inl ⟨id, waits⟩
  · have requested : Scheduler.Step scan.rules { s with queue := rest } _ _ :=
      .request _ (.schedule rescan rescan none)
    obtain ⟨-, pending⟩ := requested.of_scheduled rfl
    have history := received.step requested
    rw [List.nil_append] at history
    have scheduledState : Scheduler.request { s with queue := rest }
        (.schedule rescan rescan none) = t := scheduled.symm
    rw [scheduledState] at history pending
    refine ⟨history.registered watched.registered, ?timely, ?preserves,
      rescan, _, .inr rfl, pending.isWaiting⟩
    case timely =>
      apply timely_of_history history watched.registered watched.timely
      intro id other work time delay member
      cases List.mem_singleton.mp member
      exact ⟨_, pending⟩
    case preserves =>
      intro id other waits
      rcases isWaiting_of_history history watched.registered watched.timely waits with
        still | ⟨moment, started⟩ | ⟨step, member, supersedes⟩
      · exact .inl ⟨id, still⟩
      · cases List.mem_singleton.mp started
      · -- Only the rescan of the same key is superseded, and the new run takes its place.
        cases List.mem_singleton.mp member
        have same : rescan = other := by
          simpa [Scheduler.requestEvent, Scheduler.Event.supersedes] using supersedes
        exact .inl ⟨_, same ▸ pending.isWaiting⟩

omit watched in
theorem messages_hear : s.messages = rescan :: t.messages := by
  have head : s.messages = rescan :: Scheduler.messages { s with queue := rest } := by
    simp [Scheduler.messages, next, Turn.message?]
  rw [head]
  simp only [Scheduler.takeTurn?, next, Option.some.injEq, Prod.mk.injEq] at taken
  obtain ⟨-, rfl⟩ := taken
  rw [Scheduler.messages_requestAll]

theorem hear : Watched workingDirectory paths (events ++ [.heard rescan s.now]) t := by
  obtain ⟨registered, timely, preserves, cover, id, covers, waits⟩ :=
    watched.hear_covers next taken
  have first := messages_hear next taken
  have silent : calls workingDirectory paths [.heard rescan s.now] = [] := rfl
  have called : callbacks [.heard rescan s.now] = [rescan] := rfl
  refine ⟨registered, timely, ?line, ?answered⟩
  case line =>
    rw [calls_append, callbacks_append, silent, called, watched.line, first]
    simp
  case answered =>
    intro before change after mine split callsFor
    obtain ⟨earlier, splitBefore, rfl⟩ := split_of_notMem split (by simp)
    apply (watched.answered before change earlier mine splitBefore callsFor).step preserves
    rintro ⟨waiting, ahead⟩
    -- The message is the first one that is left of what was called for.
    obtain ⟨-, line⟩ := watched.line_of_split splitBefore callsFor
    rw [← ahead, first, List.append_assoc, List.append_cancel_left_eq] at line
    cases waiting with
    | nil =>
      -- It is the message of the change itself.
      obtain ⟨same, -⟩ := List.cons.inj line
      rw [List.append_nil] at ahead
      exact .heard (by rw [same]) ahead (same ▸ covers) (.inr ⟨id, waits⟩)
    | cons head others =>
      obtain ⟨same, -⟩ := List.cons.inj line
      refine .inLine ⟨others, ?_⟩
      rw [← List.append_assoc, callbacks_append, called, ← ahead, same]
      simp

end Hear

/-! ## Every step -/

theorem step (step : Step workingDirectory paths s more t) :
    Watched workingDirectory paths (events ++ more) t := by
  cases step with
  | notify change => exact watched.report change
  | hear scan next taken => exact watched.hear next taken
  | @turn _ scan id rest occurrences next taken =>
    have popped : Scheduler.messages { s with queue := rest } = s.messages := by
      rw [Scheduler.messages, Scheduler.messages, next]
      rfl
    have resumed := Scheduler.messages_resume scan.rules { s with queue := rest } id
    obtain ⟨steps, history, reported, starts⟩ := Scheduler.history_resume scan.rules next
    simp only [Scheduler.takeTurn?, next, Option.some.injEq] at taken
    rw [taken] at history reported resumed
    refine watched.loop history (fun step member => ?_) reported (resumed.trans popped)
    obtain ⟨work, same⟩ := starts scan.silent step member
    exact ⟨_, work, _, same⟩
  | timer fires idle =>
    have history : Scheduler.History rescanRules s [] t := .single (.timer fires idle)
    exact watched.loop history (by simp) (show _ = Scheduler.starts [] from rfl)
      (Scheduler.messages_fires fires)
  | wait idle quiet =>
    have history : Scheduler.History rescanRules s [] _ := .single (.wait idle quiet)
    exact watched.loop history (by simp) (show _ = Scheduler.starts [] from rfl) rfl

theorem history (history : History workingDirectory paths s more t) :
    Watched workingDirectory paths (events ++ more) t := by
  induction history with
  | stay => simpa using watched
  | step _ step ih =>
    rw [← List.append_assoc]
    exact ih.step step

end Watched

/-! ## The event loop left to itself -/

theorem modest_rules (scan : Scan) : scan.rules.Modest where
  silent := scan.silent
  brief rescan s := by
    simp only [Scan.rules, rescanRequests]
    split <;> simp

/-- At rest nothing is in line and nothing waits. -/
theorem Answer.of_rest {rescan : Rescan} {scan : Scan}
    (watched : Watched workingDirectory paths events s) {change : FileChange}
    (split : events = before ++ .notified change :: after)
    (called : paths.rescanFor? workingDirectory change = some rescan)
    (rest : s.step? scan.rules none = none) :
    ∃ between later time cover moment, after = between ++ .heard rescan time :: later ∧
      callbacks (before ++ between) = calls workingDirectory paths before ∧
      Covers cover rescan ∧ .started cover moment ∈ later := by
  obtain ⟨idle, quiet⟩ := Scheduler.step?_eq_none.mp rest
  cases watched.answered before change after rescan split called with
  | inLine order =>
    -- More has been heard than what was called for before the change.
    obtain ⟨-, line⟩ := watched.line_of_split split called
    have allHeard : s.messages = [] := by simp [Scheduler.messages, idle]
    rw [allHeard, List.append_nil] at line
    have longer := congrArg List.length line
    have notLonger := order.length_le
    simp only [List.length_append, List.length_cons] at longer
    omega
  | @heard between later time cover splitAfter order covers covered =>
    rcases covered with ⟨moment, started⟩ | ⟨id, waits⟩
    · exact ⟨between, later, time, cover, moment, splitAfter, order, covers, started⟩
    · obtain ⟨due, pending⟩ := watched.timely id cover waits
      have passed : s.HasPassed scan.rules due := by
        refine .inr (Scheduler.step?_eq_none.mpr ⟨idle, ?_⟩)
        cases fires : s.fireTimer? (some due) with
        | none => rfl
        | some fired =>
          rw [Scheduler.fireTimer?_none fires] at quiet
          cases quiet
      exact absurd passed (pending.not_hasPassed watched.registered.upcoming)

/-! ## The law of the watch -/

/-- A run of this rescan has still to start. -/
def Awaits (s : RescanScheduler) (rescan : Rescan) : Prop :=
  ∃ id run, s.run? id = some run ∧ run.key = rescan ∧ run.work = rescan ∧ run.waits = true

theorem awaits_of_isWaiting {id : RunId} {rescan : Rescan} (timely : Timely s)
    (waits : s.IsWaiting id rescan) : Awaits s rescan := by
  obtain ⟨due, run, found, sameKey, sameWork, wanted, onTime⟩ := timely id rescan waits
  exact ⟨id, run, found, sameKey, sameWork, by simp [Run.waits, onTime.isEarly, wanted]⟩

/-- Whatever is reported, heard and done, in any order: the message about a change that matters is
in line, or it has been heard, and since then one of the rescans that make up for the change has
started or has still to start. If the event loop is left to itself, such a rescan starts. -/
theorem no_change_dropped {defaultDelay now : Time}
    (history : History workingDirectory paths { defaultDelay, now } events s) {change : FileChange}
    (split : events = before ++ .notified change :: after) {disk : Disk} (tree : disk.IsTree)
    (here : disk.workingDirectory = workingDirectory) {rescans : List Rescan}
    (concerns : Concerns paths disk change rescans) :
    ∃ rescan, paths.rescanFor? workingDirectory change = some rescan ∧
      ((callbacks events <+: calls workingDirectory paths before ∧
          .message rescan ∈ s.queue) ∨
        ∃ between time later, after = between ++ .heard rescan time :: later ∧
          callbacks (before ++ between) = calls workingDirectory paths before ∧
          ∃ cover ∈ rescans, (∃ moment, .started cover moment ∈ later) ∨ Awaits s cover) ∧
      ∀ scan : Scan, ∃ more,
        History workingDirectory paths s more
          (s.runUntil scan.rules none (fun _ => false) s.remaining).2 ∧
        Reports more (s.runUntil scan.rules none (fun _ => false) s.remaining).1 ∧
        ∃ between time later, after ++ more = between ++ .heard rescan time :: later ∧
          callbacks (before ++ between) = calls workingDirectory paths before ∧
          ∃ cover ∈ rescans, ∃ moment, .started cover moment ∈ later := by
  subst here
  obtain ⟨rescan, called, covering⟩ := rescanFor?_of_concerns tree concerns
  have watched := (Watched.start disk.workingDirectory paths defaultDelay now).history history
  rw [List.nil_append] at watched
  refine ⟨rescan, called, ?now, fun scan => ?later⟩
  case now =>
    cases watched.answered before change after rescan split called with
    | inLine order =>
      obtain ⟨same, line⟩ := watched.line_of_split split called
      rw [same]
      refine .inl ⟨order, Scheduler.mem_messages.mp ?_⟩
      obtain ⟨waiting, ahead⟩ := order
      rw [← ahead, List.append_assoc, List.append_cancel_left_eq] at line
      rw [← line]
      simp
    | @heard between later time cover splitAfter order covers covered =>
      refine .inr ⟨between, time, later, splitAfter, order, cover, covering cover covers, ?_⟩
      exact covered.imp_right fun ⟨id, waits⟩ => awaits_of_isWaiting watched.timely waits
  case later =>
    obtain ⟨more, onward, reports⟩ := history_runUntil disk.workingDirectory paths scan none
      (fun _ => false) s.remaining s
    have rest := Scheduler.runUntil_rests (modest_rules scan) none s (Nat.le_refl _)
    have splitOnward : events ++ more = before ++ .notified change :: (after ++ more) := by
      rw [split]
      simp
    obtain ⟨between, later, time, cover, moment, splitAfter, order, covers, started⟩ :=
      Answer.of_rest (watched.history onward) splitOnward called rest
    exact ⟨more, onward, reports, between, time, later, splitAfter, order, cover,
      covering cover covers, moment, started⟩

/-- A script is modified while a full rescan waits, so that its own rescan is left out. -/
theorem no_change_dropped_while_pending :
    let paths : ProjectPaths := ⟨⟨.relative, ["game"]⟩⟩
    let disk : Disk := ⟨.ofList [(["game"], .directory), (["game", "bgm"], .directory),
      (["game", "bgm", "new.mp3"], .file (.undecodable [255])), (["game", "scene"], .directory),
      (["game", "scene", "A.TXT"], .file (.text "end;"))], []⟩
    let script : Path := ⟨.relative, ["game", "scene", "A.TXT"]⟩
    let events : List Event :=
      [.notified ⟨.created, some ⟨.relative, ["game", "bgm", "new.mp3"]⟩, false⟩,
        .notified ⟨.modified, some script, false⟩, .heard .everything 0, .heard (.script script) 0]
    ∃ s : RescanScheduler,
      (History [] paths { defaultDelay := Time.perSecond, now := 0 } events s ∧ disk.IsTree ∧
        Concerns paths disk ⟨.modified, some script, false⟩ [.everything, .script script]) ∧
      s.isPending (.script script) = false ∧
      ∃ more, History [] paths s more
          (s.runUntil Scan.instant.rules none (fun _ => false) s.remaining).2 ∧
        ∃ cover ∈ [.everything, .script script], ∃ moment,
          .started cover moment ∈ events ++ more := by
  intro paths disk script events
  have tree : disk.IsTree := by decide
  have listed : script ∈ disk.filesBelow paths.sceneRoot AssetType.sceneExtension := by
    decide +kernel
  have concerns : Concerns paths disk ⟨.modified, some script, false⟩
      [.everything, .script script] :=
    .script rfl rfl rfl (by decide) listed rfl
  -- Both changes are reported before either message is heard.
  obtain ⟨s, skipped, notPending⟩ :
      ∃ s, History [] paths { defaultDelay := Time.perSecond, now := 0 } events s ∧
        s.isPending (.script script) = false := by
    have created : History [] paths { defaultDelay := Time.perSecond, now := 0 } _ _ :=
      .single (.notify _ ⟨.created, some ⟨.relative, ["game", "bgm", "new.mp3"]⟩, false⟩)
    have modified := created.step (.notify _ ⟨.modified, some script, false⟩)
    have scheduled := modified.step (.hear .instant rfl rfl)
    exact ⟨_, scheduled.step (.hear .instant rfl rfl), by decide⟩
  have split : events = [_] ++ .notified ⟨.modified, some script, false⟩ :: _ := rfl
  obtain ⟨rescan, -, -, onward⟩ := no_change_dropped skipped split tree rfl concerns
  obtain ⟨more, continued, -, between, time, later, parts, -, cover, member, moment, started⟩ :=
    onward Scan.instant
  refine ⟨s, ⟨skipped, tree, concerns⟩, notPending, more, continued, cover, member, moment, ?_⟩
  have inside : .started cover moment ∈ between ++ .heard rescan time :: later :=
    List.mem_append_right _ (List.mem_cons_of_mem _ started)
  rw [← parts] at inside
  exact List.mem_cons_of_mem _ (List.mem_cons_of_mem _ inside)

end SceneScript.Watch
