import SceneScript.Proofs.Project.Scan
import SceneScript.Proofs.Watch.Coverage

/-! # After a stop

A stop cancels every rescan that waits. What is in line it does not see: a message that was put into
the queue before is heard afterwards, and requests its rescan as if nothing had been stopped.

* `Watch.Life` — what a watcher goes through: it is started, it watches, it is stopped;
* `Watch.Watched.stop` — after a stop the watch goes on as one that has just been told of the
  changes whose messages are in line;
* `Watch.Watched.heard_of_started`, `Watch.Watched.called_of_heard` — a rescan that starts waited at
  first or has been heard of, and what is heard was called for;
* `Watch.starts_after_stop` — what follows for every history after a stop.
-/

namespace SceneScript.Watch

open Scheduler (Registered IsWaiting)

variable {workingDirectory : Place} {paths : ProjectPaths} {s t : RescanScheduler}
  {events more before after : List Event} {rescan : Rescan} {moment : Time}

/-! ## Where a rescan comes from -/

/-- Work starts at the turn of a run that is due. -/
theorem exists_due_of_starts {rules : Scheduler.Rules Rescan Rescan Rescan} {id : RunId}
    {occurrences : List (Occurrence Rescan)} {occurrence : Occurrence Rescan}
    (taken : s.resume rules id = (occurrences, t))
    (member : occurrence ∈ Scheduler.starts occurrences) :
    ∃ run, s.run? id = some run ∧ run.phase = .due ∧ run.cancelled = false ∧
      occurrence.work = run.work := by
  by_cases due : ∃ run, s.run? id = some run ∧ run.cancelled = false ∧ run.phase = .due
  · obtain ⟨run, found, wanted, due⟩ := due
    have resumed : s.resume rules id = s.start rules id run := by
      simp [Scheduler.resume, found, due, wanted]
    have begins := Scheduler.starts_start rules s id run
    rw [← resumed, taken] at begins
    rw [begins] at member
    cases List.mem_singleton.mp member
    exact ⟨run, found, due, wanted, rfl⟩
  · have silent := Scheduler.starts_resume_of_not_due rules
      fun run found wanted isDue => due ⟨run, found, wanted, isDue⟩
    rw [taken] at silent
    rw [silent] at member
    cases member

/-- What starts has waited. -/
theorem Step.isWaiting_of_started (step : Step workingDirectory paths s events t)
    (timely : Timely s) (member : .started rescan moment ∈ events) :
    ∃ id, s.IsWaiting id rescan := by
  cases step with
  | notify | hear => cases List.mem_singleton.mp member
  | @turn _ scan id rest occurrences next taken =>
    obtain ⟨occurrence, inStarts, same⟩ := List.mem_map.mp member
    simp only [Scheduler.takeTurn?, next, Option.some.injEq] at taken
    obtain ⟨run, found, due, wanted, sameWork⟩ := exists_due_of_starts taken inStarts
    have waits : s.IsWaiting id run.key := ⟨run, found, rfl, Run.waits_of_due due wanted⟩
    -- The work of a run that waits is its key.
    obtain ⟨_, other, foundToo, -, workIsKey, -⟩ := timely id run.key waits
    cases found.symm.trans foundToo
    have sameRescan : occurrence.work = rescan := by cases same; rfl
    rw [← sameRescan, sameWork, workIsKey]
    exact ⟨id, waits⟩
  | timer | wait => cases member

/-- What is heard was in line. -/
theorem Step.mem_messages_of_heard {time : Time} (step : Step workingDirectory paths s events t)
    (member : .heard rescan time ∈ events) : rescan ∈ s.messages := by
  cases step with
  | hear scan next taken =>
    cases List.mem_singleton.mp member
    rw [Watched.messages_hear next taken]
    exact List.mem_cons_self
  | @turn _ _ _ _ occurrences =>
    obtain ⟨_, _, same⟩ := onlyStarts_startEvents occurrences _ member
    cases same
  | notify => cases List.mem_singleton.mp member
  | timer | wait => cases member

namespace Watched

variable (watched : Watched workingDirectory paths events s)

include watched

/-- A rescan comes to wait by a message that is heard. -/
theorem isWaiting_step {id : RunId} (step : Step workingDirectory paths s more t)
    (waits : t.IsWaiting id rescan) :
    s.IsWaiting id rescan ∨ ∃ time, .heard rescan time ∈ more := by
  have registered := watched.registered
  -- Where nothing is scheduled, no run is new.
  have old {rules : Scheduler.Rules Rescan Rescan Rescan}
      {steps : List (Scheduler.Event Rescan Rescan)} (history : Scheduler.History rules s steps t)
      (none : ∀ work time delay, .scheduled id rescan work time delay ∉ steps) :
      s.IsWaiting id rescan := by
    rcases history.isWaiting registered waits with before | ⟨work, time, delay, scheduled⟩
    · exact before
    · exact absurd scheduled (none work time delay)
  cases step with
  | notify change =>
    exact .inl (old (history_report workingDirectory paths s change) (by simp))
  | @hear _ scan heard rest next taken =>
    have received : Scheduler.History scan.rules s [] { s with queue := rest } :=
      .single (.receive next)
    rcases watched.hear_cases next taken with ⟨rfl, -⟩ | scheduled
    · exact .inl (old received (by simp))
    · have requested : Scheduler.Step scan.rules { s with queue := rest } _ _ :=
        .request _ (.schedule heard heard none)
      have history := received.step requested
      rw [List.nil_append] at history
      have scheduledState : Scheduler.request { s with queue := rest }
          (.schedule heard heard none) = t := scheduled.symm
      rw [scheduledState] at history
      rcases history.isWaiting registered waits with before | ⟨work, time, delay, member⟩
      · exact .inl before
      · cases List.mem_singleton.mp member
        exact .inr ⟨_, List.mem_singleton_self _⟩
  | @turn _ scan other rest occurrences next taken =>
    obtain ⟨steps, history, -, starts⟩ := Scheduler.history_resume scan.rules next
    simp only [Scheduler.takeTurn?, next, Option.some.injEq] at taken
    rw [taken] at history
    refine .inl (old history fun work time delay scheduled => ?_)
    obtain ⟨_, same⟩ := starts scan.silent _ scheduled
    cases same
  | timer fires idle =>
    have history : Scheduler.History rescanRules s [] t := .single (.timer fires idle)
    exact .inl (old history (by simp))
  | wait idle quiet =>
    have history : Scheduler.History rescanRules s [] _ := .single (.wait idle quiet)
    exact .inl (old history (by simp))

theorem isWaiting_history {id : RunId} (history : History workingDirectory paths s more t)
    (waits : t.IsWaiting id rescan) :
    s.IsWaiting id rescan ∨ ∃ time, .heard rescan time ∈ more := by
  induction history with
  | stay => exact .inl waits
  | step earlier step ih =>
    rcases (watched.history earlier).isWaiting_step step waits with before | ⟨time, now⟩
    · exact (ih before).imp_right fun ⟨time, heard⟩ => ⟨time, List.mem_append_left _ heard⟩
    · exact .inr ⟨time, List.mem_append_right _ now⟩

/-- A rescan that starts waited at first, or has been heard of since. -/
theorem heard_of_started (history : History workingDirectory paths s more t)
    (split : more = before ++ .started rescan moment :: after) :
    (∃ id, s.IsWaiting id rescan) ∨ ∃ time, .heard rescan time ∈ before := by
  induction history generalizing after with
  | stay => simp at split
  | @step _ last _ _ earlier step ih =>
    rcases split_cases split with ⟨_, inside, -⟩ | ⟨between, rfl, inside⟩
    · exact ih inside
    · obtain ⟨id, waits⟩ := step.isWaiting_of_started (watched.history earlier).timely
        (inside ▸ List.mem_append_right between List.mem_cons_self)
      rcases watched.isWaiting_history earlier waits with atFirst | ⟨time, heard⟩
      · exact .inl ⟨id, atFirst⟩
      · exact .inr ⟨time, List.mem_append_left _ heard⟩

/-- What is heard was called for before. -/
theorem called_of_heard {time : Time} (history : History workingDirectory paths s more t)
    (split : more = before ++ .heard rescan time :: after) :
    rescan ∈ calls workingDirectory paths (events ++ before) := by
  induction history generalizing after with
  | stay => simp at split
  | @step _ last _ _ earlier step ih =>
    rcases split_cases split with ⟨_, inside, -⟩ | ⟨between, rfl, inside⟩
    · exact ih inside
    · have inLine := step.mem_messages_of_heard
        (inside ▸ List.mem_append_right between List.mem_cons_self)
      have line := (watched.history earlier).line
      rw [← List.append_assoc, calls_append, line]
      exact List.mem_append_left _ (List.mem_append_right _ inLine)

/-- Where no rescan waits, what starts has been heard of, and was called for before that. -/
theorem called_of_started (idle : ∀ id key, ¬ s.IsWaiting id key)
    (history : History workingDirectory paths s more t)
    (split : more = before ++ .started rescan moment :: after) :
    ∃ earlier time later, before = earlier ++ .heard rescan time :: later ∧
      rescan ∈ calls workingDirectory paths (events ++ earlier) := by
  rcases watched.heard_of_started history split with ⟨id, waits⟩ | ⟨time, heard⟩
  · exact absurd waits (idle id rescan)
  · obtain ⟨earlier, later, parts⟩ := List.append_of_mem heard
    have regrouped : more =
        earlier ++ .heard rescan time :: (later ++ .started rescan moment :: after) := by
      rw [split, parts]
      simp
    exact ⟨earlier, time, later, parts, watched.called_of_heard history regrouped⟩

/-- At rest whatever was called for has led to a start. -/
theorem exists_started_of_rest {scan : Scan} (rest : s.step? scan.rules none = none)
    (called : calls workingDirectory paths events ≠ []) :
    ∃ rescan moment, .started rescan moment ∈ events := by
  obtain ⟨rescan, member⟩ := List.exists_mem_of_ne_nil _ called
  obtain ⟨event, inEvents, calledFor⟩ := List.mem_filterMap.mp member
  cases event with
  | notified change =>
    obtain ⟨before, after, split⟩ := List.append_of_mem inEvents
    obtain ⟨between, later, time, cover, moment, parts, -, -, started⟩ :=
      Answer.of_rest watched split calledFor rest
    refine ⟨cover, moment, ?_⟩
    rw [split, parts]
    simp [started]
  | heard | started => cases calledFor

end Watched

/-! ## The stop -/

/-- Whatever rescans are called for, there are changes that call for them. -/
theorem exists_changes {rescans : List Rescan}
    (called : ∀ rescan ∈ rescans, ∃ change,
      paths.rescanFor? workingDirectory change = some rescan) :
    ∃ changes : List FileChange,
      calls workingDirectory paths (changes.map .notified) = rescans := by
  induction rescans with
  | nil => exact ⟨[], rfl⟩
  | cons rescan rest ih =>
    obtain ⟨change, first⟩ := called rescan List.mem_cons_self
    obtain ⟨changes, others⟩ := ih fun other member => called other (List.mem_cons_of_mem _ member)
    refine ⟨change :: changes, ?_⟩
    rw [List.map_cons, ← others]
    simp [calls, first]

theorem calls_of_not_notified (quiet : ∀ change, .notified change ∉ more) :
    calls workingDirectory paths more = [] := by
  apply List.filterMap_eq_nil_iff.mpr
  intro event member
  cases event with
  | notified change => exact absurd member (quiet change)
  | heard | started => rfl

theorem callbacks_notified (changes : List FileChange) :
    callbacks (changes.map .notified) = [] := by
  induction changes with
  | nil => rfl
  | cons change rest ih => exact ih

theorem messages_cancelAll (s : RescanScheduler) : s.cancelAll.messages = s.messages :=
  Scheduler.messages_request s .cancelAll

/-- After a stop the watch goes on as one that has just been told of the changes whose messages are
in line, and of which nothing has been heard. -/
theorem Watched.stop (watched : Watched workingDirectory paths events s) :
    ∃ changes : List FileChange,
      calls workingDirectory paths (changes.map .notified) = s.messages ∧
      Watched workingDirectory paths (changes.map .notified) s.cancelAll := by
  have called : ∀ rescan ∈ s.messages, ∃ change,
      paths.rescanFor? workingDirectory change = some rescan := by
    intro rescan inLine
    have member : rescan ∈ calls workingDirectory paths events := by
      rw [watched.line]
      exact List.mem_append_right _ inLine
    obtain ⟨event, -, calledFor⟩ := List.mem_filterMap.mp member
    cases event with
    | notified change => exact ⟨change, calledFor⟩
    | heard | started => cases calledFor
  obtain ⟨changes, same⟩ := exists_changes called
  obtain ⟨registered, idle⟩ := watched.registered.cancelAll
  refine ⟨changes, same, registered, ?timely, ?line, ?answered⟩
  case timely => exact fun id rescan waits => absurd waits (idle id rescan)
  case line => rw [same, callbacks_notified, messages_cancelAll, List.nil_append]
  case answered =>
    intro before change after rescan split _
    have silent : callbacks (before ++ after) = [] := by
      have none := callbacks_notified changes
      rw [split, callbacks_append] at none
      rw [callbacks_append]
      exact none
    exact .inLine (silent ▸ List.nil_prefix)

/-- At rest something has started exactly if something was called for. -/
theorem Watched.exists_started_iff {changes : List FileChange} {scan : Scan}
    (watched : Watched workingDirectory paths (changes.map .notified) s)
    (idle : ∀ id key, ¬ s.IsWaiting id key) (history : History workingDirectory paths s more t)
    (rest : t.step? scan.rules none = none) :
    (∃ rescan moment, .started rescan moment ∈ more) ↔
      calls workingDirectory paths (changes.map .notified ++ more) ≠ [] := by
  constructor
  · rintro ⟨rescan, moment, started⟩ nothing
    obtain ⟨before, after, split⟩ := List.append_of_mem started
    obtain ⟨earlier, time, later, parts, called⟩ := watched.called_of_started idle history split
    -- What is called for up to some moment is among all that is called for.
    rw [split, parts, List.append_assoc, ← List.append_assoc, calls_append] at nothing
    rw [(List.append_eq_nil_iff.mp nothing).1] at called
    cases called
  · intro called
    obtain ⟨rescan, moment, started⟩ := (watched.history history).exists_started_of_rest rest called
    exact ⟨rescan, moment, (List.mem_append.mp started).resolve_left (by simp)⟩

/-! ## The life of a watcher -/

/-- What a watcher goes through. -/
inductive Life (workingDirectory : Place) : Watcher → Prop where
  | new (project : Project) (debounce : Time) :
      Life workingDirectory (.ofProject project debounce)
  | start {watcher : Watcher} (life : Life workingDirectory watcher) :
      Life workingDirectory watcher.start
  /-- Changes are reported and heard, and rescans are performed. -/
  | watch {watcher : Watcher} {events : List Event} {scheduler : RescanScheduler}
      {project : Project} (life : Life workingDirectory watcher)
      (history : History workingDirectory watcher.project.paths watcher.scheduler events scheduler)
      (same : project.paths = watcher.project.paths) :
      Life workingDirectory { watcher with scheduler, project }
  | stop {watcher : Watcher} (life : Life workingDirectory watcher) :
      Life workingDirectory watcher.stop

theorem Life.watched {watcher : Watcher} (life : Life workingDirectory watcher) :
    ∃ events, Watched workingDirectory watcher.project.paths events watcher.scheduler := by
  induction life with
  | new project debounce =>
    exact ⟨[], .start workingDirectory project.paths debounce 0⟩
  | start life ih =>
    unfold Watcher.start
    split
    · exact ih
    · exact ih
  | watch life history same ih =>
    obtain ⟨events, watched⟩ := ih
    exact ⟨_, same ▸ watched.history history⟩
  | stop life ih =>
    obtain ⟨events, watched⟩ := ih
    unfold Watcher.stop
    split
    · obtain ⟨changes, -, stopped⟩ := watched.stop
      exact ⟨_, stopped⟩
    · exact ⟨events, watched⟩

theorem Life.notify {watcher : Watcher} (life : Life workingDirectory watcher)
    (change : FileChange) : Life workingDirectory (watcher.notify workingDirectory change) := by
  have reported : watcher.notify workingDirectory change =
      { watcher with
        scheduler :=
          report workingDirectory watcher.project.paths watcher.scheduler change } := by
    unfold Watcher.notify report
    cases watcher.project.paths.rescanFor? workingDirectory change <;> rfl
  rw [reported]
  exact life.watch (.single (.notify watcher.scheduler change)) rfl

theorem paths_rescan (disk : Disk) (rescan : Rescan) (project : Project) :
    (project.rescan disk rescan).project.paths = project.paths := by
  have unscanned : (project.rescan disk rescan).project.unscanned = project.unscanned := by
    cases rescan with
    | everything => exact Project.unscanned_scan
    | assets => exact Project.unscanned_scanAssets
    | script path => exact Project.unscanned_scanFile
  exact (Project.unscanned_eq_iff.mp unscanned).1

/-- Rescans change what is known of the project, and nothing else. -/
theorem exists_project_of_perform (disk : Disk) (watcher : Watcher)
    (occurrences : List (Occurrence Rescan)) :
    ∃ project, (watcher.perform disk occurrences).2 = { watcher with project } ∧
      project.paths = watcher.project.paths := by
  unfold Watcher.perform
  generalize ([] : List Announcement) = announced
  induction occurrences generalizing announced watcher with
  | nil => exact ⟨watcher.project, rfl, rfl⟩
  | cons occurrence rest ih =>
    rw [List.foldl_cons]
    dsimp only
    by_cases started : occurrence.kind = .started
    · rw [if_pos started]
      obtain ⟨project, performed, same⟩ := ih
        { watcher with project := (watcher.project.rescan disk occurrence.work).project } _
      exact ⟨project, performed, same.trans (paths_rescan disk occurrence.work watcher.project)⟩
    · rw [if_neg started]
      exact ih watcher announced

theorem Life.settle {watcher : Watcher} (life : Life workingDirectory watcher) (disk : Disk) :
    Life workingDirectory (watcher.settle disk).2 := by
  obtain ⟨events, history, -⟩ := history_runUntil workingDirectory watcher.project.paths .instant
    (some (watcher.scheduler.now + Time.instant - 1)) (fun _ => false) Watcher.stepLimit
    watcher.scheduler
  -- The settled scheduler and the project that the rescans leave behind.
  obtain ⟨project, performed, same⟩ := exists_project_of_perform disk
    { watcher with scheduler := (watcher.scheduler.settle rescanRules Watcher.stepLimit).2 }
    (watcher.scheduler.settle rescanRules Watcher.stepLimit).1
  have settled : (watcher.settle disk).2 =
      { watcher with
        scheduler := (watcher.scheduler.settle rescanRules Watcher.stepLimit).2
        project } := performed
  rw [settled]
  exact life.watch history same

/-! ## The law of the stop -/

/-- After a stop a rescan starts only if the message about it was in line at the stop, or a change
has called for it since. Where there is such a message, and the event loop is left to itself, some
rescan does start. -/
theorem starts_after_stop {watcher : Watcher} (life : Life workingDirectory watcher)
    (running : watcher.isRunning = true)
    (history : History workingDirectory watcher.project.paths watcher.stop.scheduler events t) :
    (∀ before rescan moment after, events = before ++ .started rescan moment :: after →
      ∃ earlier time later, before = earlier ++ .heard rescan time :: later ∧
        rescan ∈ watcher.scheduler.messages ++
          calls workingDirectory watcher.project.paths earlier) ∧
    ∀ scan : Scan, ∃ more,
      History workingDirectory watcher.project.paths t more
        (t.runUntil scan.rules none (fun _ => false) t.remaining).2 ∧
      Reports more (t.runUntil scan.rules none (fun _ => false) t.remaining).1 ∧
      ((∃ rescan moment, .started rescan moment ∈ events ++ more) ↔
        watcher.scheduler.messages ++
          calls workingDirectory watcher.project.paths events ≠ []) := by
  obtain ⟨past, watchedBefore⟩ := life.watched
  obtain ⟨changes, inLine, watched⟩ := watchedBefore.stop
  have stopped : watcher.stop.scheduler = watcher.scheduler.cancelAll := by
    simp [Watcher.stop, running]
  rw [stopped] at history
  have idle := watchedBefore.registered.cancelAll.2
  have calls_eq (events : List Event) :
      calls workingDirectory watcher.project.paths (changes.map .notified ++ events) =
        watcher.scheduler.messages ++ calls workingDirectory watcher.project.paths events := by
    rw [calls_append, inLine]
  refine ⟨fun before rescan moment after split => ?line, fun scan => ?rest⟩
  case line => simpa only [calls_eq] using watched.called_of_started idle history split
  case rest =>
    obtain ⟨more, onward, reports⟩ := history_runUntil workingDirectory watcher.project.paths scan
      none (fun _ => false) t.remaining t
    have rest := Scheduler.runUntil_rests (modest_rules scan) none t (Nat.le_refl _)
    have started := watched.exists_started_iff idle (history.append onward) rest
    rw [calls_eq, calls_append, calls_of_not_notified reports.quiet, List.append_nil] at started
    exact ⟨more, onward, reports, started⟩

/-- A file is created, and the watch is stopped before the message about it gets its turn. -/
theorem exists_start_after_stop :
    ∃ (watcher : Watcher) (t : RescanScheduler), Life [] watcher ∧ watcher.isRunning = true ∧
      watcher.scheduler.messages = [.everything] ∧
      History [] watcher.project.paths watcher.stop.scheduler
        [.heard .everything 0, .started .everything Time.perSecond] t := by
  let project : Project := { paths := ⟨⟨.relative, ["game"]⟩⟩ }
  let created : FileChange := ⟨.created, some ⟨.relative, ["game", "bgm", "theme.mp3"]⟩, false⟩
  let watcher := (Watcher.ofProject project Time.perSecond).start.notify [] created
  have life : Life [] watcher := .notify (.start (.new project Time.perSecond)) created
  -- The one run that there will be, and what the scheduler has of it.
  let run (phase : Phase) : Run Rescan Rescan :=
    { key := .everything, work := .everything, delay := Time.perSecond, phase }
  let waiting (now : Time) (phase : Phase) (queue : List (Turn Rescan)) : RescanScheduler :=
    { defaultDelay := Time.perSecond, now, runs := [run phase], waiting := ⟨[(.everything, 0)]⟩,
      queue }
  let last : RescanScheduler :=
    { defaultDelay := Time.perSecond, now := Time.perSecond, runs := [run (.resuming (some 0))],
      running := [0], queue := [.run 0] }
  have inLine : watcher.stop.scheduler.queue = [.message .everything] := by decide +kernel
  have heard : watcher.stop.scheduler.takeTurn? Scan.instant.rules =
      some ([], waiting 0 .created [.run 0]) := by decide +kernel
  have delayed : (waiting 0 .created [.run 0]).takeTurn? Scan.instant.rules =
      some ([], waiting 0 (.delayed Time.perSecond) []) := by decide +kernel
  have due : (waiting 0 (.delayed Time.perSecond) []).fireTimer? none =
      some (waiting Time.perSecond .due [.run 0]) := by decide +kernel
  have started : (waiting Time.perSecond .due [.run 0]).takeTurn? Scan.instant.rules =
      some ([⟨.everything, .started, Time.perSecond⟩], last) := by decide +kernel
  have history : History [] project.paths watcher.stop.scheduler _ _ :=
    ((History.single (.hear .instant inLine heard)).step (.turn rfl delayed)).step
      (.timer (Scheduler.fires_of_fireTimer? _ due) (.inl rfl))
  exact ⟨watcher, last, life, rfl, by decide +kernel, history.step (.turn rfl started)⟩

theorem starts_after_stop_of_created :
    let events : List Event := [.heard .everything 0, .started .everything Time.perSecond]
    ∃ (watcher : Watcher) (t : RescanScheduler),
      (Life [] watcher ∧ watcher.isRunning = true ∧
        History [] watcher.project.paths watcher.stop.scheduler events t) ∧
      (∃ earlier time later, [.heard .everything 0] = earlier ++ .heard .everything time :: later ∧
        .everything ∈ watcher.scheduler.messages ++ calls [] watcher.project.paths earlier) ∧
      ∃ more, History [] watcher.project.paths t more
          (t.runUntil Scan.instant.rules none (fun _ => false) t.remaining).2 ∧
        ∃ rescan moment, .started rescan moment ∈ events ++ more := by
  intro events
  obtain ⟨watcher, t, life, running, inLine, history⟩ := exists_start_after_stop
  obtain ⟨fromLine, onward⟩ := starts_after_stop life running history
  obtain ⟨more, continued, -, starts⟩ := onward .instant
  exact ⟨watcher, t, ⟨life, running, history⟩,
    fromLine [.heard .everything 0] .everything Time.perSecond [] rfl,
    more, continued, starts.mpr (by simp [inLine])⟩

/-- A stop does not keep what was reported before it from being heard of after it. -/
theorem not_forall_nothing_starts_after_stop :
    ¬ ∀ (workingDirectory : Place) (watcher : Watcher) (events : List Event) (t : RescanScheduler),
      Life workingDirectory watcher → watcher.isRunning = true →
        History workingDirectory watcher.project.paths watcher.stop.scheduler events t →
          (∀ change, .notified change ∉ events) →
            ∀ rescan moment, .started rescan moment ∉ events := by
  intro nothing
  obtain ⟨watcher, t, life, running, -, history⟩ := exists_start_after_stop
  exact nothing [] watcher _ t life running history (by simp) .everything Time.perSecond (by simp)

end SceneScript.Watch
