import SceneScript.Scheduler.History
import SceneScript.Watch.Watcher

/-! # Histories of a watch

Changes are reported at any moment. A change that calls for a rescan leaves a message in the queue
of the scheduler, which is heard when its turn comes. In between runs take their turns, timers fire
and time passes, and each rescan takes as long as it likes.

* `Watch.Event` — a change that is reported, a message that is heard, or a rescan that starts;
* `Watch.Step`, `Watch.History` — one step with its events, and any number of them;
* `Watch.history_runUntil` — the event loop's steps are a history, which reports the rescans that
  start.
-/

namespace SceneScript.Watch

open Scheduler (Rules starts)

inductive Event where
  | notified (change : FileChange)
  | heard (rescan : Rescan) (time : Time)
  | started (rescan : Rescan) (time : Time)
  deriving Repr, DecidableEq

/-- A change that calls for a rescan gets in line. -/
def report (workingDirectory : Place) (paths : ProjectPaths) (s : RescanScheduler)
    (change : FileChange) : RescanScheduler :=
  match paths.rescanFor? workingDirectory change with
  | none => s
  | some rescan => s.enqueue (.message rescan)

theorem scheduler_notify (workingDirectory : Place) (watcher : Watcher) (change : FileChange) :
    (watcher.notify workingDirectory change).scheduler =
      report workingDirectory watcher.project.paths watcher.scheduler change := by
  unfold Watcher.notify report
  cases watcher.project.paths.rescanFor? workingDirectory change <;> rfl

/-- What rescans do while they run; they request nothing of the scheduler. -/
structure Scan where
  course : Rescan → Course Rescan Rescan
  silent : ∀ rescan, (course rescan).requests = []

def Scan.rules (scan : Scan) : Rules Rescan Rescan Rescan :=
  { course := scan.course, answer := rescanRequests }

/-- Rescans that are over at once. -/
def Scan.instant : Scan := ⟨fun _ => {}, fun _ => rfl⟩

theorem rules_instant : Scan.instant.rules = rescanRules := rfl

def startEvents (occurrences : List (Occurrence Rescan)) : List Event :=
  (starts occurrences).map fun occurrence => .started occurrence.work occurrence.time

inductive Step (workingDirectory : Place) (paths : ProjectPaths) :
    RescanScheduler → List Event → RescanScheduler → Prop where
  | notify (s : RescanScheduler) (change : FileChange) :
      Step workingDirectory paths s [.notified change] (report workingDirectory paths s change)
  /-- What the message requests is requested at once. -/
  | hear {s t : RescanScheduler} (scan : Scan) {rescan : Rescan} {rest : List (Turn Rescan)}
      (next : s.queue = .message rescan :: rest)
      (taken : s.takeTurn? scan.rules = some ([], t)) :
      Step workingDirectory paths s [.heard rescan s.now] t
  /-- One rescan may take longer than another one of the same kind. -/
  | turn {s t : RescanScheduler} {scan : Scan} {id : RunId} {rest : List (Turn Rescan)}
      {occurrences : List (Occurrence Rescan)} (next : s.queue = .run id :: rest)
      (taken : s.takeTurn? scan.rules = some (occurrences, t)) :
      Step workingDirectory paths s (startEvents occurrences) t
  | timer {s t : RescanScheduler} (fires : s.Fires t)
      (idle : s.queue = [] ∨ t.now = s.now) : Step workingDirectory paths s [] t
  | wait {s : RescanScheduler} {limit : Time} (idle : s.queue = [])
      (quiet : s.fireTimer? (some limit) = none) :
      Step workingDirectory paths s [] { s with now := max s.now limit }

/-- Any number of steps, with their events. -/
inductive History (workingDirectory : Place) (paths : ProjectPaths) (s : RescanScheduler) :
    List Event → RescanScheduler → Prop where
  | stay : History workingDirectory paths s [] s
  | step {events more : List Event} {t u : RescanScheduler}
      (history : History workingDirectory paths s events t)
      (step : Step workingDirectory paths t more u) :
      History workingDirectory paths s (events ++ more) u

variable {workingDirectory : Place} {paths : ProjectPaths} {s t u : RescanScheduler}
  {events more : List Event}

namespace History

theorem single (step : Step workingDirectory paths s events t) :
    History workingDirectory paths s events t := .step .stay step

theorem append (first : History workingDirectory paths s events t)
    (second : History workingDirectory paths t more u) :
    History workingDirectory paths s (events ++ more) u := by
  induction second with
  | stay => simpa using first
  | step _ step ih => simpa using ih.step step

end History

/-! ## The event loop -/

/-- The start of a rescan as the event loop reports it. -/
def Event.report? : Event → Option (Occurrence Rescan)
  | .started rescan time => some ⟨rescan, .started, time⟩
  | _ => none

theorem filterMap_report?_startEvents (occurrences : List (Occurrence Rescan)) :
    (startEvents occurrences).filterMap Event.report? = starts occurrences := by
  induction occurrences with
  | nil => rfl
  | cons occurrence rest ih =>
    unfold startEvents starts at ih ⊢
    by_cases started : occurrence.kind = .started
    · have same : Event.report? (.started occurrence.work occurrence.time) = some occurrence := by
        rw [Event.report?, ← started]
      rw [List.filter_cons_of_pos (by simpa using started), List.map_cons,
        List.filterMap_cons_some same, ih]
    · rw [List.filter_cons_of_neg (by simpa using started), ih]

/-- Events of the event loop itself: what it starts is reported, and it is notified of nothing. -/
structure Reports (events : List Event) (occurrences : List (Occurrence Rescan)) : Prop where
  starts : events.filterMap Event.report? = starts occurrences
  quiet : ∀ change, .notified change ∉ events

theorem reports_startEvents (occurrences : List (Occurrence Rescan)) :
    Reports (startEvents occurrences) occurrences :=
  ⟨filterMap_report?_startEvents occurrences, by simp [startEvents]⟩

theorem Reports.append {occurrences later : List (Occurrence Rescan)}
    (first : Reports events occurrences) (second : Reports more later) :
    Reports (events ++ more) (occurrences ++ later) := by
  refine ⟨?_, fun change member => ?_⟩
  · rw [List.filterMap_append, first.starts, second.starts]
    exact (List.filter_append ..).symm
  · rcases List.mem_append.mp member with earlier | last
    · exact first.quiet change earlier
    · exact second.quiet change last

theorem history_step? {scan : Scan} {limit : Option Time} {occurrences : List (Occurrence Rescan)}
    (stepped : s.step? scan.rules limit = some (occurrences, t)) :
    ∃ events, History workingDirectory paths s events t ∧ Reports events occurrences := by
  unfold Scheduler.step? at stepped
  cases taken : s.takeTurn? scan.rules with
  | some next =>
    rw [taken] at stepped
    cases stepped
    cases queue : s.queue with
    | nil =>
      rw [Scheduler.takeTurn?_eq_none.mpr queue] at taken
      cases taken
    | cons turn rest =>
      cases turn with
      | run id => exact ⟨_, .single (.turn queue taken), reports_startEvents _⟩
      | message rescan =>
        -- Nothing starts while a message is heard.
        have silent : occurrences = [] := by
          simp only [Scheduler.takeTurn?, queue, Option.some.injEq, Prod.mk.injEq] at taken
          exact taken.1.symm
        rw [silent] at taken ⊢
        exact ⟨_, .single (.hear _ queue taken), rfl, by simp⟩
  | none =>
    simp only [taken, Option.map_eq_some_iff] at stepped
    obtain ⟨fired, fires, same⟩ := stepped
    cases same
    have idle := Scheduler.takeTurn?_eq_none.mp taken
    exact ⟨[], .single (.timer (Scheduler.fires_of_fireTimer? _ fires) (.inl idle)), rfl, by simp⟩

/-- However many steps the event loop takes, they make a history. -/
theorem history_runUntil (workingDirectory : Place) (paths : ProjectPaths) (scan : Scan)
    (limit : Option Time) (stop : RescanScheduler → Bool) (fuel : Nat) (s : RescanScheduler) :
    ∃ events,
      History workingDirectory paths s events (s.runUntil scan.rules limit stop fuel).2 ∧
      Reports events (s.runUntil scan.rules limit stop fuel).1 := by
  induction fuel generalizing s with
  | zero => exact ⟨[], .stay, rfl, by simp⟩
  | succ fuel ih =>
    unfold Scheduler.runUntil
    split
    · exact ⟨[], .stay, rfl, by simp⟩
    · split
      · exact ⟨[], .stay, rfl, by simp⟩
      next occurrences next stepped =>
        obtain ⟨events, first, reported⟩ := history_step? stepped
        obtain ⟨more, second, reportedLater⟩ := ih next
        exact ⟨events ++ more, first.append second, reported.append reportedLater⟩

end SceneScript.Watch
