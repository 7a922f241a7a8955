import SceneScript.Watch.Rescan

/-! # Watching a game directory

A watcher hands the changes that an observer reports to the scheduler, and performs each rescan
when its run starts.

* `Watcher.notify` — a change is put into the queue;
* `Watcher.start`, `Watcher.stop` — the observer is set up and taken down;
* `Watcher.settle`, `Watcher.advance`, `Watcher.waitIdle` — the rescans of a span of time;
* `Watcher.run` — a whole watch.
-/

namespace SceneScript

/-- What is asked of the observer of the file system. -/
inductive ObserverCall where
  | watch (directory : Path) (recursive : Bool)
  | start
  | stop
  | join
  deriving Repr, DecidableEq

structure Watcher where
  project : Project
  scheduler : RescanScheduler
  isRunning : Bool := false
  /-- Whether changes can be handed over, which is so from the first start on. -/
  hasStarted : Bool := false
  observerCalls : List ObserverCall := []

namespace Watcher

def ofProject (project : Project) (debounce : Time) : Watcher :=
  { project, scheduler := { defaultDelay := debounce } }

/-- A change that calls for a rescan gets in line with everything else that waits for its turn. -/
def notify (workingDirectory : Place) (watcher : Watcher) (change : FileChange) : Watcher :=
  match watcher.project.paths.rescanFor? workingDirectory change with
  | none => watcher
  | some rescan => { watcher with scheduler := watcher.scheduler.enqueue (.message rescan) }

/-! ## The observer -/

def start (watcher : Watcher) : Watcher :=
  if watcher.isRunning then watcher
  else
    { watcher with
      isRunning := true
      hasStarted := true
      observerCalls :=
        watcher.observerCalls ++ [.watch watcher.project.paths.gameDirectory true, .start] }

/-- Rescans that have not started are cancelled, and so are those that have. -/
def stop (watcher : Watcher) : Watcher :=
  if watcher.isRunning then
    { watcher with
      isRunning := false
      scheduler := watcher.scheduler.cancelAll
      observerCalls := watcher.observerCalls ++ [.stop, .join] }
  else watcher

/-! ## Time -/

/-- More steps than any watch takes. -/
def stepLimit : Nat := 1000000

/-- Performs the rescans that have started. -/
def perform (disk : Disk) (watcher : Watcher) (occurrences : List (Occurrence Rescan)) :
    List Announcement × Watcher :=
  occurrences.foldl
    (fun (announced, watcher) occurrence =>
      if occurrence.kind = .started then
        let outcome := watcher.project.rescan disk occurrence.work
        (announced ++ outcome.announcements, { watcher with project := outcome.project })
      else (announced, watcher))
    ([], watcher)

def proceed (disk : Disk) (watcher : Watcher)
    (steps : RescanScheduler → List (Occurrence Rescan) × RescanScheduler) :
    List Announcement × Watcher :=
  let (occurrences, scheduler) := steps watcher.scheduler
  { watcher with scheduler }.perform disk occurrences

def settle (disk : Disk) (watcher : Watcher) : List Announcement × Watcher :=
  watcher.proceed disk (·.settle rescanRules stepLimit)

def advance (disk : Disk) (span : Time) (watcher : Watcher) : List Announcement × Watcher :=
  watcher.proceed disk (·.advance rescanRules stepLimit span)

/-- Waits until no rescan is left, but not beyond `limit`: whether the wait is over, and what was
announced meanwhile. -/
def waitIdle (disk : Disk) (watcher : Watcher) (limit : Option Time := none) :
    Bool × List Announcement × Watcher :=
  let (isOver, occurrences, scheduler) :=
    watcher.scheduler.waitIdle rescanRules stepLimit limit stepLimit
  (isOver, { watcher with scheduler }.perform disk occurrences)

/-- Changes with the times at which they are reported, the earliest one first. -/
abbrev Deliveries := List (Time × FileChange)

/-- Watches until a time; changes that are reported later are left. -/
def advanceTo (disk : Disk) (deadline : Time) :
    Deliveries → Watcher → List Announcement × Watcher
  | [], watcher => watcher.advance disk (deadline - watcher.scheduler.now)
  | (time, change) :: rest, watcher =>
    if time ≤ deadline then
      let (first, watcher) := watcher.advance disk (time - watcher.scheduler.now)
      let (later, watcher) :=
        (watcher.notify disk.workingDirectory change).advanceTo disk deadline rest
      (first ++ later, watcher)
    else watcher.advance disk (deadline - watcher.scheduler.now)

/-- Waits until no rescan is left, also of those that changes call for meanwhile. -/
def finish (disk : Disk) : Deliveries → Watcher → List Announcement × Watcher
  | [], watcher => (watcher.waitIdle disk).2
  | (time, change) :: rest, watcher =>
    let (isOver, first, watcher) := watcher.waitIdle disk (some time)
    if isOver then (first, watcher)
    else
      let (now, watcher) := watcher.advance disk (time - watcher.scheduler.now)
      let (later, watcher) := (watcher.notify disk.workingDirectory change).finish disk rest
      (first ++ now ++ later, watcher)

/-- Watches for a span of time and then until no rescan is left. -/
def run (disk : Disk) (span : Time) (deliveries : Deliveries) (watcher : Watcher) :
    List Announcement × Watcher :=
  let limit := watcher.scheduler.now + span
  let (first, watcher) := watcher.start.advanceTo disk limit deliveries
  let (rest, watcher) := watcher.finish disk (deliveries.filter fun (time, _) => limit < time)
  (first ++ rest, watcher.stop)

end Watcher

end SceneScript
