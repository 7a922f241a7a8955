import SceneScript.Decimal
import SceneScript.OrderedMap

/-! # Coalescing scheduler

Work is scheduled under a key and starts after a delay. Scheduling a key whose run still waits
cancels that run, so that a burst of requests has one run; work that has started is left to finish.
Everything takes turns in one queue, and time passes only when the queue is empty.

* `Time` — the clock;
* `Scheduler.schedule`, `Scheduler.cancel`, `Scheduler.cancelAll` — what may be requested;
* `Scheduler.isPending`, `Scheduler.pendingCount` — which runs still wait;
* `Scheduler.takeTurn?`, `Scheduler.fireTimer?` — the steps by which runs make progress;
* `Scheduler.settle`, `Scheduler.advance`, `Scheduler.waitIdle` — many steps at once.

A run passes through the phases `created`, `delayed` (left out when there is no delay), `due`,
`working`, `resuming` and `ended`. It is cancelled by a mark that it finds at its next turn. While
it is at work it keeps what it took out of the waiting table when it started.
-/

namespace SceneScript

/-- Time in picoseconds. -/
abbrev Time := Nat

namespace Time

def perSecond : Nat := 1000000000000

/-- Deadlines that are less than this away have come. -/
def instant : Time := perSecond / 1000000000

/-- A span that no clock runs through. -/
def forever : Time := Nat.pow 10 400

/-- A span of time, of which there is some if the number is positive; a negative number of seconds
counts as none. -/
def ofSeconds (seconds : Float) : Time :=
  match DoubleParts.ofFloat seconds with
  | .finite false 0 _ => 0
  | .finite false mantissa exponent =>
    let r := (Ratio.mk (2 * mantissa * perSecond) 1).scaleBy 2 exponent
    max 1 ((r.floor + 1) / 2)
  | .infinite false => forever
  | _ => 0

end Time

/-- Runs are numbered in the order in which they are scheduled. -/
abbrev RunId := Nat

inductive Request (κ ω : Type) where
  | schedule (key : κ) (work : ω) (delay : Option Time)
  | cancel (key : κ)
  | cancelAll
  deriving Repr, DecidableEq

/-- What happens once work has started: after a while it makes requests, and then it may fail. -/
structure Course (κ ω : Type) where
  duration : Time := 0
  requests : List (Request κ ω) := []
  fails : Bool := false
  deriving Repr, DecidableEq

inductive Phase where
  | created
  | delayed (deadline : Time)
  | due
  | working (deadline : Time) (entry : Option RunId)
  | resuming (entry : Option RunId)
  | ended
  deriving Repr, DecidableEq

/-- When a phase ends by the clock. -/
def Phase.deadline? : Phase → Option Time
  | .delayed deadline | .working deadline _ => some deadline
  | _ => none

structure Run (κ ω : Type) where
  key : κ
  work : ω
  delay : Time
  phase : Phase := .created
  cancelled : Bool := false
  deriving Repr, DecidableEq

inductive OccurrenceKind where
  | started
  | cancelled
  | failed
  | done
  deriving Repr, DecidableEq

structure Occurrence (ω : Type) where
  work : ω
  kind : OccurrenceKind
  time : Time
  deriving Repr, DecidableEq

/-- What waits for its turn: a run, or a message from outside. -/
inductive Turn (μ : Type) where
  | run (id : RunId)
  | message (content : μ)
  deriving Repr, DecidableEq

structure Scheduler (κ ω μ : Type) where
  defaultDelay : Time
  now : Time := 0
  /-- Every run ever scheduled; the number of a run is its place in this list. -/
  runs : List (Run κ ω) := []
  /-- The run of each key that has not started. -/
  waiting : OrderedMap κ RunId := ∅
  running : List RunId := []
  queue : List (Turn μ) := []
  deriving Repr, DecidableEq

namespace Scheduler

variable {κ ω μ : Type} [DecidableEq κ]

def run? (s : Scheduler κ ω μ) (id : RunId) : Option (Run κ ω) := s.runs[id]?

def hasEnded (s : Scheduler κ ω μ) (id : RunId) : Bool :=
  (s.run? id).any fun run => run.phase = .ended

def setPhase (s : Scheduler κ ω μ) (id : RunId) (phase : Phase) : Scheduler κ ω μ :=
  { s with runs := s.runs.modify id fun run => { run with phase } }

def enqueue (s : Scheduler κ ω μ) (turn : Turn μ) : Scheduler κ ω μ :=
  { s with queue := s.queue ++ [turn] }

/-! ## Requests -/

/-- A run that waits for the clock waits for its turn instead. -/
def awaken (s : Scheduler κ ω μ) (id : RunId) : Scheduler κ ω μ :=
  match s.run? id with
  | none => s
  | some run =>
    match run.phase with
    | .delayed _ => (s.setPhase id .due).enqueue (.run id)
    | .working _ entry => (s.setPhase id (.resuming entry)).enqueue (.run id)
    | _ => s

/-- Marks a run as cancelled; the run sees the mark at its next turn. -/
def interrupt (s : Scheduler κ ω μ) (id : RunId) : Scheduler κ ω μ :=
  { s with runs := s.runs.modify id fun run => { run with cancelled := true } }.awaken id

/-- Whether a run was pending, and the state without it. -/
def cancel (s : Scheduler κ ω μ) (key : κ) : Bool × Scheduler κ ω μ :=
  match s.waiting.get? key with
  | none => (false, s)
  | some id =>
    let dropped := { s with waiting := s.waiting.erase key }
    if s.hasEnded id then (false, dropped) else (true, dropped.interrupt id)

def schedule (s : Scheduler κ ω μ) (key : κ) (work : ω) (delay : Option Time) :
    Scheduler κ ω μ :=
  let s := (s.cancel key).2
  let id := s.runs.length
  { s with
    runs := s.runs ++ [{ key, work, delay := delay.getD s.defaultDelay }]
    waiting := s.waiting.insert key id
    queue := s.queue ++ [.run id] }

/-- Cancels the runs that wait and those that have started. -/
def cancelAll (s : Scheduler κ ω μ) : Scheduler κ ω μ :=
  let s := s.waiting.keys.foldl (fun s key => (s.cancel key).2) s
  { s.running.foldl interrupt s with running := [] }

def request (s : Scheduler κ ω μ) : Request κ ω → Scheduler κ ω μ
  | .schedule key work delay => s.schedule key work delay
  | .cancel key => (s.cancel key).2
  | .cancelAll => s.cancelAll

def requestAll (s : Scheduler κ ω μ) (requests : List (Request κ ω)) : Scheduler κ ω μ :=
  requests.foldl request s

/-! ## Questions -/

def isPending (s : Scheduler κ ω μ) (key : κ) : Bool :=
  (s.waiting.get? key).any fun id => !s.hasEnded id

def pendingCount (s : Scheduler κ ω μ) : Nat := s.waiting.values.countP fun id => !s.hasEnded id

/-- The runs that wait or have started, and have not ended. -/
def unfinished (s : Scheduler κ ω μ) : List RunId :=
  (s.waiting.values ++ s.running).filter fun id => !s.hasEnded id

/-! ## Turns -/

/-- The rules of what work does, and of what a message requests. -/
structure Rules (κ ω μ : Type) where
  course : ω → Course κ ω
  answer : μ → Scheduler κ ω μ → List (Request κ ω)

def occurrence (s : Scheduler κ ω μ) (run : Run κ ω) (kind : OccurrenceKind) : Occurrence ω :=
  ⟨run.work, kind, s.now⟩

/-- The delay is over: whatever waits under the key of the run counts as running from here on. -/
def start (rules : Rules κ ω μ) (s : Scheduler κ ω μ) (id : RunId) (run : Run κ ω) :
    List (Occurrence ω) × Scheduler κ ω μ :=
  let entry := s.waiting.get? run.key
  let s :=
    { s with waiting := s.waiting.erase run.key, running := s.running ++ entry.toList }
  let duration := (rules.course run.work).duration
  ([s.occurrence run .started],
   if duration = 0 then (s.setPhase id (.resuming entry)).enqueue (.run id)
   else s.setPhase id (.working (s.now + duration) entry))

/-- What a run took out of the waiting table no longer counts as running. -/
def discard (s : Scheduler κ ω μ) (entry : Option RunId) : Scheduler κ ω μ :=
  { s with running := s.running.filter fun id => some id ≠ entry }

/-- The work is over: it makes its requests, and its failure does not matter to anything else. -/
def finish (rules : Rules κ ω μ) (s : Scheduler κ ω μ) (id : RunId) (run : Run κ ω)
    (entry : Option RunId) : List (Occurrence ω) × Scheduler κ ω μ :=
  let course := rules.course run.work
  let s := (s.setPhase id .ended).requestAll course.requests
  ([s.occurrence run (if course.fails then .failed else .done)], s.discard entry)

/-- The turn of a run. -/
def resume (rules : Rules κ ω μ) (s : Scheduler κ ω μ) (id : RunId) :
    List (Occurrence ω) × Scheduler κ ω μ :=
  match s.run? id with
  | none => ([], s)
  | some run =>
    match run.phase, run.cancelled with
    | .created, true | .due, true => ([], s.setPhase id .ended)
    | .created, false =>
      ([], if run.delay = 0 then (s.setPhase id .due).enqueue (.run id)
           else s.setPhase id (.delayed (s.now + run.delay)))
    | .due, false => s.start rules id run
    | .resuming entry, true =>
      ([s.occurrence run .cancelled], (s.setPhase id .ended).discard entry)
    | .resuming entry, false => s.finish rules id run entry
    | _, _ => ([], s)

/-- The first turn in the queue, if there is one. -/
def takeTurn? (rules : Rules κ ω μ) (s : Scheduler κ ω μ) :
    Option (List (Occurrence ω) × Scheduler κ ω μ) :=
  match s.queue with
  | [] => none
  | .run id :: rest => some ({ s with queue := rest }.resume rules id)
  | .message content :: rest =>
    let s := { s with queue := rest }
    some ([], s.requestAll (rules.answer content s))

/-! ## The clock -/

/-- The earliest deadline with its run; of equal ones, among which none has to come first, the run
that was scheduled first. -/
def nextTimer? (s : Scheduler κ ω μ) : Option (Time × RunId) :=
  (s.runs.zipIdx.filterMap fun (run, id) => run.phase.deadline?.map (·, id)).foldl
    (fun best timer =>
      match best with
      | none => some timer
      | some earliest => if timer.1 < earliest.1 then some timer else best)
    none

/-- Time passes until the next deadline, if that is not after `limit`. -/
def fireTimer? (s : Scheduler κ ω μ) (limit : Option Time) : Option (Scheduler κ ω μ) :=
  match s.nextTimer? with
  | none => none
  | some (deadline, id) =>
    if limit.any (· < deadline) then none
    else
      let now := if deadline < s.now + Time.instant then s.now else deadline
      some ({ s with now }.awaken id)

/-- One step: a turn, or where no turn is left the next deadline up to `limit`. -/
def step? (rules : Rules κ ω μ) (limit : Option Time) (s : Scheduler κ ω μ) :
    Option (List (Occurrence ω) × Scheduler κ ω μ) :=
  match s.takeTurn? rules with
  | some next => some next
  | none => (s.fireTimer? limit).map ([], ·)

/-! ## Many steps -/

/-- At most `fuel` steps, until `stop` holds or no step is left. -/
def runUntil (rules : Rules κ ω μ) (limit : Option Time) (stop : Scheduler κ ω μ → Bool) :
    Nat → Scheduler κ ω μ → List (Occurrence ω) × Scheduler κ ω μ
  | 0, s => ([], s)
  | fuel + 1, s =>
    if stop s then ([], s)
    else
      match s.step? rules limit with
      | none => ([], s)
      | some (occurrences, next) =>
        let (later, last) := runUntil rules limit stop fuel next
        (occurrences ++ later, last)

/-- Everything that can happen at this instant. -/
def settle (rules : Rules κ ω μ) (fuel : Nat) (s : Scheduler κ ω μ) :
    List (Occurrence ω) × Scheduler κ ω μ :=
  s.runUntil rules (some (s.now + Time.instant - 1)) (fun _ => false) fuel

/-- Everything that happens in a span of time. -/
def advance (rules : Rules κ ω μ) (fuel : Nat) (span : Time) (s : Scheduler κ ω μ) :
    List (Occurrence ω) × Scheduler κ ω μ :=
  let limit := s.now + span
  let (occurrences, s) := s.runUntil rules (some limit) (fun _ => false) fuel
  (occurrences, { s with now := max s.now limit })

/-- Waits for the unfinished runs until there are none, also of those scheduled meanwhile, but not
beyond `limit`: whether the wait is over, and what happened meanwhile. -/
def waitIdle (rules : Rules κ ω μ) (fuel : Nat) (limit : Option Time) :
    Nat → Scheduler κ ω μ → Bool × List (Occurrence ω) × Scheduler κ ω μ
  | 0, s => (s.unfinished = [], [], s)
  | rounds + 1, s =>
    match s.unfinished with
    | [] => (true, [], s)
    | ids =>
      let (occurrences, s) := s.runUntil rules limit (fun s => ids.all s.hasEnded) fuel
      if ids.all s.hasEnded then
        let (isOver, later, s) := s.waitIdle rules fuel limit rounds
        (isOver, occurrences ++ later, s)
      else (false, occurrences, s)

end Scheduler

end SceneScript
