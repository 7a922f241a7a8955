import SceneScript.Scheduler

/-! # The clock of a scheduler

The clock goes on to the earliest deadline, and a timer fires there. Where several runs have that
deadline the order of their timers is open; the event loop takes the run that was scheduled first.

* `Scheduler.Fires` — a timer fires, whichever of the earliest;
* `Scheduler.fires_of_fireTimer?` — so does the event loop;
* `Scheduler.lt_of_fireTimer?_eq_none` — where it fires none, no deadline is left up to the limit.
-/

namespace SceneScript.Scheduler

variable {κ ω μ : Type}

/-- The timer of a run fires whose deadline is not after any other. A deadline that is less than an
instant away has come. -/
def Fires (s t : Scheduler κ ω μ) : Prop :=
  ∃ id run deadline, s.run? id = some run ∧ run.phase.deadline? = some deadline ∧
    (∀ other later time, s.run? other = some later → later.phase.deadline? = some time →
      deadline ≤ time) ∧
    t = { s with
      now := if deadline < s.now + Time.instant then s.now else deadline }.awaken id

/-! ## The earliest timer -/

def timers (s : Scheduler κ ω μ) : List (Time × RunId) :=
  s.runs.zipIdx.filterMap fun (run, id) => run.phase.deadline?.map (·, id)

theorem mem_timers {s : Scheduler κ ω μ} {deadline : Time} {id : RunId} :
    (deadline, id) ∈ s.timers ↔
      ∃ run, s.run? id = some run ∧ run.phase.deadline? = some deadline := by
  simp only [timers, List.mem_filterMap, Prod.exists, List.mem_zipIdx_iff_getElem?, run?,
    Option.map_eq_some_iff, Prod.mk.injEq]
  constructor
  · rintro ⟨run, other, found, time, awaits, rfl, rfl⟩
    exact ⟨run, found, awaits⟩
  · rintro ⟨run, found, awaits⟩
    exact ⟨run, id, found, deadline, awaits, rfl, rfl⟩

def sooner (best : Option (Time × RunId)) (timer : Time × RunId) : Option (Time × RunId) :=
  match best with
  | none => some timer
  | some earliest => if timer.1 < earliest.1 then some timer else best

theorem nextTimer?_eq_foldl (s : Scheduler κ ω μ) :
    s.nextTimer? = s.timers.foldl sooner none := rfl

theorem exists_foldl_sooner (earliest : Time × RunId) (timers : List (Time × RunId)) :
    ∃ last, timers.foldl sooner (some earliest) = some last ∧ last ∈ earliest :: timers ∧
      ∀ timer ∈ earliest :: timers, last.1 ≤ timer.1 := by
  -- `earliest` is the least of the timers seen so far.
  induction timers generalizing earliest with
  | nil => exact ⟨earliest, rfl, by simp, by simp⟩
  | cons timer rest ih =>
    by_cases earlier : timer.1 < earliest.1
    · obtain ⟨last, folded, member, least⟩ := ih timer
      refine ⟨last, by simpa [sooner, earlier] using folded, .tail _ member, ?_⟩
      refine List.forall_mem_cons.mpr ⟨?_, least⟩
      exact Nat.le_trans (least timer List.mem_cons_self) (Nat.le_of_lt earlier)
    · obtain ⟨last, folded, member, least⟩ := ih earliest
      refine ⟨last, by simpa [sooner, earlier] using folded, by grind, ?_⟩
      obtain ⟨leastOfAll, leastOfRest⟩ := List.forall_mem_cons.mp least
      refine List.forall_mem_cons.mpr ⟨leastOfAll, List.forall_mem_cons.mpr ⟨?_, leastOfRest⟩⟩
      exact Nat.le_trans leastOfAll (Nat.le_of_not_lt earlier)

theorem nextTimer?_eq_none {s : Scheduler κ ω μ} (none : s.nextTimer? = none) : s.timers = [] := by
  rw [nextTimer?_eq_foldl] at none
  cases timers : s.timers with
  | nil => rfl
  | cons timer rest =>
    obtain ⟨last, folded, -⟩ := exists_foldl_sooner timer rest
    rw [timers, List.foldl_cons] at none
    exact nomatch folded.symm.trans none

theorem nextTimer?_eq_some {s : Scheduler κ ω μ} {last : Time × RunId}
    (some : s.nextTimer? = some last) :
    last ∈ s.timers ∧ ∀ timer ∈ s.timers, last.1 ≤ timer.1 := by
  rw [nextTimer?_eq_foldl] at some
  cases timers : s.timers with
  | nil => rw [timers] at some; cases some
  | cons timer rest =>
    obtain ⟨least, folded, spec⟩ := exists_foldl_sooner timer rest
    rw [timers, List.foldl_cons] at some
    cases folded.symm.trans some
    exact spec

/-! ## Timers that fire -/

/-- The event loop fires one of the earliest timers. -/
theorem fires_of_fireTimer? {s t : Scheduler κ ω μ} (limit : Option Time)
    (fires : s.fireTimer? limit = some t) : s.Fires t := by
  unfold fireTimer? at fires
  split at fires
  next => cases fires
  next deadline id next =>
    split at fires
    next => cases fires
    next =>
      obtain ⟨member, least⟩ := nextTimer?_eq_some next
      obtain ⟨run, found, awaits⟩ := mem_timers.mp member
      refine ⟨id, run, deadline, found, awaits, fun other later time foundToo awaitsToo => ?_, ?_⟩
      · exact least (time, other) (mem_timers.mpr ⟨later, foundToo, awaitsToo⟩)
      · exact (Option.some.inj fires).symm

theorem fireTimer?_none {s t : Scheduler κ ω μ} {limit : Option Time}
    (fires : s.fireTimer? limit = some t) : s.fireTimer? none = some t := by
  unfold fireTimer? at fires ⊢
  split at fires
  · cases fires
  · next deadline id timer =>
    split at fires
    · cases fires
    · simpa [timer] using fires

/-- No deadline is left up to the limit. -/
theorem lt_of_fireTimer?_eq_none {s : Scheduler κ ω μ} {limit : Time}
    (quiet : s.fireTimer? (some limit) = none) {id : RunId} {run : Run κ ω} {deadline : Time}
    (found : s.run? id = some run) (awaits : run.phase.deadline? = some deadline) :
    limit < deadline := by
  have member := mem_timers.mpr ⟨run, found, awaits⟩
  unfold fireTimer? at quiet
  split at quiet
  next empty =>
    rw [nextTimer?_eq_none empty] at member
    cases member
  next earliest other next =>
    have least := (nextTimer?_eq_some next).2 (deadline, id) member
    have beyond : limit < earliest := by simpa using quiet
    exact Nat.lt_of_lt_of_le beyond least

end SceneScript.Scheduler
