import SceneScript.Proofs.Activity.Uninterrupted

/-! # Superseded scans

Of the full scans that overlap only the one that began last publishes. However a full scan ends, it
ends once and is no longer counted; if it ends without publishing, nothing has changed and nothing
is announced.

* `Activity.begunNumbers`, `Activity.endedNumbers`, `Activity.publishedNumbers` — the full scans
  that began, ended and published in the course of some events;
* `Activity.Recounts` — the invariant: what the counters say about the events so far;
* `Activity.Accounted` — what one step publishes and announces;
* `Activity.supersession` — what follows for every run.
-/

namespace SceneScript.Activity

/-! ## What events tell -/

namespace Event

def begun? : Event → Option Nat
  | .scanBegun number => some number
  | _ => none

/-- The full scan that ends, whichever way. -/
def ended? : Event → Option Nat
  | .scanPublished number _ _ | .scanDiscarded number | .scanAbandoned number => some number
  | _ => none

def published? : Event → Option Nat
  | .scanPublished number _ _ => some number
  | _ => none

/-- The file whose text is published, where it is not the texts of all files. -/
def publication? : Event → Option (Option Text)
  | .scanPublished .. => some none
  | .fileUpdated file _ => some (some file)
  | _ => none

def announcement? : Event → Option Announcement
  | .announced announcement => some announcement
  | _ => none

theorem filterMap_announced {α : Type} {f : Event → Option α}
    (silent : ∀ a, f (.announced a) = none) (announcements : List Announcement) :
    (announcements.map announced).filterMap f = [] := by
  rw [List.filterMap_map]
  exact List.filterMap_eq_nil_iff.mpr fun announcement _ => silent announcement

end Event

def begunNumbers (events : List Event) : List Nat := events.filterMap Event.begun?

def endedNumbers (events : List Event) : List Nat := events.filterMap Event.ended?

def publishedNumbers (events : List Event) : List Nat := events.filterMap Event.published?

def publications (events : List Event) : List (Option Text) := events.filterMap Event.publication?

def announcements (events : List Event) : List Announcement :=
  events.filterMap Event.announcement?

/-! ## Numbers of full scans -/

/-- The counters say how many full scans began and how many of them are over; those that published
did so in the order of their numbers. -/
structure Recounts (s : Activity) (events : List Event) : Prop where
  begun : begunNumbers events = List.range' 1 s.project.index.generation
  running : s.project.index.scansRunning + (endedNumbers events).length =
    s.project.index.generation
  finished : ∀ number ∈ endedNumbers events,
    number ≤ s.project.index.generation ∧ number ∉ s.fullScans.keys
  once : (endedNumbers events).Nodup
  ended : ∀ number ∈ publishedNumbers events, number ∈ endedNumbers events
  increasing : (publishedNumbers events).Pairwise (· < ·)

theorem recounts_start (project : Project) (disk : Disk) : (start project disk).Recounts [] where
  begun := rfl
  running := rfl
  finished := by simp [endedNumbers]
  once := List.nodup_nil
  ended := by simp [publishedNumbers]
  increasing := List.Pairwise.nil

namespace Recounts

variable {s t : Activity} {events more : List Event} (recounts : s.Recounts events)

include recounts

/-- A step with which no full scan begins or ends. -/
theorem stay (begun : begunNumbers more = []) (ended : endedNumbers more = [])
    (published : publishedNumbers more = [])
    (generation : t.project.index.generation = s.project.index.generation)
    (running : t.project.index.scansRunning = s.project.index.scansRunning)
    (keys : t.fullScans.keys = s.fullScans.keys) : t.Recounts (events ++ more) := by
  have begun_eq : begunNumbers (events ++ more) = begunNumbers events := by
    simpa [begunNumbers] using begun
  have ended_eq : endedNumbers (events ++ more) = endedNumbers events := by
    simpa [endedNumbers] using ended
  have published_eq : publishedNumbers (events ++ more) = publishedNumbers events := by
    simpa [publishedNumbers] using published
  constructor
  · rw [begun_eq, generation, recounts.begun]
  · rw [ended_eq, generation, running, recounts.running]
  · rw [ended_eq, generation, keys]
    exact recounts.finished
  · rw [ended_eq]
    exact recounts.once
  · rw [ended_eq, published_eq]
    exact recounts.ended
  · rw [published_eq]
    exact recounts.increasing

theorem beginFullScan :
    s.beginFullScan.Recounts (events ++ [.scanBegun s.project.beginScan.1]) := by
  have ended_eq : endedNumbers (events ++ [.scanBegun s.project.beginScan.1]) =
      endedNumbers events := by
    simp [endedNumbers, Event.ended?]
  have published_eq : publishedNumbers (events ++ [.scanBegun s.project.beginScan.1]) =
      publishedNumbers events := by
    simp [publishedNumbers, Event.published?]
  have generation : s.beginFullScan.project.index.generation =
      s.project.index.generation + 1 := rfl
  have running : s.beginFullScan.project.index.scansRunning =
      s.project.index.scansRunning + 1 := rfl
  constructor
  · have before := recounts.begun
    rw [begunNumbers] at before ⊢
    rw [List.filterMap_append, before, generation, List.range'_1_concat, Nat.add_comm 1]
    rfl
  · have before := recounts.running
    rw [ended_eq, generation, running]
    omega
  · intro number member
    rw [ended_eq] at member
    obtain ⟨begun, finished⟩ := recounts.finished number member
    rw [generation, fullScans_beginFullScan, OrderedMap.keys_insert]
    refine ⟨Nat.le_succ_of_le begun, ?_⟩
    split
    · exact finished
    · -- the number of the scan that begins is a new one
      simp only [List.mem_append, List.mem_singleton, not_or]
      exact ⟨finished, by omega⟩
  · rw [ended_eq]
    exact recounts.once
  · rw [ended_eq, published_eq]
    exact recounts.ended
  · rw [published_eq]
    exact recounts.increasing

/-- A step with which a full scan ends; only the latest one can publish, and those that published
before it began earlier. -/
theorem finish (tallied : s.Tallied) {number : Nat} (inFlight : number ∈ s.fullScans.keys)
    (begun : begunNumbers more = []) (ended : endedNumbers more = [number])
    (published : publishedNumbers more = [] ∨
      publishedNumbers more = [number] ∧ number = s.project.index.generation)
    (generation : t.project.index.generation = s.project.index.generation)
    (running : t.project.index.scansRunning = s.project.index.scansRunning - 1)
    (fullScans : t.fullScans = s.fullScans.erase number) : t.Recounts (events ++ more) := by
  have begun_eq : begunNumbers (events ++ more) = begunNumbers events := by
    simpa [begunNumbers] using begun
  have ended_eq : endedNumbers (events ++ more) = endedNumbers events ++ [number] := by
    rw [← ended]
    simp [endedNumbers]
  have published_eq : publishedNumbers (events ++ more) =
      publishedNumbers events ++ publishedNumbers more := by
    simp [publishedNumbers]
  have counted : 0 < s.project.index.scansRunning := by
    rw [tallied.running, OrderedMap.size_eq_length_keys]
    exact List.length_pos_of_mem inFlight
  constructor
  · rw [begun_eq, generation, recounts.begun]
  · have before := recounts.running
    rw [ended_eq, generation, running, List.length_append, List.length_singleton]
    omega
  · intro other member
    rw [ended_eq, List.mem_append, List.mem_singleton] at member
    rw [generation, fullScans, OrderedMap.keys_erase, List.mem_filter]
    rcases member with earlier | rfl
    · obtain ⟨begun, finished⟩ := recounts.finished other earlier
      exact ⟨begun, fun still => finished still.1⟩
    · exact ⟨tallied.begun other inFlight, by simp⟩
  · rw [ended_eq, List.nodup_append]
    refine ⟨recounts.once, List.pairwise_singleton .., ?_⟩
    rintro other earlier _ member rfl
    -- the scan that ends was in flight, so it has not ended before
    rw [List.mem_singleton] at member
    exact (recounts.finished other earlier).2 (member ▸ inFlight)
  · intro other member
    rw [published_eq, List.mem_append] at member
    rw [ended_eq, List.mem_append]
    rcases member with earlier | now
    · exact .inl (recounts.ended other earlier)
    · rcases published with silent | ⟨single, _⟩
      · simp [silent] at now
      · exact .inr (single ▸ now)
  · rw [published_eq, List.pairwise_append]
    refine ⟨recounts.increasing, ?_, ?_⟩
    · rcases published with silent | ⟨single, _⟩
      · rw [silent]
        exact List.Pairwise.nil
      · rw [single]
        exact List.pairwise_singleton ..
    · intro earlier before later now
      rcases published with silent | ⟨single, latest⟩
      · simp [silent] at now
      · -- the earlier one is over while the one that publishes is in flight
        rw [single, List.mem_singleton] at now
        obtain ⟨begun, finished⟩ := recounts.finished earlier (recounts.ended earlier before)
        have differ : earlier ≠ number := fun same => finished (same ▸ inFlight)
        omega

end Recounts

/-- Writing to a full scan in flight leaves the numbers in flight as they are. -/
theorem keys_setFullScan {s : Activity} {number : Nat} {scan : FullScan}
    (found : s.fullScans.get? number = some scan) (later : FullScan) :
    (s.setFullScan number later).fullScans.keys = s.fullScans.keys := by
  rw [setFullScan, OrderedMap.keys_insert, if_pos (mem_keys_fullScans found)]

theorem Step.recounts {s t : Activity} {events more : List Event} (step : Step s more t)
    (tallied : s.Tallied) (recounts : s.Recounts events) : t.Recounts (events ++ more) := by
  cases step with
  | beginFullScan => exact recounts.beginFullScan
  | listScenes waits => exact recounts.stay rfl rfl rfl rfl rfl (keys_setFullScan waits _)
  | readScene waits _ => exact recounts.stay rfl rfl rfl rfl rfl (keys_setFullScan waits _)
  | publishFullScan waits publishes =>
    rw [endFullScan_fst_eq_true_iff] at publishes
    apply recounts.finish tallied (mem_keys_fullScans waits)
    · exact Event.filterMap_announced (fun _ => rfl) _
    · exact congrArg (_ :: ·) (Event.filterMap_announced (fun _ => rfl) _)
    · exact .inr ⟨congrArg (_ :: ·) (Event.filterMap_announced (fun _ => rfl) _), publishes⟩
    · exact generation_endFullScan ..
    · rw [index_endFullScan_of_latest _ publishes]
    · rfl
  | discardFullScan waits superseded =>
    rw [endFullScan_fst_eq_false_iff] at superseded
    apply recounts.finish tallied (mem_keys_fullScans waits)
    · exact Event.filterMap_announced (fun _ => rfl) _
    · exact congrArg (_ :: ·) (Event.filterMap_announced (fun _ => rfl) _)
    · exact .inl (Event.filterMap_announced (fun _ => rfl) _)
    · exact generation_endFullScan ..
    · rw [index_endFullScan_of_superseded _ superseded]
      rfl
    · rfl
  | abandonFullScan inFlight =>
    exact recounts.finish tallied (mem_keys_fullScans inFlight) rfl rfl (.inl rfl) rfl rfl rfl
  | changeDisk | update | clear | beginFileScan | lookForFile | readFile | endFileScan
  | abandonFileScan => exact recounts.stay rfl rfl rfl rfl rfl rfl

theorem Run.recounts {s t : Activity} {events more : List Event} (run : Run s more t)
    (tallied : s.Tallied) (recounts : s.Recounts events) : t.Recounts (events ++ more) := by
  induction run with
  | stay => simpa using recounts
  | step run step ih =>
    rw [← List.append_assoc]
    exact step.recounts (run.tallied tallied) ih

/-- A full scan in flight began last exactly if its number is the last one given out. -/
theorem Recounts.getLast?_begunNumbers {s : Activity} {events : List Event}
    (recounts : s.Recounts events) (tallied : s.Tallied) {number : Nat}
    (inFlight : number ∈ s.fullScans.keys) :
    (begunNumbers events).getLast? = some number ↔ number = s.project.index.generation := by
  have running : 0 < s.project.index.scansRunning := by
    rw [tallied.running, OrderedMap.size_eq_length_keys]
    exact List.length_pos_of_mem inFlight
  have begun : s.project.index.generation ≠ 0 := by
    have counted := recounts.running
    omega
  rw [recounts.begun, List.getLast?_range', if_neg begun, Option.some.injEq]
  omega

/-! ## Publications -/

/-- What one step publishes and announces. -/
structure Accounted (s : Activity) (events : List Event) (t : Activity) : Prop where
  announced : announcements events = (publications events).map fun file =>
    .index ⟨file.isNone, t.project.index.records.size, file⟩
  once : (publications events).length ≤ 1
  kept : publications events = [] → .cleared ∉ events →
    t.project.index.snapshot = s.project.index.snapshot
  silent : ∀ number, .scanDiscarded number ∈ events ∨ .scanAbandoned number ∈ events →
    publications events = [] ∧ .cleared ∉ events

theorem announcements_endFullScan (s : Activity) (number : Nat) (texts : FileTexts) :
    (s.endFullScan number texts).2.1 =
      if (s.endFullScan number texts).1 then
        [.index ((s.endFullScan number texts).2.2.project.index.announcement none)]
      else [] := rfl

theorem Step.accounted {s t : Activity} {events : List Event} (step : Step s events t) :
    s.Accounted events t := by
  cases step with
  | update file text => exact ⟨rfl, Nat.le_refl _, nofun, by simp⟩
  | endFileScan waits => exact ⟨rfl, Nat.le_refl _, nofun, by simp⟩
  | publishFullScan waits publishes =>
    rw [announcements_endFullScan, if_pos publishes]
    exact ⟨rfl, Nat.le_refl _, nofun, by simp⟩
  | discardFullScan waits superseded =>
    rw [announcements_endFullScan, superseded]
    rw [endFullScan_fst_eq_false_iff] at superseded
    refine ⟨rfl, Nat.zero_le _, fun _ _ => ?_, fun _ _ => ⟨rfl, by simp⟩⟩
    rw [index_endFullScan_of_superseded _ superseded]
    rfl
  | clear => exact ⟨rfl, Nat.zero_le _, fun _ kept => absurd List.mem_cons_self kept, by simp⟩
  | abandonFullScan => exact ⟨rfl, Nat.zero_le _, fun _ _ => rfl, fun _ _ => ⟨rfl, by simp⟩⟩
  | changeDisk | beginFullScan | listScenes | readScene | beginFileScan
  | lookForFile | readFile | abandonFileScan => exact ⟨rfl, Nat.zero_le _, fun _ _ => rfl, by simp⟩

/-! ## The whole protocol -/

theorem mem_publishedNumbers {number : Nat} {events : List Event} :
    number ∈ publishedNumbers events ↔
      ∃ texts edits, .scanPublished number texts edits ∈ events := by
  simp only [publishedNumbers, List.mem_filterMap]
  constructor
  · rintro ⟨event, member, found⟩
    cases event with
    | scanPublished _ texts edits =>
      cases found
      exact ⟨texts, edits, member⟩
    | _ => cases found
  · rintro ⟨texts, edits, member⟩
    exact ⟨_, member, rfl⟩

/-- A full scan that publishes is in flight until then and has the last number; one that is
discarded has an earlier one. -/
theorem Step.commits {s t : Activity} {events : List Event} (step : Step s events t)
    (number : Nat) :
    (number ∈ publishedNumbers events →
      number ∈ s.fullScans.keys ∧ number = s.project.index.generation) ∧
    (.scanDiscarded number ∈ events →
      number ∈ s.fullScans.keys ∧ number ≠ s.project.index.generation) := by
  cases step with
  | publishFullScan waits publishes =>
    rw [endFullScan_fst_eq_true_iff] at publishes
    refine ⟨fun member => ?_, fun member => absurd member (by simp)⟩
    obtain ⟨_, _, there⟩ := mem_publishedNumbers.1 member
    rcases List.mem_cons.1 there with own | announced
    · cases own
      exact ⟨mem_keys_fullScans waits, publishes⟩
    · simp at announced
  | discardFullScan waits superseded =>
    rw [endFullScan_fst_eq_false_iff] at superseded
    refine ⟨fun member => absurd member (by simp [mem_publishedNumbers]), fun member => ?_⟩
    rcases List.mem_cons.1 member with own | announced
    · cases own
      exact ⟨mem_keys_fullScans waits, superseded⟩
    · simp at announced
  | changeDisk | update | clear | beginFullScan | listScenes | readScene | abandonFullScan
  | beginFileScan | lookForFile | readFile | endFileScan | abandonFileScan =>
    simp [mem_publishedNumbers]

/-- Of overlapping full scans the one that began last publishes, the others are discarded or
abandoned and leave the index as it is; the scans that publish do so in the order of their numbers,
every scan ends at most once and is counted until then, and every publication is announced once. -/
theorem supersession {project : Project} {disk : Disk} {events : List Event} {s : Activity}
    (run : Run (start project disk) events s) :
    (∀ number texts, s.fullScans.get? number = some (.complete texts) →
      ((s.endFullScan number (fileTexts texts)).1 = true ↔
        (begunNumbers events).getLast? = some number)) ∧
    (publishedNumbers events).Pairwise (· < ·) ∧
    (endedNumbers events).Nodup ∧
    s.project.index.scansRunning + (endedNumbers events).length =
      (begunNumbers events).length ∧
    ∀ more t, Step s more t →
      s.Accounted more t ∧
      (∀ number ∈ publishedNumbers more, (begunNumbers events).getLast? = some number) ∧
      ∀ number, .scanDiscarded number ∈ more → (begunNumbers events).getLast? ≠ some number := by
  have tallied := run.tallied (tallied_start project disk)
  have recounts : s.Recounts events := run.recounts (tallied_start project disk)
    (recounts_start project disk)
  refine ⟨?_, recounts.increasing, recounts.once, ?_, ?_⟩
  · intro number texts waits
    rw [endFullScan_fst_eq_true_iff,
      recounts.getLast?_begunNumbers tallied (mem_keys_fullScans waits)]
  · rw [recounts.begun, List.length_range', recounts.running]
  · intro more t step
    refine ⟨step.accounted, fun number published => ?_, fun number discarded => ?_⟩
    · obtain ⟨inFlight, latest⟩ := (step.commits number).1 published
      exact (recounts.getLast?_begunNumbers tallied inFlight).2 latest
    · obtain ⟨inFlight, superseded⟩ := (step.commits number).2 discarded
      rwa [ne_eq, recounts.getLast?_begunNumbers tallied inFlight]

/-- Both of two overlapping scans have read everything; whichever comes first, only the second one
publishes. -/
theorem supersession_of_overlap :
    ∃ events s, Run (start Sample.project (Sample.disk Sample.oldText)) events s ∧
      begunNumbers events = [1, 2] ∧
      (s.endFullScan 1 (fileTexts [(Sample.scene, Sample.oldText)])).1 = false ∧
      (s.endFullScan 2 (fileTexts [(Sample.scene, Sample.oldText)])).1 = true := by
  have begun := (Run.single (.beginFullScan
    (start Sample.project (Sample.disk Sample.oldText)))).step (.beginFullScan _)
  have read := (begun.append (Sample.run_read 1 rfl (Sample.not_overlong _)
    Sample.scenesOf_oldText)).append
      (Sample.run_read 2 rfl (Sample.not_overlong _) Sample.scenesOf_oldText)
  have commits := (supersession read).1
  refine ⟨_, _, read, rfl, ?_, (commits 2 _ rfl).2 rfl⟩
  rw [← Bool.not_eq_true, commits 1 _ rfl]
  decide

end SceneScript.Activity
