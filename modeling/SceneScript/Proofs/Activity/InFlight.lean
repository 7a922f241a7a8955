import SceneScript.Activity

/-! # Scans in flight

Every full scan in flight is counted, and its number is one that was given out. Only the full scan
that began last can publish, and until it does every edit is recorded for it.

* `Activity.Tallied` — what the counters say about the scans in flight;
* `Activity.IsLatest` — a full scan in flight that began last;
* `Activity.Run.isLatest` — what is recorded while a full scan stays the latest.
-/

namespace SceneScript

namespace VariableIndex

variable {vocabulary : Vocabulary} {number : Nat} {texts : FileTexts} {index : VariableIndex}

theorem endScan_of_latest (latest : number = index.generation) :
    index.endScan vocabulary number texts =
      (true,
       { index.publish (index.replayEdits vocabulary (.ofTexts vocabulary texts)) with
         scansRunning := index.scansRunning - 1
         edits := ∅ }) := by
  simp [endScan, commitScan?, latest]

theorem endScan_of_superseded (superseded : number ≠ index.generation) :
    index.endScan vocabulary number texts = (false, index.abandonScan) := by
  simp [endScan, commitScan?, superseded]

theorem endScan_fst_eq_true_iff :
    (index.endScan vocabulary number texts).1 = true ↔ number = index.generation := by
  by_cases latest : number = index.generation
  · rw [endScan_of_latest latest]
    simp [latest]
  · rw [endScan_of_superseded latest]
    simp [latest]

end VariableIndex

namespace Activity

/-! ## The parts of a state that an operation changes -/

section Operations

variable (s : Activity) (number : Nat) (texts : FileTexts) (file : Text) (text : Option Text)

@[simp] theorem index_beginFullScan :
    s.beginFullScan.project.index = s.project.index.beginScan.2 := rfl

@[simp] theorem fullScans_beginFullScan :
    s.beginFullScan.fullScans =
      s.fullScans.insert (s.project.index.generation + 1) .listing := rfl

@[simp] theorem fullScans_endFullScan :
    (s.endFullScan number texts).2.2.fullScans = s.fullScans.erase number := rfl

@[simp] theorem index_update :
    (s.update file text).2.project.index =
      s.project.index.update s.project.vocabulary file text := rfl

variable {s number}

theorem index_endFullScan_of_latest (latest : number = s.project.index.generation) :
    (s.endFullScan number texts).2.2.project.index =
      { s.project.index.publish
          (s.project.index.replayEdits s.project.vocabulary
            (.ofTexts s.project.vocabulary texts)) with
        scansRunning := s.project.index.scansRunning - 1
        edits := ∅ } :=
  congrArg (·.2) (VariableIndex.endScan_of_latest latest)

theorem index_endFullScan_of_superseded (superseded : number ≠ s.project.index.generation) :
    (s.endFullScan number texts).2.2.project.index = s.project.index.abandonScan :=
  congrArg (·.2) (VariableIndex.endScan_of_superseded superseded)

variable {texts}

theorem endFullScan_fst_eq_true_iff :
    (s.endFullScan number texts).1 = true ↔ number = s.project.index.generation :=
  VariableIndex.endScan_fst_eq_true_iff

theorem endFullScan_fst_eq_false_iff :
    (s.endFullScan number texts).1 = false ↔ number ≠ s.project.index.generation := by
  rw [← Bool.not_eq_true, endFullScan_fst_eq_true_iff]

end Operations

/-! ## Numbers and counters -/

/-- The counters tell how many full scans are in flight and bound the numbers of all scans. -/
structure Tallied (s : Activity) : Prop where
  distinct : s.fullScans.keys.Nodup
  running : s.project.index.scansRunning = s.fullScans.size
  begun : ∀ number ∈ s.fullScans.keys, number ≤ s.project.index.generation
  edited : s.project.index.edits.keys.Nodup
  numbered : ∀ number ∈ s.fileScans.keys, number < s.fileScansBegun

theorem tallied_start (project : Project) (disk : Disk) : (start project disk).Tallied where
  distinct := List.nodup_nil
  running := rfl
  begun := by simp [start]
  edited := List.nodup_nil
  numbered := by simp [start]

namespace Tallied

variable {s : Activity} (tallied : s.Tallied)

include tallied

theorem fresh_fullScan : s.project.index.generation + 1 ∉ s.fullScans.keys := fun member =>
  absurd (tallied.begun _ member) (by omega)

theorem fresh_fileScan : s.fileScansBegun ∉ s.fileScans.keys := fun member =>
  Nat.lt_irrefl _ (tallied.numbered _ member)

theorem setFullScan {number : Nat} (inFlight : number ∈ s.fullScans.keys) (scan : FullScan) :
    (s.setFullScan number scan).Tallied := by
  have keys : (s.fullScans.insert number scan).keys = s.fullScans.keys := by
    rw [OrderedMap.keys_insert, if_pos inFlight]
  constructor
  · simpa [Activity.setFullScan, keys] using tallied.distinct
  · simpa [Activity.setFullScan, OrderedMap.size_eq_length_keys, keys] using tallied.running
  · simpa [Activity.setFullScan, keys] using tallied.begun
  · exact tallied.edited
  · exact tallied.numbered

theorem update (file : Text) (text : Option Text) : (s.update file text).2.Tallied where
  distinct := tallied.distinct
  running := tallied.running
  begun := tallied.begun
  edited := by
    simp only [index_update, VariableIndex.update]
    split
    · exact tallied.edited
    · exact OrderedMap.nodup_keys_insert tallied.edited _ _
  numbered := tallied.numbered

theorem beginFullScan : s.beginFullScan.Tallied := by
  have fresh := tallied.fresh_fullScan
  constructor
  · exact OrderedMap.nodup_keys_insert tallied.distinct _ _
  · simp [VariableIndex.beginScan, tallied.running, OrderedMap.size_eq_length_keys,
      OrderedMap.keys_insert, fresh]
  · intro number member
    simp only [fullScans_beginFullScan, OrderedMap.keys_insert, if_neg fresh, List.mem_append,
      List.mem_singleton] at member
    rcases member with earlier | rfl
    · exact Nat.le_succ_of_le (tallied.begun number earlier)
    · exact Nat.le_refl _
  · simp only [index_beginFullScan, VariableIndex.beginScan]
    split
    · exact List.nodup_nil
    · exact tallied.edited
  · exact tallied.numbered

/-- A scan of one file goes on under its number. -/
theorem setFileScan {number : Nat} (inFlight : number ∈ s.fileScans.keys) (scan : FileScan) :
    (s.setFileScan number scan).Tallied where
  distinct := tallied.distinct
  running := tallied.running
  begun := tallied.begun
  edited := tallied.edited
  numbered := by
    simpa [Activity.setFileScan, OrderedMap.keys_insert, inFlight] using tallied.numbered

theorem beginFileScan (path : Path) : (s.beginFileScan path).Tallied where
  distinct := tallied.distinct
  running := tallied.running
  begun := tallied.begun
  edited := tallied.edited
  numbered number member := by
    simp only [Activity.beginFileScan, Activity.setFileScan, OrderedMap.keys_insert,
      if_neg tallied.fresh_fileScan, List.mem_append, List.mem_singleton] at member
    rcases member with earlier | rfl
    · exact Nat.lt_succ_of_lt (tallied.numbered number earlier)
    · exact Nat.lt_succ_self _

theorem dropFileScan (number : Nat) : (s.dropFileScan number).Tallied where
  distinct := tallied.distinct
  running := tallied.running
  begun := tallied.begun
  edited := tallied.edited
  numbered other member := by
    rw [Activity.dropFileScan, OrderedMap.keys_erase] at member
    exact tallied.numbered other (List.mem_filter.1 member).1

/-- However a full scan ends, it is no longer counted. -/
theorem erase {t : Activity} {number : Nat} (inFlight : number ∈ s.fullScans.keys)
    (ended : t.fullScans = s.fullScans.erase number)
    (running : t.project.index.scansRunning = s.project.index.scansRunning - 1)
    (generation : t.project.index.generation = s.project.index.generation)
    (edited : t.project.index.edits.keys.Nodup) (fileScans : t.fileScans = s.fileScans)
    (fileScansBegun : t.fileScansBegun = s.fileScansBegun) : t.Tallied where
  distinct := by
    rw [ended]
    exact OrderedMap.nodup_keys_erase tallied.distinct _
  running := by
    rw [running, ended, tallied.running, OrderedMap.size_erase_of_mem tallied.distinct inFlight]
  begun other member := by
    rw [ended, OrderedMap.keys_erase] at member
    rw [generation]
    exact tallied.begun other (List.mem_filter.1 member).1
  edited := edited
  numbered := by
    rw [fileScans, fileScansBegun]
    exact tallied.numbered

theorem endFullScan {number : Nat} (inFlight : number ∈ s.fullScans.keys) (texts : FileTexts) :
    (s.endFullScan number texts).2.2.Tallied := by
  by_cases latest : number = s.project.index.generation
  · have index := index_endFullScan_of_latest texts latest
    exact tallied.erase inFlight rfl (by rw [index]) (by rw [index]; rfl)
      (by rw [index]; exact List.nodup_nil) rfl rfl
  · have index := index_endFullScan_of_superseded texts latest
    exact tallied.erase inFlight rfl (by rw [index]; rfl) (by rw [index]; rfl)
      (by rw [index]; exact tallied.edited) rfl rfl

end Tallied

theorem mem_keys_fullScans {s : Activity} {number : Nat} {scan : FullScan}
    (found : s.fullScans.get? number = some scan) : number ∈ s.fullScans.keys :=
  OrderedMap.isSome_get?_iff.1 (by rw [found]; rfl)

theorem mem_keys_fileScans {s : Activity} {number : Nat} {scan : FileScan}
    (found : s.fileScans.get? number = some scan) : number ∈ s.fileScans.keys :=
  OrderedMap.isSome_get?_iff.1 (by rw [found]; rfl)

theorem Step.tallied {s t : Activity} {events : List Event} (step : Step s events t)
    (tallied : s.Tallied) : t.Tallied := by
  cases step with
  | update file text => exact tallied.update file text
  | beginFullScan => exact tallied.beginFullScan
  | listScenes waits => exact tallied.setFullScan (mem_keys_fullScans waits) _
  | readScene waits _ => exact tallied.setFullScan (mem_keys_fullScans waits) _
  | publishFullScan waits _ => exact tallied.endFullScan (mem_keys_fullScans waits) _
  | discardFullScan waits _ => exact tallied.endFullScan (mem_keys_fullScans waits) _
  | abandonFullScan inFlight =>
    exact tallied.erase (mem_keys_fullScans inFlight) rfl rfl rfl tallied.edited rfl rfl
  | beginFileScan path => exact tallied.beginFileScan path
  | lookForFile waits _ => exact tallied.setFileScan (mem_keys_fileScans waits) _
  | readFile waits => exact tallied.setFileScan (mem_keys_fileScans waits) _
  | endFileScan _ => exact (tallied.update _ _).dropFileScan _
  | abandonFileScan _ => exact tallied.dropFileScan _
  | changeDisk | clear =>
    exact ⟨tallied.distinct, tallied.running, tallied.begun, tallied.edited, tallied.numbered⟩

theorem Run.tallied {s t : Activity} {events : List Event} (run : Run s events t)
    (tallied : s.Tallied) : t.Tallied := by
  induction run with
  | stay => exact tallied
  | step _ step ih => exact step.tallied ih

/-! ## What stays the same -/

/-- Nothing changes the words of the script language or the places of the project. -/
theorem Step.setting_eq {s t : Activity} {events : List Event} (step : Step s events t) :
    t.project.vocabulary = s.project.vocabulary ∧ t.project.paths = s.project.paths := by
  cases step <;> exact ⟨rfl, rfl⟩

theorem Run.setting_eq {s t : Activity} {events : List Event} (run : Run s events t) :
    t.project.vocabulary = s.project.vocabulary ∧ t.project.paths = s.project.paths := by
  induction run with
  | stay => exact ⟨rfl, rfl⟩
  | step _ step ih => exact ⟨step.setting_eq.1.trans ih.1, step.setting_eq.2.trans ih.2⟩

theorem generation_endFullScan (s : Activity) (number : Nat) (texts : FileTexts) :
    (s.endFullScan number texts).2.2.project.index.generation = s.project.index.generation := by
  by_cases latest : number = s.project.index.generation
  · rw [index_endFullScan_of_latest texts latest]
    rfl
  · rw [index_endFullScan_of_superseded texts latest]
    rfl

theorem Step.generation_le {s t : Activity} {events : List Event} (step : Step s events t) :
    s.project.index.generation ≤ t.project.index.generation := by
  cases step with
  | beginFullScan => exact Nat.le_succ _
  | publishFullScan | discardFullScan => exact Nat.le_of_eq (generation_endFullScan ..).symm
  | changeDisk | update | clear | listScenes | readScene | abandonFullScan | beginFileScan
  | lookForFile | readFile | endFileScan | abandonFileScan => exact Nat.le_refl _

theorem Run.generation_le {s t : Activity} {events : List Event} (run : Run s events t) :
    s.project.index.generation ≤ t.project.index.generation := by
  induction run with
  | stay => exact Nat.le_refl _
  | step _ step ih => exact Nat.le_trans ih step.generation_le

/-! ## The latest full scan -/

structure IsLatest (s : Activity) (number : Nat) : Prop where
  inFlight : number ∈ s.fullScans.keys
  last : s.project.index.generation = number

/-- The edits recorded after an event for which edits are recorded. -/
def Event.record (edits : OrderedMap Text (Option Text)) : Event →
    OrderedMap Text (Option Text)
  | .fileUpdated file text => edits.insert file text
  | _ => edits

theorem foldl_record_announced (edits : OrderedMap Text (Option Text))
    (announcements : List Announcement) :
    (announcements.map Event.announced).foldl Event.record edits = edits := by
  induction announcements with
  | nil => rfl
  | cons _ _ ih => exact ih

theorem edits_update {s : Activity} (tallied : s.Tallied) {number : Nat}
    (inFlight : number ∈ s.fullScans.keys) (file : Text) (text : Option Text) :
    (s.update file text).2.project.index.edits = s.project.index.edits.insert file text := by
  have counted : s.project.index.scansRunning ≠ 0 := by
    rw [tallied.running, OrderedMap.size_eq_length_keys]
    exact Nat.pos_iff_ne_zero.1 (List.length_pos_of_mem inFlight)
  simp [VariableIndex.update, counted]

/-- A full scan that is the latest after a step was so before, unless the step began it: another
one that begins takes its place, and none but itself could have published. -/
theorem Step.isLatest {s t : Activity} {events : List Event} {number : Nat}
    (step : Step s events t) (tallied : s.Tallied)
    (begun : number ≤ s.project.index.generation) (latest : t.IsLatest number) :
    s.IsLatest number ∧
      t.project.index.edits = events.foldl Event.record s.project.index.edits := by
  obtain ⟨inFlight, last⟩ := latest
  cases step with
  | update file text =>
    refine ⟨⟨inFlight, last⟩, ?_⟩
    rw [edits_update tallied inFlight, List.foldl_cons, List.foldl_cons, foldl_record_announced]
    rfl
  | endFileScan waits =>
    refine ⟨⟨inFlight, last⟩, ?_⟩
    rw [List.foldl_cons, List.foldl_cons, foldl_record_announced]
    exact edits_update tallied inFlight _ _
  | beginFullScan =>
    -- the scan that begins is the latest, and its number is a new one
    have next : s.project.index.generation + 1 = number := last
    omega
  | listScenes waits =>
    rw [Activity.setFullScan, OrderedMap.keys_insert, if_pos (mem_keys_fullScans waits)] at inFlight
    exact ⟨⟨inFlight, last⟩, rfl⟩
  | readScene waits _ =>
    rw [Activity.setFullScan, OrderedMap.keys_insert, if_pos (mem_keys_fullScans waits)] at inFlight
    exact ⟨⟨inFlight, last⟩, rfl⟩
  | publishFullScan waits publishes =>
    rw [endFullScan_fst_eq_true_iff] at publishes
    -- the latest scan is the one that publishes, and it is no longer in flight
    rw [generation_endFullScan, ← publishes] at last
    simp [OrderedMap.keys_erase, last] at inFlight
  | discardFullScan waits superseded =>
    rw [endFullScan_fst_eq_false_iff] at superseded
    rw [generation_endFullScan] at last
    rw [fullScans_endFullScan, OrderedMap.keys_erase] at inFlight
    rw [index_endFullScan_of_superseded _ superseded, List.foldl_cons, foldl_record_announced]
    exact ⟨⟨(List.mem_filter.1 inFlight).1, last⟩, rfl⟩
  | abandonFullScan _ =>
    rw [Activity.abandonFullScan, OrderedMap.keys_erase] at inFlight
    exact ⟨⟨(List.mem_filter.1 inFlight).1, last⟩, rfl⟩
  | changeDisk | clear | beginFileScan | lookForFile | readFile | abandonFileScan =>
    exact ⟨⟨inFlight, last⟩, rfl⟩

/-- As long as a full scan stays the latest, every edit is recorded and none is forgotten. -/
theorem Run.isLatest {s t : Activity} {events : List Event} {number : Nat}
    (run : Run s events t) (tallied : s.Tallied) (begun : number ≤ s.project.index.generation)
    (latest : t.IsLatest number) :
    s.IsLatest number ∧
      t.project.index.edits = events.foldl Event.record s.project.index.edits := by
  induction run with
  | stay => exact ⟨latest, rfl⟩
  | step run step ih =>
    obtain ⟨before, recorded⟩ := step.isLatest (run.tallied tallied)
      (Nat.le_trans begun run.generation_le) latest
    obtain ⟨first, earlier⟩ := ih before
    exact ⟨first, by rw [recorded, earlier, List.foldl_append]⟩

end Activity

end SceneScript
