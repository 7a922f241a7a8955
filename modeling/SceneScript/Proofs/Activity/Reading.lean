import SceneScript.Proofs.Activity.InFlight
import SceneScript.Proofs.Disk.Series

/-! # What scans read

As long as the disk stays the same, a full scan reads what is there, however its reads are ordered
and whatever other operations do meanwhile.

* `FullScan.ReadsFrom` — what a full scan has read so far is on the disk;
* `Activity.Run.readsFrom` — it stays so until the disk changes;
* `FullScan.ReadsFrom.eq_scenesOf` — a full scan that has read everything.
-/

namespace SceneScript

/-- Whatever the scan knows of the disk is there. -/
def FullScan.ReadsFrom (disk : Disk) (root : Path) : FullScan → Prop
  | .listing => True
  | .reading scenes =>
    scenes.map (·.1) = disk.filesBelow root AssetType.sceneExtension ∧
      ∀ path text, (path, some text) ∈ scenes → text = disk.readText path

namespace Activity

/-- What a full scan reads of a disk that does not change. -/
def scenesOf (disk : Disk) (root : Path) : List (Path × Text) :=
  (disk.filesBelow root AssetType.sceneExtension).map fun path => (path, disk.readText path)

theorem fileTexts_scenesOf (disk : Disk) (root : Path) :
    fileTexts (scenesOf disk root) =
      Project.readTexts disk (disk.filesBelow root AssetType.sceneExtension) := by
  simp [fileTexts, scenesOf, Project.readTexts]

theorem listScenes_eq_ok_iff {s : Activity} {scenes : List Path} :
    s.listScenes = .ok scenes ↔ ¬ s.disk.Overlong s.project.paths.sceneRoot ∧
      s.disk.filesBelow s.project.paths.sceneRoot AssetType.sceneExtension = scenes :=
  Disk.walk_eq_ok_iff

end Activity

namespace FullScan

variable {disk : Disk} {root : Path} {scenes : List (Path × Option Text)}

theorem readsFrom_listed :
    (listed (disk.filesBelow root AssetType.sceneExtension)).ReadsFrom disk root := by
  constructor
  · simp [List.map_map, Function.comp_def]
  · simp

theorem ReadsFrom.set {position : Nat} {path : Path} (reads : (reading scenes).ReadsFrom disk root)
    (unread : scenes[position]? = some (path, none)) :
    (reading (scenes.set position (path, some (disk.readText path)))).ReadsFrom disk root := by
  obtain ⟨listed, known⟩ := reads
  constructor
  · obtain ⟨bound, there⟩ := List.getElem?_eq_some_iff.1 unread
    have position_lt : position < (scenes.map (·.1)).length := by simpa using bound
    have same : (scenes.map (·.1))[position] = path := by simp [there]
    rw [List.map_set, ← same, List.set_getElem_self, listed]
  · intro other text member
    rcases List.mem_or_eq_of_mem_set member with before | same
    · exact known other text before
    · cases same
      rfl

/-- A full scan that has read everything from one disk has read the scenes of that disk. -/
theorem ReadsFrom.eq_scenesOf {texts : List (Path × Text)}
    (reads : (complete texts).ReadsFrom disk root) : texts = Activity.scenesOf disk root := by
  obtain ⟨listed, known⟩ := reads
  have paths : texts.map (·.1) = disk.filesBelow root AssetType.sceneExtension := by
    simpa [Function.comp_def] using listed
  -- each scene is determined by its path
  have read : ∀ scene ∈ texts, scene = (scene.1, disk.readText scene.1) := by
    rintro ⟨path, text⟩ member
    rw [known path text (List.mem_map_of_mem member)]
  rw [Activity.scenesOf, ← paths, List.map_map]
  exact (List.map_id texts).symm.trans (List.map_congr_left read)

end FullScan

namespace Activity

/-! ## An unchanged disk -/

/-- What the full scan of this number has read so far is on the disk. -/
def ReadsFrom (s : Activity) (number : Nat) : Prop :=
  ∀ scan, s.fullScans.get? number = some scan →
    scan.ReadsFrom s.disk s.project.paths.sceneRoot

variable {s : Activity} {number : Nat}

theorem ReadsFrom.setFullScan (reads : s.ReadsFrom number) {other : Nat} {scan : FullScan}
    (progress : s.ReadsFrom other → scan.ReadsFrom s.disk s.project.paths.sceneRoot) :
    (s.setFullScan other scan).ReadsFrom number := by
  intro found there
  rw [Activity.setFullScan, OrderedMap.get?_insert] at there
  split at there
  next same =>
    subst same
    cases there
    exact progress reads
  next => exact reads found there

theorem ReadsFrom.erase {t : Activity} (reads : s.ReadsFrom number) {other : Nat}
    (ended : t.fullScans = s.fullScans.erase other) (disk : t.disk = s.disk)
    (paths : t.project.paths = s.project.paths) : t.ReadsFrom number := by
  intro scan there
  rw [ended, OrderedMap.get?_erase] at there
  rw [disk, paths]
  split at there
  · cases there
  · exact reads scan there

theorem Step.disk_eq {t : Activity} {events : List Event} (step : Step s events t)
    (unchanged : .diskChanged ∉ events) : t.disk = s.disk := by
  cases step with
  | changeDisk => simp at unchanged
  | _ => rfl

theorem Run.disk_eq {t : Activity} {events : List Event} (run : Run s events t)
    (unchanged : .diskChanged ∉ events) : t.disk = s.disk := by
  induction run with
  | stay => rfl
  | step _ step ih =>
    obtain ⟨before, after⟩ := not_or.mp (mt List.mem_append.mpr unchanged)
    exact (step.disk_eq after).trans (ih before)

theorem Step.readsFrom {t : Activity} {events : List Event} (step : Step s events t)
    (unchanged : .diskChanged ∉ events) (reads : s.ReadsFrom number) : t.ReadsFrom number := by
  cases step with
  | changeDisk => simp at unchanged
  | beginFullScan =>
    exact reads.setFullScan (s := { s with project := s.project.beginScan.2 }) fun _ => trivial
  | listScenes waits listed =>
    obtain ⟨-, rfl⟩ := listScenes_eq_ok_iff.mp listed
    exact reads.setFullScan fun _ => FullScan.readsFrom_listed
  | readScene waits unread => exact reads.setFullScan fun own => (own _ waits).set unread
  | publishFullScan | discardFullScan | abandonFullScan => exact reads.erase rfl rfl rfl
  | update | clear | beginFileScan | lookForFile | readFile | endFileScan | abandonFileScan =>
    exact reads

/-- While the disk stays the same, what a full scan has read is on it. -/
theorem Run.readsFrom {t : Activity} {events : List Event} (run : Run s events t)
    (unchanged : .diskChanged ∉ events) (reads : s.ReadsFrom number) : t.ReadsFrom number := by
  induction run with
  | stay => exact reads
  | step _ step ih =>
    simp only [List.mem_append, not_or] at unchanged
    exact step.readsFrom unchanged.2 (ih unchanged.1)

end Activity
end SceneScript
