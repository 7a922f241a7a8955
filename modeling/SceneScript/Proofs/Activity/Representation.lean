import SceneScript.Proofs.Activity.Uninterrupted
import SceneScript.Proofs.Index.Arrangement

/-! # The index of a running project

Whatever operations run and however their steps interleave, the index is always that of the texts
most recently published, file by file.

* `Activity.Represents` — the invariant: what the index stands for, and that no scan in flight will
  index a file twice;
* `Activity.Step.represents` — every step keeps it;
* `Activity.mirrors_published` — what follows for every run.
-/

namespace SceneScript

/-- The scan has no file twice. -/
def FullScan.ListsOnce : FullScan → Prop
  | .listing => True
  | .reading scenes => (scenes.map (·.1.toText)).Nodup

namespace FullScan

theorem listsOnce_listed {scenes : List Path} (distinct : (scenes.map Path.toText).Nodup) :
    (listed scenes).ListsOnce := by
  simpa [listed, ListsOnce, Function.comp_def] using distinct

theorem ListsOnce.set {scenes : List (Path × Option Text)} {position : Nat} {path : Path}
    (once : (reading scenes).ListsOnce) (unread : scenes[position]? = some (path, none))
    (text : Text) : (reading (scenes.set position (path, some text))).ListsOnce := by
  obtain ⟨bound, there⟩ := List.getElem?_eq_some_iff.1 unread
  have position_lt : position < (scenes.map (·.1.toText)).length := by simpa using bound
  have same : (scenes.map (·.1.toText))[position] = path.toText := by simp [there]
  rw [ListsOnce, List.map_set, ← same, List.set_getElem_self]
  exact once

theorem ListsOnce.fileTexts {texts : List (Path × Text)} (once : (complete texts).ListsOnce) :
    ((Activity.fileTexts texts).map (·.1)).Nodup := by
  simpa [complete, ListsOnce, Activity.fileTexts, Function.comp_def] using once

end FullScan

namespace Activity

/-- The index is that of `contents`, and no scan in flight has a file twice. -/
structure Represents (s : Activity) (contents : Text → Option Text) : Prop where
  once : ∀ number scan, s.fullScans.get? number = some scan → scan.ListsOnce
  arranged : ∃ texts, s.project.index.snapshot.Arranged s.project.vocabulary texts ∧
    ∀ file, texts.get? file = contents file

theorem represents_start (project : Project) (disk : Disk) :
    (start project disk).Represents fun _ => none :=
  ⟨fun _ _ found => (nomatch found), ∅, IndexSnapshot.arranged_empty _, fun _ => rfl⟩

theorem foldl_revise_announced (contents : Text → Option Text)
    (announcements : List Announcement) :
    (announcements.map Event.announced).foldl Event.revise contents = contents := by
  induction announcements with
  | nil => rfl
  | cons _ _ ih => exact ih

namespace Represents

variable {s : Activity} {contents : Text → Option Text} (represents : s.Represents contents)

include represents

theorem once_setFullScan {number : Nat} {scan : FullScan} (once : scan.ListsOnce) :
    ∀ other found, (s.fullScans.insert number scan).get? other = some found →
      found.ListsOnce := by
  intro other found there
  rw [OrderedMap.get?_insert] at there
  split at there
  · cases there
    exact once
  · exact represents.once other found there

theorem once_erase (number : Nat) :
    ∀ other found, (s.fullScans.erase number).get? other = some found → found.ListsOnce := by
  intro other found there
  rw [OrderedMap.get?_erase] at there
  split at there
  · cases there
  · exact represents.once other found there

theorem update (file : Text) (text : Option Text) :
    (s.update file text).2.Represents ((Event.fileUpdated file text).revise contents) := by
  obtain ⟨texts, arranged, texts_eq⟩ := represents.arranged
  refine ⟨represents.once, editTexts texts file text, arranged.edit file text, fun other => ?_⟩
  rw [get?_editTexts, texts_eq]
  rfl

/-- A published scan: its listing has no file twice, so that each text it read counts once, and the
recorded edits come after. -/
theorem publish (tallied : s.Tallied) {number : Nat} {texts : List (Path × Text)}
    (waits : s.fullScans.get? number = some (.complete texts))
    (latest : number = s.project.index.generation) :
    (s.endFullScan number (fileTexts texts)).2.2.Represents
      ((Event.scanPublished number (fileTexts texts) s.project.index.edits).revise contents) := by
  have scanned : (IndexSnapshot.ofTexts s.project.vocabulary _).Arranged _ _ :=
    IndexSnapshot.arranged_ofTexts (represents.once _ _ waits).fileTexts
  obtain ⟨replayed, arranged, texts_eq⟩ := scanned.replay tallied.edited
  refine ⟨represents.once_erase number, replayed, ?_, texts_eq⟩
  rw [index_endFullScan_of_latest _ latest]
  exact arranged

end Represents

theorem Step.represents {s t : Activity} {events : List Event} {contents : Text → Option Text}
    (step : Step s events t) (tallied : s.Tallied)
    (distinct : ∀ number scenes, .scenesListed number scenes ∈ events →
      (scenes.map Path.toText).Nodup)
    (represents : s.Represents contents) :
    t.Represents (events.foldl Event.revise contents) := by
  cases step with
  | update file text =>
    rw [List.foldl_cons, List.foldl_cons, foldl_revise_announced]
    exact represents.update file text
  | endFileScan _ =>
    rw [List.foldl_cons, List.foldl_cons, foldl_revise_announced]
    exact ⟨represents.once, (represents.update _ _).arranged⟩
  | clear => exact ⟨represents.once, ∅, IndexSnapshot.arranged_empty _, fun _ => rfl⟩
  | beginFullScan => exact ⟨represents.once_setFullScan trivial, represents.arranged⟩
  | listScenes waits =>
    have once := FullScan.listsOnce_listed (distinct _ _ (List.mem_singleton.2 rfl))
    exact ⟨represents.once_setFullScan once, represents.arranged⟩
  | readScene waits unread =>
    have once := (represents.once _ _ waits).set unread
    exact ⟨represents.once_setFullScan (once _), represents.arranged⟩
  | publishFullScan waits publishes =>
    rw [List.foldl_cons, foldl_revise_announced]
    exact represents.publish tallied waits (endFullScan_fst_eq_true_iff.1 publishes)
  | discardFullScan waits superseded =>
    rw [List.foldl_cons, foldl_revise_announced]
    refine ⟨represents.once_erase _, ?_⟩
    rw [index_endFullScan_of_superseded _ (endFullScan_fst_eq_false_iff.1 superseded)]
    exact represents.arranged
  | abandonFullScan _ => exact ⟨represents.once_erase _, represents.arranged⟩
  | changeDisk | beginFileScan | lookForFile | readFile | abandonFileScan =>
    exact ⟨represents.once, represents.arranged⟩

theorem Run.represents {s t : Activity} {events : List Event} {contents : Text → Option Text}
    (run : Run s events t) (tallied : s.Tallied)
    (distinct : ∀ number scenes, .scenesListed number scenes ∈ events →
      (scenes.map Path.toText).Nodup)
    (represents : s.Represents contents) :
    t.Represents (events.foldl Event.revise contents) := by
  induction run with
  | stay => exact represents
  | step run step ih =>
    rw [List.foldl_append]
    exact step.represents (run.tallied tallied)
      (fun number scenes listed => distinct number scenes (List.mem_append_right _ listed))
      (ih fun number scenes listed => distinct number scenes (List.mem_append_left _ listed))

/-- In every reachable state the index mirrors the texts most recently published, as long as every
listing of the scene files has pairwise distinct paths. -/
theorem mirrors_published {project : Project} {disk : Disk} {events : List Event} {s : Activity}
    (run : Run (start project disk) events s)
    (distinct : ∀ number scenes, .scenesListed number scenes ∈ events →
      (scenes.map Path.toText).Nodup) :
    s.project.index.snapshot.Mirrors project.vocabulary (published events) := by
  obtain ⟨_, texts, arranged, texts_eq⟩ :=
    run.represents (tallied_start project disk) distinct (represents_start project disk)
  have vocabulary : s.project.vocabulary = project.vocabulary := run.setting_eq.1
  have contents : texts.get? = published events := funext texts_eq
  rw [← contents, ← vocabulary]
  exact arranged.mirrors

/-- The second of two overlapping scans reads the old text and publishes the new one, which the
file was given meanwhile. -/
theorem mirrors_published_of_overlap :
    ∃ events s, Run (start Sample.project (Sample.disk Sample.oldText)) events s ∧
      s.project.index.snapshot.Mirrors Sample.project.vocabulary (published events) ∧
      published events Sample.scene.toText = some Sample.newText := by
  have begun := (Run.single (.beginFullScan
    (start Sample.project (Sample.disk Sample.oldText)))).step (.beginFullScan _)
  have read := begun.append (Sample.run_read 2 rfl (Sample.not_overlong _) Sample.scenesOf_oldText)
  have edited := read.step (.update _ Sample.scene.toText (some Sample.newText))
  have ended := edited.step (@Step.publishFullScan _ 2 [(Sample.scene, Sample.oldText)] rfl rfl)
  have abandoned := ended.step (@Step.abandonFullScan _ 1 _ rfl)
  refine ⟨_, _, abandoned, mirrors_published abandoned ?_, rfl⟩
  intro number scenes member
  have listed : scenes = [Sample.scene] := by simp_all
  rw [listed]
  exact List.nodup_cons.2 ⟨List.not_mem_nil, List.nodup_nil⟩

end Activity

end SceneScript
