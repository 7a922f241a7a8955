import SceneScript.Proofs.Activity.Uninterrupted
import SceneScript.Proofs.Index.Share

/-! # Edits made during a full scan

A full scan that publishes replays the edits recorded for it. An edit made after it began is always
among them, so that it is never lost; an edit recorded for an earlier scan that is still in flight
may be among them as well, and then the older text wins over the one that was read.

* `Activity.Step.share_of_scanPublished` — what each file has right after a full scan published;
* `Activity.share_of_lastUpdate?` — the last edit made during the scan;
* `Activity.share_eq_fresh_iff` — when the index is that of the disk;
* `Activity.not_forall_share_eq_fresh` — a run in which it is not.
-/

namespace SceneScript.Activity

/-! ## What a full scan publishes -/

theorem Step.eq_of_scanBegun {s t : Activity} {number : Nat}
    (begins : Step s [.scanBegun number] t) :
    number = s.project.index.generation + 1 ∧ t = s.beginFullScan := by
  generalize begun : [Event.scanBegun number] = events at begins
  cases begins with
  | beginFullScan =>
    cases begun
    exact ⟨rfl, rfl⟩
  | _ => cases begun

theorem notMem_announced {event : Event} (silent : ∀ a, event ≠ .announced a)
    (announcements : List Announcement) : event ∉ announcements.map Event.announced := by
  intro member
  obtain ⟨a, _, same⟩ := List.mem_map.1 member
  exact silent a same.symm

/-- A full scan that publishes is the latest, has read everything, and replays what is recorded. -/
theorem Step.of_scanPublished {s t : Activity} {events : List Event} {number : Nat}
    {texts : FileTexts} {edits : OrderedMap Text (Option Text)} (step : Step s events t)
    (publishes : .scanPublished number texts edits ∈ events) :
    s.IsLatest number ∧ edits = s.project.index.edits ∧
      (∃ read, s.fullScans.get? number = some (.complete read) ∧ texts = fileTexts read) ∧
      t.disk = s.disk ∧
      t.project.index.snapshot =
        s.project.index.replayEdits s.project.vocabulary (.ofTexts s.project.vocabulary texts) := by
  cases step with
  | publishFullScan waits latest =>
    rw [endFullScan_fst_eq_true_iff] at latest
    rcases List.mem_cons.1 publishes with same | announced
    · cases same
      refine ⟨⟨mem_keys_fullScans waits, latest.symm⟩, rfl, ⟨_, waits, rfl⟩, rfl, ?_⟩
      rw [index_endFullScan_of_latest _ latest]
      rfl
    · exact absurd announced (notMem_announced (by simp) _)
  | update | endFileScan =>
    rcases List.mem_cons.1 publishes with same | later
    · cases same
    · rcases List.mem_cons.1 later with same | announced
      · cases same
      · exact absurd announced (notMem_announced (by simp) _)
  | discardFullScan =>
    rcases List.mem_cons.1 publishes with same | announced
    · cases same
    · exact absurd announced (notMem_announced (by simp) _)
  | changeDisk | clear | beginFullScan | listScenes | readScene | abandonFullScan | beginFileScan
  | lookForFile | readFile | abandonFileScan => simp at publishes

theorem Step.share_of_scanPublished {s t : Activity} {events : List Event} {number : Nat}
    {texts : FileTexts} {edits : OrderedMap Text (Option Text)} (step : Step s events t)
    (tallied : s.Tallied) (publishes : .scanPublished number texts edits ∈ events) (file : Text) :
    t.project.index.snapshot.share file =
      (edits.get? file).elim
        ((IndexSnapshot.ofTexts s.project.vocabulary texts).share file)
        (.ofText s.project.vocabulary file) := by
  obtain ⟨_, rfl, _, _, replayed⟩ := step.of_scanPublished publishes
  rw [replayed]
  exact IndexSnapshot.share_replay tallied.edited (IndexSnapshot.gathered_ofTexts ..) file

/-! ## Edits made after the scan began -/

/-- The text that an event gives to a file. -/
def Event.updateOf? (file : Text) : Event → Option (Option Text)
  | .fileUpdated other text => if other = file then some text else none
  | _ => none

def lastUpdate? (file : Text) (events : List Event) : Option (Option Text) :=
  (events.filterMap (Event.updateOf? file)).getLast?

theorem lastUpdate?_cons (file : Text) (event : Event) (rest : List Event) :
    lastUpdate? file (event :: rest) = (lastUpdate? file rest).or (event.updateOf? file) := by
  unfold lastUpdate?
  rw [List.filterMap_cons]
  cases event.updateOf? file with
  | none => simp
  | some text =>
    rw [List.getLast?_cons]
    cases (rest.filterMap (Event.updateOf? file)).getLast? <;> rfl

theorem get?_record (file : Text) (event : Event) (edits : OrderedMap Text (Option Text)) :
    (event.record edits).get? file = (event.updateOf? file).or (edits.get? file) := by
  cases event with
  | fileUpdated other text =>
    by_cases same : other = file <;>
      simp [Event.record, Event.updateOf?, OrderedMap.get?_insert, same]
  | _ => rfl

theorem get?_foldl_record (file : Text) (events : List Event)
    (edits : OrderedMap Text (Option Text)) :
    (events.foldl Event.record edits).get? file =
      (lastUpdate? file events).or (edits.get? file) := by
  induction events generalizing edits with
  | nil => rfl
  | cons event rest ih =>
    rw [List.foldl_cons, ih, get?_record, lastUpdate?_cons, Option.or_assoc]

/-- No edit made during a full scan is lost: right after the scan published, each file that was
edited since it began has exactly what its last edit contributes. -/
theorem share_of_lastUpdate? {project : Project} {disk : Disk} {before during ended : List Event}
    {s t u v : Activity} {number : Nat} {texts : FileTexts}
    {edits : OrderedMap Text (Option Text)} {file : Text} {text : Option Text}
    (first : Run (start project disk) before s) (begins : Step s [.scanBegun number] t)
    (meanwhile : Run t during u) (ends : Step u ended v)
    (publishes : .scanPublished number texts edits ∈ ended)
    (edited : lastUpdate? file during = some text) :
    v.project.index.snapshot.share file = .ofText project.vocabulary file text := by
  have tallied : t.Tallied := begins.tallied (first.tallied (tallied_start project disk))
  obtain ⟨latest, rfl, _⟩ := ends.of_scanPublished publishes
  obtain ⟨rfl, rfl⟩ := begins.eq_of_scanBegun
  obtain ⟨_, recorded⟩ := meanwhile.isLatest tallied (Nat.le_refl _) latest
  have vocabulary : u.project.vocabulary = project.vocabulary :=
    ((first.step begins).append meanwhile).setting_eq.1
  rw [ends.share_of_scanPublished (meanwhile.tallied tallied) publishes, recorded,
    get?_foldl_record, edited, vocabulary]
  rfl

/-- The scan read the old text before the file was given the new one. -/
theorem share_of_lastUpdate?_sample :
    ∃ events s, Run (start Sample.project (Sample.disk Sample.oldText)) events s ∧
      .scanPublished 1 [(Sample.scene.toText, Sample.oldText)]
        ⟨[(Sample.scene.toText, some Sample.newText)]⟩ ∈ events ∧
      s.project.index.snapshot.share Sample.scene.toText =
        .ofText Sample.project.vocabulary Sample.scene.toText (some Sample.newText) := by
  let s := start Sample.project (Sample.disk Sample.oldText)
  let t := s.beginFullScan.setFullScan 1 (.complete [(Sample.scene, Sample.oldText)])
  have begins := Step.beginFullScan s
  have read := Sample.run_read (s := s.beginFullScan) 1 rfl (Sample.not_overlong _)
    Sample.scenesOf_oldText
  have edited := read.step (.update t Sample.scene.toText (some Sample.newText))
  have ends := @Step.publishFullScan (t.update Sample.scene.toText (some Sample.newText)).2 1
    [(Sample.scene, Sample.oldText)] rfl rfl
  refine ⟨_, _, ((Run.single begins).append edited).step ends, ?_, ?_⟩
  · exact List.mem_append_right _ List.mem_cons_self
  · exact share_of_lastUpdate? .stay begins edited ends List.mem_cons_self rfl

/-! ## Edits made before the scan began -/

/-- What a full scan of the disk builds from scratch. -/
def fresh (s : Activity) : IndexSnapshot :=
  .ofTexts s.project.vocabulary <| Project.readTexts s.disk <|
    s.disk.filesBelow s.project.paths.sceneRoot AssetType.sceneExtension

/-- Neither the disk nor the text of a file changes other than by full scans. -/
def Event.IsQuiet : Event → Prop
  | .diskChanged | .fileUpdated .. | .cleared => False
  | _ => True

theorem foldl_record_of_quiet {events : List Event} (quiet : ∀ event ∈ events, event.IsQuiet)
    (edits : OrderedMap Text (Option Text)) : events.foldl Event.record edits = edits := by
  induction events generalizing edits with
  | nil => rfl
  | cons event rest ih =>
    obtain ⟨own, others⟩ := List.forall_mem_cons.1 quiet
    have kept : event.record edits = edits := by
      cases event with
      | fileUpdated => cases own
      | _ => rfl
    rw [List.foldl_cons, kept, ih others]

/-- An index has what is on the disk exactly if that is so for every file that was edited. -/
theorem elim_share_eq_iff {edits : OrderedMap Text (Option Text)} (distinct : edits.keys.Nodup)
    (vocabulary : Vocabulary) (fresh : Text → IndexShare) :
    (∀ file, (edits.get? file).elim (fresh file) (.ofText vocabulary file) = fresh file) ↔
      ∀ edit ∈ edits.entries, IndexShare.ofText vocabulary edit.1 edit.2 = fresh edit.1 := by
  constructor
  · rintro same ⟨file, text⟩ member
    have found := (OrderedMap.get?_eq_some_iff distinct).2 member
    simpa [found] using same file
  · intro same file
    cases found : edits.get? file with
    | none => rfl
    | some text => exact same _ ((OrderedMap.get?_eq_some_iff distinct).1 found)

theorem edits_beginFullScan {s : Activity} (tallied : s.Tallied) :
    s.beginFullScan.project.index.edits =
      if s.fullScans.entries = [] then ∅ else s.project.index.edits := by
  simp [VariableIndex.beginScan, tallied.running, OrderedMap.size]

theorem readsFrom_beginFullScan (s : Activity) :
    s.beginFullScan.ReadsFrom (s.project.index.generation + 1) := by
  intro scan there
  rw [fullScans_beginFullScan, OrderedMap.get?_insert, if_pos rfl] at there
  cases there
  trivial

/-- A full scan that began after the last change of the disk leaves the index of that disk if no
other full scan was in flight when it began, and else only if the edits recorded for that one agree
with the disk. -/
theorem share_eq_fresh_iff {project : Project} {disk : Disk} {before during ended : List Event}
    {s t u v : Activity} {number : Nat} {texts : FileTexts}
    {edits : OrderedMap Text (Option Text)}
    (first : Run (start project disk) before s) (begins : Step s [.scanBegun number] t)
    (meanwhile : Run t during u) (quiet : ∀ event ∈ during, event.IsQuiet)
    (ends : Step u ended v) (publishes : .scanPublished number texts edits ∈ ended) :
    (∀ file, v.project.index.snapshot.share file = v.fresh.share file) ↔
      s.fullScans.entries = [] ∨
        ∀ edit ∈ s.project.index.edits.entries,
          IndexShare.ofText project.vocabulary edit.1 edit.2 = v.fresh.share edit.1 := by
  have tallied : s.Tallied := first.tallied (tallied_start project disk)
  have vocabulary : u.project.vocabulary = project.vocabulary :=
    ((first.step begins).append meanwhile).setting_eq.1
  obtain ⟨latest, rfl, ⟨read, waits, rfl⟩, sameDisk, _⟩ := ends.of_scanPublished publishes
  obtain ⟨rfl, rfl⟩ := begins.eq_of_scanBegun
  have shares := ends.share_of_scanPublished (meanwhile.tallied tallied.beginFullScan) publishes
  -- what the scan read is what is on the disk in the end
  have scanned : IndexSnapshot.ofTexts u.project.vocabulary (fileTexts read) = v.fresh := by
    have reads := meanwhile.readsFrom (fun member => quiet _ member) (readsFrom_beginFullScan s)
    rw [(reads _ waits).eq_scenesOf, fileTexts_scenesOf, fresh, ends.setting_eq.1, sameDisk,
      ends.setting_eq.2]
  -- nothing was recorded since the scan began: what it replays is what it found
  obtain ⟨_, recorded⟩ := meanwhile.isLatest tallied.beginFullScan (Nat.le_refl _) latest
  rw [foldl_record_of_quiet quiet, edits_beginFullScan tallied] at recorded
  rw [vocabulary] at shares scanned
  simp only [shares, scanned, recorded]
  by_cases alone : s.fullScans.entries = []
  · simp [alone]
  · simp only [alone, ↓reduceIte, false_or]
    exact elim_share_eq_iff tallied.edited _ _

/-- The earlier scan was abandoned before the later one began, so that the text which the file had
when it was scanned alone is forgotten. -/
theorem share_eq_fresh_of_abandoned :
    ∃ events s, Run (start Sample.project (Sample.disk Sample.oldText)) events s ∧
      .fileUpdated Sample.scene.toText (some Sample.oldText) ∈ events ∧
      s.disk = Sample.disk Sample.newText ∧
      ∀ file, s.project.index.snapshot.share file = s.fresh.share file := by
  let s := (start Sample.project (Sample.disk Sample.oldText)).beginFullScan
  have rescanned := Sample.run_rescan (s := s) (tallied_start _ _).beginFullScan rfl
  have before := (((Run.single (.beginFullScan _)).append rescanned).step
    (@Step.abandonFullScan _ 1 .listing rfl)).step (.changeDisk _ (Sample.disk Sample.newText))
  let rescan := { s with
    project := (s.project.scanText Sample.scene.toText Sample.oldText).2
    fileScansBegun := 1 }
  let t := { rescan.abandonFullScan 1 with disk := Sample.disk Sample.newText }
  have read := Sample.run_read (s := t.beginFullScan) 2 rfl (Sample.not_overlong _)
    Sample.scenesOf_newText
  have ends := @Step.publishFullScan
    (t.beginFullScan.setFullScan 2 (.complete [(Sample.scene, Sample.newText)])) 2
    [(Sample.scene, Sample.newText)] rfl rfl
  have run := ((before.step (.beginFullScan t)).append read).step ends
  refine ⟨_, _, run, ?_, ?_, ?_⟩
  · simp
  · rfl
  · exact (share_eq_fresh_iff before (.beginFullScan t) read (by simp [Event.IsQuiet]) ends
      List.mem_cons_self).2 (.inl rfl)

/-- The texts of files come from the disk: none is given by a caller, and none is dropped. -/
def Event.IsOfDisk : Event → Prop
  | .fileGiven _ | .cleared => False
  | _ => True

def Event.IsOfFullScan : Event → Prop
  | .scanBegun _ | .scenesListed .. | .scanPublished .. | .scanDiscarded _ | .scanAbandoned _
  | .announced _ => True
  | _ => False

/-- The text that a scan of the file read before the disk changed outweighs the one that the later
full scan read, since another full scan was still in flight when that began. -/
theorem not_forall_share_eq_fresh :
    ¬ ∀ {project : Project} {disk : Disk} {before during ended : List Event}
        {s t u v : Activity} {number : Nat} {texts : FileTexts}
        {edits : OrderedMap Text (Option Text)},
      Run (start project disk) before s → (∀ event ∈ before, event.IsOfDisk) →
      s.fileScans.entries = [] → Step s [.scanBegun number] t → Run t during u →
      (∀ event ∈ during, event.IsOfFullScan) → Step u ended v →
      .scanPublished number texts edits ∈ ended →
      ∀ file, v.project.index.snapshot.share file = v.fresh.share file := by
  intro claim
  let s := (start Sample.project (Sample.disk Sample.oldText)).beginFullScan
  have rescanned := Sample.run_rescan (s := s) (tallied_start _ _).beginFullScan rfl
  have before := ((Run.single (.beginFullScan _)).append rescanned).step
    (.changeDisk _ (Sample.disk Sample.newText))
  let t := { s with
    project := (s.project.scanText Sample.scene.toText Sample.oldText).2
    disk := Sample.disk Sample.newText
    fileScansBegun := 1 }
  have read := Sample.run_read (s := t.beginFullScan) 2 rfl (Sample.not_overlong _)
    Sample.scenesOf_newText
  have ends := @Step.publishFullScan
    (t.beginFullScan.setFullScan 2 (.complete [(Sample.scene, Sample.newText)])) 2
    [(Sample.scene, Sample.newText)] rfl rfl
  -- the index still defines the variable of the old text
  have same := claim before (by simp [Event.IsOfDisk, Project.scanText, Project.update]) rfl
    (.beginFullScan t) read (by simp [Event.IsOfFullScan]) ends List.mem_cons_self
    Sample.scene.toText
  have count := congrArg (fun share => (share.definitions "old").length) same
  exact absurd count (by decide +kernel)

end SceneScript.Activity
