import SceneScript.Session
import SceneScript.Proofs.Activity.Replay
import SceneScript.Proofs.Project.Scan

/-! # Scans of a disk at rest

Once no scan is in flight, the past of a project leaves no trace in the next scan: as long as the
disk stays the same and no text of a file is put in, whatever is published is what a new project
would find.

* `Project.AgreesWith` — two projects that know the same and report the same;
* `Session.Current` — the invariant: what the scans in flight have read is on the disk;
* `Session.Step.current`, `Session.Run.current` — it is preserved while nothing else happens;
* `Session.run_scan` — a scan of the project, step by step;
* `Session.scan_forgets` — what follows for every history.
-/

namespace SceneScript

/-! ## What a project knows -/

namespace Project

variable {project other : Project} {disk : Disk}

structure AgreesWith (project other : Project) (disk : Disk) : Prop where
  records : project.index.records = other.index.records
  files : project.index.files = other.index.files
  assets : project.assets = other.assets
  report : ∀ validateResources,
    project.diagnoseAll disk validateResources = other.diagnoseAll disk validateResources

theorem checker_congr (settings : project.unscanned = other.unscanned)
    (records : project.index.records = other.index.records)
    (assets : project.assets = other.assets) : project.checker = other.checker := by
  obtain ⟨-, catalog, vocabulary, -⟩ := unscanned_eq_iff.mp settings
  have isDefined : project.index.isDefined = other.index.isDefined := by
    funext name
    simp only [VariableIndex.isDefined, VariableIndex.record?, records]
  simp only [checker, catalog, vocabulary, assets, isDefined]

theorem AgreesWith.of_snapshot (settings : project.unscanned = other.unscanned)
    (snapshot : project.index.snapshot = other.index.snapshot)
    (assets : project.assets = other.assets) : project.AgreesWith other disk where
  records := congrArg IndexSnapshot.records snapshot
  files := congrArg IndexSnapshot.files snapshot
  assets := assets
  report validateResources := by
    have records := congrArg IndexSnapshot.records snapshot
    obtain ⟨paths, -, -, validates⟩ := unscanned_eq_iff.mp settings
    have scenes : project.diagnoseScenes disk validateResources =
        other.diagnoseScenes disk validateResources := by
      funext scenes
      simp only [diagnoseScenes, diagnoseFile, diagnoseText, validates,
        checker_congr settings records assets]
    simp only [diagnoseAll, search, paths, scenes]

theorem AgreesWith.symm (agrees : project.AgreesWith other disk) :
    other.AgreesWith project disk :=
  ⟨agrees.records.symm, agrees.files.symm, agrees.assets.symm, fun v => (agrees.report v).symm⟩

theorem AgreesWith.trans {third : Project} (agrees : project.AgreesWith other disk)
    (more : other.AgreesWith third disk) : project.AgreesWith third disk :=
  ⟨agrees.records.trans more.records, agrees.files.trans more.files,
    agrees.assets.trans more.assets, fun v => (agrees.report v).trans (more.report v)⟩

end Project

namespace Activity

variable {s t : Activity} {events : List Event}

theorem Step.unscanned_eq (step : Step s events t) :
    t.project.unscanned = s.project.unscanned := by
  cases step <;> rfl

theorem Step.assets_eq (step : Step s events t) : t.project.assets = s.project.assets := by
  cases step <;> rfl

theorem fresh_congr (settings : t.project.unscanned = s.project.unscanned)
    (disk : t.disk = s.disk) : t.fresh = s.fresh := by
  obtain ⟨paths, -, vocabulary, -⟩ := Project.unscanned_eq_iff.mp settings
  simp only [fresh, paths, vocabulary, disk]

def Event.Indexes : Event → Prop
  | .scanPublished .. => True
  | _ => False

theorem Event.indexes_iff {event : Event} :
    event.Indexes ↔ ∃ number texts edits, event = .scanPublished number texts edits := by
  cases event <;> simp [Indexes]

/-- Nothing changes what is indexed unless a full scan publishes or something is not quiet. -/
theorem Step.snapshot_eq (step : Step s events t) (quiet : ∀ event ∈ events, event.IsQuiet)
    (silent : ∀ event ∈ events, ¬ event.Indexes) :
    t.project.index.snapshot = s.project.index.snapshot := by
  cases step with
  | clear => exact (quiet _ List.mem_cons_self).elim
  | update file text => exact (quiet _ (List.mem_cons_of_mem _ List.mem_cons_self)).elim
  | endFileScan waits => exact (quiet _ (List.mem_cons_of_mem _ List.mem_cons_self)).elim
  | publishFullScan => exact (silent _ List.mem_cons_self trivial).elim
  | discardFullScan waits superseded =>
    rw [index_endFullScan_of_superseded _ (endFullScan_fst_eq_false_iff.mp superseded)]
    rfl
  | changeDisk | beginFullScan | listScenes | readScene | abandonFullScan | beginFileScan
  | lookForFile | readFile | abandonFileScan => rfl

/-- No edit is recorded for a full scan in flight. -/
def Unedited (s : Activity) : Prop := s.fullScans.entries ≠ [] → s.project.index.edits = ∅

theorem Unedited.setFullScan (unedited : s.Unedited) {number : Nat} {scan : FullScan}
    (waits : s.fullScans.get? number = some scan) (later : FullScan) :
    (s.setFullScan number later).Unedited := by
  intro _
  refine unedited fun none => ?_
  simp [OrderedMap.get?, none] at waits

theorem Step.unedited (step : Step s events t) (tallied : s.Tallied)
    (quiet : ∀ event ∈ events, event.IsQuiet) (unedited : s.Unedited) : t.Unedited := by
  cases step with
  | clear => exact (quiet _ List.mem_cons_self).elim
  | update file text => exact (quiet _ (List.mem_cons_of_mem _ List.mem_cons_self)).elim
  | endFileScan waits => exact (quiet _ (List.mem_cons_of_mem _ List.mem_cons_self)).elim
  | beginFullScan =>
    intro _
    rw [edits_beginFullScan tallied]
    split
    · rfl
    next inFlight => exact unedited inFlight
  | listScenes waits | readScene waits => exact unedited.setFullScan waits _
  | publishFullScan waits publishes =>
    intro _
    rw [index_endFullScan_of_latest _ (endFullScan_fst_eq_true_iff.mp publishes)]
  | discardFullScan waits superseded =>
    intro _
    rw [index_endFullScan_of_superseded _ (endFullScan_fst_eq_false_iff.mp superseded)]
    exact unedited fun none => by simp [OrderedMap.get?, none] at waits
  | abandonFullScan inFlight =>
    intro _
    exact unedited fun none => by simp [OrderedMap.get?, none] at inFlight
  | changeDisk | beginFileScan | lookForFile | readFile | abandonFileScan => exact unedited

theorem replayEdits_of_unedited {index : VariableIndex} (unedited : index.edits = ∅)
    (vocabulary : Vocabulary) (read : IndexSnapshot) :
    index.replayEdits vocabulary read = read := by
  rw [VariableIndex.replayEdits, unedited]
  rfl

/-- A full scan that publishes has read everything from the disk, and replays nothing. -/
theorem Step.snapshot_of_indexes (step : Step s events t) (unedited : s.Unedited)
    (reads : ∀ number, s.ReadsFrom number) (indexes : ∃ event ∈ events, event.Indexes) :
    t.project.index.snapshot = s.fresh := by
  obtain ⟨event, member, indexes⟩ := indexes
  obtain ⟨number, texts, edits, rfl⟩ := Event.indexes_iff.mp indexes
  obtain ⟨latest, -, ⟨read, waits, rfl⟩, -, replayed⟩ := step.of_scanPublished member
  have inFlight : s.fullScans.entries ≠ [] := fun none => by
    simp [OrderedMap.get?, none] at waits
  rw [replayed, replayEdits_of_unedited (unedited inFlight), fresh,
    (reads number _ waits).eq_scenesOf, fileTexts_scenesOf]

end Activity

/-- A scan publishes what it found in each folder, once it has listed them all. -/
theorem AssetScan.exists_of_library? {scan : AssetScan} {library : AssetLibrary}
    (complete : scan.library? = some library) :
    ∃ folders, library = .ofFolders folders ∧
      ∀ type, scan.found.get? type = some (folders type) := by
  unfold library? at complete
  split at complete
  next all =>
    refine ⟨_, (Option.some.inj complete).symm, fun type => ?_⟩
    obtain ⟨assets, there⟩ := Option.isSome_iff_exists.mp (all type (AssetType.mem_all type))
    rw [there, Option.getD_some]
  next => cases complete

/-- A scan that has listed every folder of a disk publishes the assets of that disk. -/
theorem AssetScan.scan_eq_of_library? {scan : AssetScan} {library : AssetLibrary}
    {paths : ProjectPaths} {disk : Disk} (complete : scan.library? = some library)
    (listed : ∀ type assets, scan.found.get? type = some assets →
      Asset.inFolder paths disk type = .ok assets) :
    AssetLibrary.scan paths disk = .ok library := by
  obtain ⟨folders, rfl, found⟩ := exists_of_library? complete
  exact AssetLibrary.scan_eq_ok_iff.mpr
    ⟨folders, fun type => listed type _ (found type), rfl⟩

/-- The folders of some kinds, one after another. -/
def AssetScan.addAll (found : AssetType → List Asset) (types : List AssetType)
    (scan : AssetScan) : AssetScan :=
  types.foldl (fun scan type => scan.add type (found type)) scan

theorem AssetScan.get?_addAll (found : AssetType → List Asset) (types : List AssetType)
    (scan : AssetScan) (type : AssetType) : (scan.addAll found types).found.get? type =
      if type ∈ types then some (found type) else scan.found.get? type := by
  induction types generalizing scan with
  | nil => rfl
  | cons first rest ih =>
    rw [addAll, List.foldl_cons, ← addAll, ih, AssetScan.add, OrderedMap.get?_insert]
    by_cases later : type ∈ rest
    · simp [later]
    · by_cases now : type = first
      · simp [now]
      · simp [later, now, Ne.symm now]

theorem AssetScan.library?_addAll (found : AssetType → List Asset) :
    (({} : AssetScan).addAll found AssetType.all).library? = some (.ofFolders found) := by
  have all (type : AssetType) :
      (({} : AssetScan).addAll found AssetType.all).found.get? type = some (found type) := by
    rw [get?_addAll, if_pos (AssetType.mem_all type)]
  simp only [AssetScan.library?, OrderedMap.contains, all, Option.isSome_some, implies_true,
    if_true, Option.getD_some]

namespace Session

variable {s t : Session} {events : List Event}

/-! ## Quiet steps -/

/-- Neither the disk changes nor does the text of a file, other than by full scans. -/
def Event.IsQuiet : Event → Prop
  | .activity event => event.IsQuiet
  | _ => True

def Event.Indexes : Event → Prop
  | .activity event => event.Indexes
  | _ => False

def Event.Stocks : Event → Prop
  | .assetsPublished .. => True
  | _ => False

theorem isQuiet_of_activity {events : List Activity.Event}
    (quiet : ∀ event ∈ events.map Event.activity, event.IsQuiet) :
    ∀ event ∈ events, event.IsQuiet :=
  fun _ member => quiet _ (List.mem_map_of_mem member)

theorem Step.unscanned_eq (step : Step s events t) :
    t.project.unscanned = s.project.unscanned := by
  cases step with
  | activity step => exact step.unscanned_eq
  | beginAssetScan | listFolder | publishAssets | abandonAssetScan => rfl

theorem Run.unscanned_eq (run : Run s events t) :
    t.project.unscanned = s.project.unscanned := by
  induction run with
  | stay => rfl
  | step _ step ih => exact step.unscanned_eq.trans ih

theorem Step.disk_eq (step : Step s events t) (unchanged : .activity .diskChanged ∉ events) :
    t.disk = s.disk := by
  cases step with
  | activity step => exact step.disk_eq fun changed => unchanged (List.mem_map_of_mem changed)
  | beginAssetScan | listFolder | publishAssets | abandonAssetScan => rfl

/-! ## Scans in flight -/

/-- What the scans in flight have read is on the disk, and no edit is recorded for them. -/
structure Current (s : Session) : Prop where
  tallied : s.toActivity.Tallied
  unedited : s.toActivity.Unedited
  read : ∀ number, s.toActivity.ReadsFrom number
  listed : ∀ number scan, s.assetScans.get? number = some scan →
    ∀ type assets, scan.found.get? type = some assets → s.listFolder type = .ok assets

/-- Nothing is in flight that could publish what is not on the disk. -/
structure AtRest (s : Session) : Prop where
  fullScans : s.fullScans.entries = []
  assetScans : s.assetScans.entries = []

theorem AtRest.current (rest : s.AtRest) (tallied : s.toActivity.Tallied) : s.Current where
  tallied := tallied
  unedited inFlight := absurd rest.fullScans inFlight
  read number scan waits := by simp [OrderedMap.get?, rest.fullScans] at waits
  listed number scan waits := by simp [OrderedMap.get?, rest.assetScans] at waits

theorem listFolder_congr (settings : t.project.unscanned = s.project.unscanned)
    (disk : t.disk = s.disk) (type : AssetType) : t.listFolder type = s.listFolder type := by
  obtain ⟨paths, -⟩ := Project.unscanned_eq_iff.mp settings
  simp only [listFolder, paths, disk]

theorem Step.tallied (step : Step s events t) (tallied : s.toActivity.Tallied) :
    t.toActivity.Tallied := by
  cases step with
  | activity step => exact step.tallied tallied
  | beginAssetScan | listFolder | publishAssets | abandonAssetScan =>
    exact ⟨tallied.distinct, tallied.running, tallied.begun, tallied.edited, tallied.numbered⟩

theorem Run.tallied (run : Run s events t) (tallied : s.toActivity.Tallied) :
    t.toActivity.Tallied := by
  induction run with
  | stay => exact tallied
  | step _ step ih => exact step.tallied ih

theorem Step.current (step : Step s events t) (quiet : ∀ event ∈ events, event.IsQuiet)
    (current : s.Current) : t.Current := by
  have tallied := step.tallied current.tallied
  have settings := step.unscanned_eq
  have disk := step.disk_eq fun changed => quiet _ changed
  cases step with
  | activity step =>
    have quiet := isQuiet_of_activity quiet
    refine ⟨tallied, step.unedited current.tallied quiet current.unedited,
      fun number => step.readsFrom (fun changed => quiet _ changed) (current.read number), ?_⟩
    intro number scan waits type assets found
    rw [listFolder_congr settings disk]
    exact current.listed number scan waits type assets found
  | beginAssetScan =>
    refine ⟨tallied, current.unedited, current.read, fun number scan waits type assets found => ?_⟩
    rw [Session.beginAssetScan, setAssetScan, OrderedMap.get?_insert] at waits
    split at waits
    · cases waits
      cases found
    · exact current.listed number scan waits type assets found
  | @listFolder number scan listing assets waits unlisted nowListed =>
    refine ⟨tallied, current.unedited, current.read, ?_⟩
    intro other later waiting type assets found
    rw [setAssetScan, OrderedMap.get?_insert] at waiting
    split at waiting
    · cases waiting
      rw [AssetScan.add, OrderedMap.get?_insert] at found
      split at found
      next same =>
        cases found
        rw [← same]
        exact nowListed
      · exact current.listed number scan waits type assets found
    · exact current.listed other later waiting type assets found
  | publishAssets waits | abandonAssetScan waits =>
    refine ⟨tallied, current.unedited, current.read, ?_⟩
    intro other later waiting type assets found
    simp only [Session.publishAssets, dropAssetScan, OrderedMap.get?_erase] at waiting
    split at waiting
    · cases waiting
    · exact current.listed other later waiting type assets found

/-! ## What is published -/

theorem Step.snapshot_eq (step : Step s events t) (quiet : ∀ event ∈ events, event.IsQuiet)
    (silent : ∀ event ∈ events, ¬ event.Indexes) :
    t.project.index.snapshot = s.project.index.snapshot := by
  cases step with
  | activity step =>
    exact step.snapshot_eq (isQuiet_of_activity quiet) fun event member indexes =>
      silent _ (List.mem_map_of_mem member) indexes
  | beginAssetScan | listFolder | publishAssets | abandonAssetScan => rfl

theorem Step.snapshot_of_indexes (step : Step s events t) (current : s.Current)
    (indexes : ∃ event ∈ events, event.Indexes) : t.project.index.snapshot = s.fresh := by
  obtain ⟨event, member, indexes⟩ := indexes
  cases step with
  | activity step =>
    obtain ⟨own, ownMember, rfl⟩ := List.mem_map.mp member
    exact step.snapshot_of_indexes current.unedited current.read ⟨own, ownMember, indexes⟩
  | publishAssets =>
    rcases List.mem_cons.mp member with rfl | announced
    · exact indexes.elim
    · obtain ⟨announcement, -, rfl⟩ := List.mem_map.mp announced
      exact indexes.elim
  | beginAssetScan | abandonAssetScan =>
    rw [List.mem_singleton] at member
    subst member
    exact indexes.elim
  | listFolder => cases member

theorem Step.assets_eq (step : Step s events t) (silent : ∀ event ∈ events, ¬ event.Stocks) :
    t.project.assets = s.project.assets := by
  cases step with
  | activity step => exact step.assets_eq
  | publishAssets => exact (silent _ List.mem_cons_self trivial).elim
  | beginAssetScan | listFolder | abandonAssetScan => rfl

theorem Step.assets_of_stocks (step : Step s events t) (current : s.Current)
    (stocks : ∃ event ∈ events, event.Stocks) :
    AssetLibrary.scan s.project.paths s.disk = .ok t.project.assets := by
  obtain ⟨event, member, stocks⟩ := stocks
  cases step with
  | activity step =>
    obtain ⟨own, -, rfl⟩ := List.mem_map.mp member
    exact stocks.elim
  | publishAssets waits complete =>
    exact AssetScan.scan_eq_of_library? complete (current.listed _ _ waits)
  | beginAssetScan | abandonAssetScan =>
    rw [List.mem_singleton] at member
    subst member
    exact stocks.elim
  | listFolder => cases member

/-- What is known after some events in which only scans published. -/
structure Settled (s : Session) (events : List Event) (t : Session) : Prop where
  current : t.Current
  settings : t.project.unscanned = s.project.unscanned
  disk : t.disk = s.disk
  indexed : (∃ event ∈ events, event.Indexes) → t.project.index.snapshot = s.fresh
  stocked : (∃ event ∈ events, event.Stocks) →
    AssetLibrary.scan s.project.paths s.disk = .ok t.project.assets

theorem Run.settled (run : Run s events t) (quiet : ∀ event ∈ events, event.IsQuiet)
    (current : s.Current) : s.Settled events t := by
  induction run with
  | stay => exact ⟨current, rfl, rfl, by simp, by simp⟩
  | @step events more t u run step ih =>
    obtain ⟨quiet, quietToo⟩ := List.forall_mem_append.mp quiet
    obtain ⟨current, settings, disk, indexed, stocked⟩ := ih quiet
    have fresh : t.fresh = s.fresh := Activity.fresh_congr settings disk
    obtain ⟨paths, -⟩ := Project.unscanned_eq_iff.mp settings
    refine ⟨step.current quietToo current, step.unscanned_eq.trans settings,
      (step.disk_eq fun changed => quietToo _ changed).trans disk, ?_, ?_⟩
    -- what was published last counts, and before the last step that is known
    · rintro ⟨event, member, indexes⟩
      by_cases now : ∃ event ∈ more, event.Indexes
      · exact (step.snapshot_of_indexes current now).trans fresh
      · rw [step.snapshot_eq quietToo fun event member indexes => now ⟨event, member, indexes⟩]
        rcases List.mem_append.mp member with before | last
        · exact indexed ⟨event, before, indexes⟩
        · exact absurd ⟨event, last, indexes⟩ now
    · rintro ⟨event, member, stocks⟩
      by_cases now : ∃ event ∈ more, event.Stocks
      · rw [← paths, ← disk]
        exact step.assets_of_stocks current now
      · rw [step.assets_eq fun event member stocks => now ⟨event, member, stocks⟩]
        rcases List.mem_append.mp member with before | last
        · exact stocked ⟨event, before, stocks⟩
        · exact absurd ⟨event, last, stocks⟩ now

/-! ## A scan that nothing interrupts -/

theorem get?_setAssetScan (s : Session) (number : Nat) (scan : AssetScan) :
    (s.setAssetScan number scan).assetScans.get? number = some scan := by
  rw [setAssetScan, OrderedMap.get?_insert, if_pos rfl]

theorem setAssetScan_setAssetScan (s : Session) (number : Nat) (scan later : AssetScan) :
    (s.setAssetScan number scan).setAssetScan number later = s.setAssetScan number later := by
  simp only [setAssetScan, OrderedMap.insert_insert]

section ListFolders

variable {found : AssetType → List Asset}

theorem run_listFolders {s : Session} (listed : ∀ type, s.listFolder type = .ok (found type))
    (number : Nat) (types : List AssetType) (distinct : types.Nodup) (scan : AssetScan)
    (unlisted : ∀ type ∈ types, scan.found.contains type = false) :
    Run (s.setAssetScan number scan) [] (s.setAssetScan number (scan.addAll found types)) := by
  induction types generalizing scan with
  | nil => exact .stay
  | cons first rest ih =>
    obtain ⟨once, distinct⟩ := List.nodup_cons.mp distinct
    have step := Step.listFolder (get?_setAssetScan s number scan) (unlisted first (by simp))
      (listed first)
    rw [setAssetScan_setAssetScan] at step
    refine (Run.single step).append (ih distinct _ fun type member => ?_)
    have other : first ≠ type := fun same => once (same ▸ member)
    rw [AssetScan.add, OrderedMap.contains, OrderedMap.get?_insert, if_neg other]
    exact unlisted type (List.mem_cons_of_mem _ member)

theorem run_scanAssets_of_ok {s : Session} (fresh : s.assetScansBegun ∉ s.assetScans.keys)
    {library : AssetLibrary} (scanned : AssetLibrary.scan s.project.paths s.disk = .ok library) :
    Run s
      (.assetScanBegun s.assetScansBegun :: .assetsPublished s.assetScansBegun library ::
        (s.project.scanAssets s.disk).announcements.map fun a => .activity (.announced a))
      { s with
        project := (s.project.scanAssets s.disk).project
        assetScansBegun := s.assetScansBegun + 1 } := by
  obtain ⟨found, each, rfl⟩ := AssetLibrary.scan_eq_ok_iff.mp scanned
  rw [Project.scanAssets_of_ok scanned]
  let waiting := { s with assetScansBegun := s.assetScansBegun + 1 }
  have lists := run_listFolders (s := waiting) each s.assetScansBegun AssetType.all (by decide) {}
    fun _ _ => rfl
  have publishes := Step.publishAssets (get?_setAssetScan waiting s.assetScansBegun _)
    (AssetScan.library?_addAll found)
  have ended : ((waiting.setAssetScan s.assetScansBegun
      (AssetScan.addAll found AssetType.all {})).publishAssets s.assetScansBegun
        (.ofFolders found)).2 =
      { waiting with project := (s.project.stock (.ofFolders found)).2 } := by
    simp only [publishAssets, dropAssetScan, setAssetScan,
      OrderedMap.erase_insert_of_notMem (show _ ∉ waiting.assetScans.keys from fresh)]
    rfl
  have run := ((Run.single (.beginAssetScan s)).append lists).step publishes
  rw [ended] at run
  exact run

end ListFolders

/-- Where a folder cannot be listed a scan of the assets is abandoned. -/
theorem run_scanAssets_of_error {s : Session} (fresh : s.assetScansBegun ∉ s.assetScans.keys)
    {e : DiskError} (failed : AssetLibrary.scan s.project.paths s.disk = .error e) :
    Run s [.assetScanBegun s.assetScansBegun, .assetScanAbandoned s.assetScansBegun]
      { s with
        project := (s.project.scanAssets s.disk).project
        assetScansBegun := s.assetScansBegun + 1 } := by
  let waiting := { s with assetScansBegun := s.assetScansBegun + 1 }
  have abandons := Step.abandonAssetScan (get?_setAssetScan waiting s.assetScansBegun {})
  rw [dropAssetScan, setAssetScan, OrderedMap.erase_insert_of_notMem
    (show _ ∉ waiting.assetScans.keys from fresh)] at abandons
  simp only [Project.scanAssets, failed]
  exact (Run.single (.beginAssetScan s)).step abandons

/-- Scans of the variables and of the assets publish, and nothing else changes. -/
structure Rescan (s : Session) (events : List Event) (t : Session) : Prop where
  run : Run s events t
  quiet : ∀ event ∈ events, event.IsQuiet
  indexes : ∃ event ∈ events, event.Indexes
  stocks : ∃ event ∈ events, event.Stocks

/-- A scan of the project that succeeds publishes both. -/
theorem run_scan {s : Session} (tallied : s.toActivity.Tallied)
    (fresh : s.assetScansBegun ∉ s.assetScans.keys)
    (scans : (s.project.scan s.disk).result = .ok ()) :
    ∃ events, s.Rescan events { s with
      project := (s.project.scan s.disk).project
      assetScansBegun := s.assetScansBegun + 1 } := by
  obtain ⟨library, scanned⟩ := Project.result_scan_eq_ok_iff.mp scans
  let stocked := { s with
    project := (s.project.scanAssets s.disk).project
    assetScansBegun := s.assetScansBegun + 1 }
  have stocks := run_scanAssets_of_ok fresh scanned
  have talliedToo : stocked.toActivity.Tallied := stocks.tallied tallied
  have paths : stocked.project.paths = s.project.paths :=
    (Project.unscanned_eq_iff.mp Project.unscanned_scanAssets).1
  have listed := Activity.listScenes_eq_ok_iff (s := stocked.toActivity).mpr
    ⟨by rw [paths]; exact Project.not_overlong_of_scan scans, rfl⟩
  have indexes := Activity.run_scanVariables_of_ok talliedToo listed
  have run := stocks.append (Run.activity (s := stocked) indexes)
  refine ⟨_, run, ?_, ?_, ?_⟩
  · rw [List.forall_mem_append, List.forall_mem_cons, List.forall_mem_cons, List.forall_mem_map,
      List.forall_mem_map, List.forall_mem_append, List.forall_mem_map]
    refine ⟨⟨trivial, trivial, fun _ _ => trivial⟩, fun event member => ?_, fun _ _ => trivial⟩
    simp only [List.mem_cons, List.not_mem_nil, or_false] at member
    rcases member with rfl | rfl | rfl <;> trivial
  · exact ⟨_, List.mem_append_right _ (List.mem_map_of_mem (List.mem_append_left _
      (List.mem_cons_of_mem _ (List.mem_cons_of_mem _ List.mem_cons_self)))), trivial⟩
  · exact ⟨_, List.mem_append_left _ (List.mem_cons_of_mem _ List.mem_cons_self), trivial⟩

/-! ## Every history -/

theorem Rescan.agreesWith {project : Project} (rescan : s.Rescan events t) (current : s.Current)
    (settings : s.project.unscanned = project.unscanned) :
    (project.unscanned.scan s.disk).result = .ok () ∧
      t.project.AgreesWith (project.unscanned.scan s.disk).project s.disk := by
  have settled := rescan.run.settled rescan.quiet current
  obtain ⟨paths, -, vocabulary, -⟩ := Project.unscanned_eq_iff.mp settings
  have scanned : AssetLibrary.scan project.unscanned.paths s.disk = .ok t.project.assets :=
    (congrArg (AssetLibrary.scan · s.disk) paths).symm.trans (settled.stocked rescan.stocks)
  have scans := Project.result_scan_eq_ok_iff.mpr ⟨_, scanned⟩
  have kept : (project.unscanned.scan s.disk).project.unscanned = project.unscanned.unscanned :=
    Project.unscanned_scan
  have read := Project.sceneTexts_eq_ok_iff.mpr ⟨Project.not_overlong_of_scan scans, rfl⟩
  have idle : project.unscanned.index.carriedEdits = [] := VariableIndex.carriedEdits_of_idle rfl
  have indexed : (project.unscanned.scan s.disk).project.index.snapshot = s.fresh := by
    rw [Project.snapshot_scan read, idle, Activity.fresh, paths, vocabulary]
    rfl
  refine ⟨scans, .of_snapshot ?_ ?_ (Project.assets_scan scanned).symm⟩
  · exact (settled.settings.trans settings).trans kept.symm
  · exact (settled.indexed rescan.indexes).trans indexed.symm

/-- However a project came to be at rest, a scan that now comes to its end leaves it with what a
new project finds on the same disk, and such a scan exists unless the disk keeps it from its end.
Scanning again changes nothing. -/
theorem scan_forgets {project : Project} {disk : Disk} {history : List Event} {s : Session}
    (first : Run (start project disk) history s) (rest : s.AtRest) :
    ((s.project.scan s.disk).result = .ok () → ∃ events, s.Rescan events { s with
      project := (s.project.scan s.disk).project
      assetScansBegun := s.assetScansBegun + 1 }) ∧
    ∀ events t, s.Rescan events t →
      (project.unscanned.scan s.disk).result = .ok () ∧
      t.project.AgreesWith (project.unscanned.scan s.disk).project s.disk ∧
      ∀ more u, t.AtRest → t.Rescan more u → u.project.AgreesWith t.project s.disk := by
  have tallied := first.tallied (Activity.tallied_start _ _)
  have settings : s.project.unscanned = project.unscanned := first.unscanned_eq
  have current := rest.current tallied
  refine ⟨run_scan tallied (by simp [OrderedMap.keys, rest.assetScans]), ?_⟩
  intro events t rescan
  obtain ⟨scans, agrees⟩ := rescan.agreesWith current settings
  refine ⟨scans, agrees, fun more u restToo again => ?_⟩
  have settled := rescan.run.settled rescan.quiet current
  obtain ⟨-, agreesToo⟩ := again.agreesWith settled.current (settled.settings.trans settings)
  rw [settled.disk] at agreesToo
  exact agreesToo.trans agrees.symm

namespace Sample

open Activity.Sample

/-- The assets of the game with one scene. -/
def sceneLibrary : AssetLibrary := ⟨[Asset.ofScene project.paths scene]⟩

theorem scan_oldText : AssetLibrary.scan project.paths (disk oldText) = .ok sceneLibrary :=
  eq_ok_of_toOption (by decide +kernel)

theorem scan_newText : AssetLibrary.scan project.paths (disk newText) = .ok sceneLibrary :=
  eq_ok_of_toOption (by decide +kernel)

end Sample

/-- A text in memory was recorded for a full scan that was abandoned, and then the disk changed. -/
theorem scan_forgets_abandoned :
    let disk := Activity.Sample.disk Activity.Sample.newText
    ∃ history s events t more u,
      Run (start Activity.Sample.project (Activity.Sample.disk Activity.Sample.oldText)) history s ∧
      s.AtRest ∧ s.disk = disk ∧ s.project.index.edits ≠ ∅ ∧
      s.Rescan events t ∧
      t.project.AgreesWith (Activity.Sample.project.unscanned.scan disk).project disk ∧
      t.Rescan more u ∧ u.project.AgreesWith t.project disk := by
  intro disk
  let new := start Activity.Sample.project (Activity.Sample.disk Activity.Sample.oldText)
  have stocked := run_scanAssets_of_ok (s := new) List.not_mem_nil Sample.scan_oldText
  have scanned : new.project.scanAssets new.disk =
      .done (new.project.stock Sample.sceneLibrary) :=
    Project.scanAssets_of_ok Sample.scan_oldText
  rw [scanned] at stocked
  have begun := stocked.step (.activity (.beginFullScan _))
  have given := begun.step (.activity (.update _ "b.txt" (some Activity.Sample.oldText)))
  have abandoned := given.step
    (.activity (@Activity.Step.abandonFullScan _ 1 .listing rfl))
  have history := abandoned.step (.activity (.changeDisk _ disk))
  obtain ⟨exists_rescan, forgets⟩ := scan_forgets history ⟨rfl, rfl⟩
  obtain ⟨events, rescan⟩ :=
    exists_rescan (Project.result_scan_eq_ok_iff.mpr ⟨_, Sample.scan_newText⟩)
  obtain ⟨-, agrees, twice⟩ := forgets _ _ rescan
  have tallied := rescan.run.tallied (history.tallied (Activity.tallied_start _ _))
  obtain ⟨more, again⟩ := run_scan tallied List.not_mem_nil
    (Project.result_scan_eq_ok_iff.mpr ⟨Sample.sceneLibrary, by
      rw [Project.paths_scan]; exact Sample.scan_newText⟩)
  refine ⟨_, _, _, _, _, _, history, ⟨rfl, rfl⟩, rfl, ?_, rescan, agrees, again,
    twice _ _ ⟨rfl, rfl⟩ again⟩
  decide

end Session

end SceneScript
