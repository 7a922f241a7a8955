import SceneScript.Proofs.Activity.Overtaking
import SceneScript.Proofs.Session.Quiescence

/-! # Scans of assets that overlap

A scan of assets lists the folders one by one and publishes what it found, whatever has been
published since it began. So the assets are those of the scan that published last, each folder as it
was when this scan listed it, and a scan that began early can undo a later one.

* `Session.AssetScanMove` — how a scan of assets came to be where it is after a step;
* `Session.ListedSince` — what the scans have listed is still there;
* `Session.lastStock?` — the scan that the assets come from;
* `Session.assets_of_overlapping_scans` — what is known of the assets in the end;
* `Session.not_forall_assets_of_later_scan` — a scan that undoes a later one.
-/

namespace SceneScript.Session

variable {s t u : Session} {events more : List Event} {number : Nat} {scan : AssetScan}
  {library : AssetLibrary}

/-! ## What a step does to the scans of assets -/

/-- How a scan came to be where it is: it was there before the step, or the step took it there. -/
inductive AssetScanMove (s : Session) (events : List Event) (number : Nat) : AssetScan → Prop
  | kept {scan : AssetScan} (there : s.assetScans.get? number = some scan) :
      AssetScanMove s events number scan
  | begun (next : number = s.assetScansBegun) (told : .assetScanBegun number ∈ events) :
      AssetScanMove s events number {}
  | listed {scan : AssetScan} {type : AssetType} {assets : List Asset}
      (there : s.assetScans.get? number = some scan) (found : s.listFolder type = .ok assets) :
      AssetScanMove s events number (scan.add type assets)

theorem Step.assetScanMove (step : Step s events t)
    (inFlight : t.assetScans.get? number = some scan) : AssetScanMove s events number scan := by
  cases step with
  | activity => exact .kept inFlight
  | beginAssetScan =>
    rcases OrderedMap.eq_or_get?_of_insert inFlight with ⟨rfl, rfl⟩ | there
    · exact .begun rfl List.mem_cons_self
    · exact .kept there
  | listFolder waits unlisted found =>
    rcases OrderedMap.eq_or_get?_of_insert inFlight with ⟨rfl, rfl⟩ | there
    · exact .listed waits found
    · exact .kept there
  | publishAssets | abandonAssetScan => exact .kept (OrderedMap.get?_of_erase inFlight)

theorem Step.of_assetScanBegun (step : Step s events t)
    (begins : .assetScanBegun number ∈ events) :
    number = s.assetScansBegun ∧ t.assetScansBegun = s.assetScansBegun + 1 := by
  cases step with
  | beginAssetScan =>
    cases List.mem_singleton.mp begins
    exact ⟨rfl, rfl⟩
  | _ => simp at begins

theorem Step.assetScansBegun_le (step : Step s events t) :
    s.assetScansBegun ≤ t.assetScansBegun := by
  cases step with
  | beginAssetScan => exact Nat.le_succ _
  | _ => exact Nat.le_refl _

theorem Run.assetScansBegun_le (run : Run s events t) :
    s.assetScansBegun ≤ t.assetScansBegun := by
  induction run with
  | stay => exact Nat.le_refl _
  | step _ step ih => exact Nat.le_trans ih step.assetScansBegun_le

/-- Scans of assets are numbered in the order in which they begin. -/
theorem Run.le_of_assetScanBegun (run : Run s events t)
    (begins : .assetScanBegun number ∈ events) : s.assetScansBegun ≤ number := by
  induction run with
  | stay => cases begins
  | step run step ih =>
    rcases List.mem_append.mp begins with before | now
    · exact ih before
    · rw [(step.of_assetScanBegun now).1]
      exact run.assetScansBegun_le

/-- The scans in flight have begun, and there is no number for another one. -/
structure Enrolled (s : Session) (events : List Event) : Prop where
  numbered : ∀ number, .assetScanBegun number ∈ events → number < s.assetScansBegun
  begun : ∀ number scan, s.assetScans.get? number = some scan → .assetScanBegun number ∈ events

theorem enrolled_start (project : Project) (disk : Disk) : (start project disk).Enrolled [] where
  numbered := by simp
  begun := by simp [start]

theorem Step.enrolled (step : Step s more t) (enrolled : s.Enrolled events) :
    t.Enrolled (events ++ more) where
  numbered number begins := by
    rcases List.mem_append.mp begins with before | now
    · exact Nat.lt_of_lt_of_le (enrolled.numbered number before) step.assetScansBegun_le
    · obtain ⟨rfl, next⟩ := step.of_assetScanBegun now
      omega
  begun number scan inFlight := by
    cases step.assetScanMove inFlight with
    | begun _ told => exact List.mem_append_right _ told
    | kept there | listed there =>
      have before := enrolled.begun number _ there
      exact List.mem_append_left _ before

theorem Run.enrolled {project : Project} {disk : Disk} (run : Run (start project disk) events t) :
    t.Enrolled events := by
  induction run with
  | stay => exact enrolled_start project disk
  | step _ step ih => exact step.enrolled ih

/-! ## A disk that stays the same -/

theorem Run.disk_eq (run : Run s events t) (unchanged : .activity .diskChanged ∉ events) :
    t.disk = s.disk := by
  induction run with
  | stay => rfl
  | step _ step ih =>
    obtain ⟨before, after⟩ := not_or.mp (mt List.mem_append.mpr unchanged)
    exact (step.disk_eq after).trans (ih before)

/-- What the scans with these numbers have listed is on the disk. -/
def ListedSince (s : Session) (since : Nat) : Prop :=
  ∀ number scan, since ≤ number → s.assetScans.get? number = some scan →
    ∀ type assets, scan.found.get? type = some assets → s.listFolder type = .ok assets

theorem Step.listedSince {since : Nat} (step : Step s events t)
    (unchanged : .activity .diskChanged ∉ events) (listed : s.ListedSince since) :
    t.ListedSince since := by
  intro number scan later inFlight type assets found
  rw [listFolder_congr step.unscanned_eq (step.disk_eq unchanged)]
  cases step.assetScanMove inFlight with
  | begun => cases found
  | kept there => exact listed number _ later there type assets found
  | listed there now =>
    rcases OrderedMap.eq_or_get?_of_insert found with ⟨rfl, rfl⟩ | before
    · exact now
    · exact listed number _ later there type assets before

/-- A scan that begins while the disk stays the same lists nothing else. -/
theorem Run.listedSince (run : Run s events t) (enrolled : s.Enrolled more)
    (unchanged : .activity .diskChanged ∉ events) : t.ListedSince s.assetScansBegun := by
  induction run with
  | stay =>
    intro number scan later inFlight
    have earlier := enrolled.numbered number (enrolled.begun number scan inFlight)
    omega
  | step _ step ih =>
    obtain ⟨before, after⟩ := not_or.mp (mt List.mem_append.mpr unchanged)
    exact step.listedSince after (ih before)

/-! ## What a scan has found -/

/-- What a scan has listed was in its folder at a moment since the scan began. -/
theorem Run.sometime_listed {project : Project} {disk : Disk} {type : AssetType}
    {assets : List Asset} (run : Run (start project disk) events t)
    (inFlight : t.assetScans.get? number = some scan)
    (found : scan.found.get? type = some assets) :
    Sometime Run (start project disk) events t fun earlier u =>
      .assetScanBegun number ∈ earlier ∧ u.listFolder type = .ok assets := by
  induction run generalizing scan with
  | stay => simp [start] at inFlight
  | step run step ih =>
    cases step.assetScanMove inFlight with
    | begun => cases found
    | kept there => exact (ih there found).append Run.append (.single step)
    | listed there now =>
      rcases OrderedMap.eq_or_get?_of_insert found with ⟨rfl, rfl⟩ | before
      · have begun := run.enrolled.begun number _ there
        exact (Sometime.now run .stay ⟨begun, now⟩).append Run.append (.single step)
      · exact (ih there before).append Run.append (.single step)

/-! ## The assets that were published last -/

/-- The scan that publishes assets, and what it publishes. -/
def Event.stock? : Event → Option (Nat × AssetLibrary)
  | .assetsPublished number library => some (number, library)
  | _ => none

def lastStock? (events : List Event) : Option (Nat × AssetLibrary) :=
  (events.filterMap Event.stock?).getLast?

theorem lastStock?_append (events more : List Event) :
    lastStock? (events ++ more) = (lastStock? more).or (lastStock? events) := by
  rw [lastStock?, List.filterMap_append, List.getLast?_append]
  rfl

theorem lastStock?_activity (events : List Activity.Event) :
    lastStock? (events.map .activity) = none := by
  simp [lastStock?, Event.stock?, List.filterMap_map, Function.comp_def]

theorem lastStock?_ne_none (published : .assetsPublished number library ∈ events) :
    lastStock? events ≠ none := by
  rw [lastStock?, ne_eq, List.getLast?_eq_none_iff]
  intro nothing
  have stock : (number, library) ∈ events.filterMap Event.stock? :=
    List.mem_filterMap.mpr ⟨_, published, rfl⟩
  rw [nothing] at stock
  cases stock

/-- With a step the assets stay as they are, or a scan that has listed everything publishes. -/
theorem Step.assets_cases (step : Step s events t) :
    (lastStock? events = none ∧ t.project.assets = s.project.assets) ∨
    ∃ number scan library, s.assetScans.get? number = some scan ∧
      scan.library? = some library ∧ lastStock? events = some (number, library) ∧
      t.project.assets = library := by
  cases step with
  | activity step => exact .inl ⟨lastStock?_activity _, step.assets_eq⟩
  | @publishAssets number scan library waits complete =>
    exact .inr ⟨number, scan, library, waits, complete, rfl, rfl⟩
  | beginAssetScan | listFolder | abandonAssetScan => exact .inl ⟨rfl, rfl⟩

/-- Assets that were published come from the scan that published last. -/
theorem Run.exists_lastStock (run : Run s events t) (stocked : lastStock? events ≠ none) :
    ∃ front number scan library u more, Run s front u ∧
      u.assetScans.get? number = some scan ∧ scan.library? = some library ∧ Run u more t ∧
      events = front ++ more ∧ lastStock? more = some (number, library) ∧
      t.project.assets = library := by
  induction run with
  | stay => exact absurd rfl stocked
  | @step earlier latest u v run step ih =>
    rcases step.assets_cases with
      ⟨silent, same⟩ | ⟨number, scan, library, waits, complete, last, now⟩
    · -- nothing is published any more
      rw [lastStock?_append, silent] at stocked
      obtain ⟨front, number, scan, library, a, more, first, waits, complete, rest, rfl, last,
        assets⟩ := ih stocked
      refine ⟨front, number, scan, library, a, more ++ latest, first, waits, complete,
        rest.step step, by simp, ?_, same.trans assets⟩
      rw [lastStock?_append, silent]
      exact last
    · exact ⟨earlier, number, scan, library, u, latest, run, waits, complete, .single step, rfl,
        last, now⟩

/-! ## A scene that is deleted -/

namespace Sample

open Activity.Sample

/-- The game directory without the scene. -/
def emptied : Disk := { nodes := ⟨[(["game"], .directory)]⟩ }

/-- A scan has begun while the scene was there. -/
def before : Session := { start project (disk oldText) with assetScansBegun := 1 }

/-- The scan has listed all folders, and then the scene was deleted. -/
def overtaken : Session :=
  { before.setAssetScan 0 (AssetScan.addAll sceneLibrary.ofType AssetType.all {}) with
    disk := emptied }

/-- A second scan has begun after the scene was deleted. -/
def after : Session := { overtaken with assetScansBegun := 2 }

/-- The second scan has listed all folders as well, and both are about to publish. -/
def abreast : Session := after.setAssetScan 1 (AssetScan.addAll (fun _ => []) AssetType.all {})

theorem scan_emptied : AssetLibrary.scan project.paths emptied = .ok {} :=
  eq_ok_of_toOption (by decide +kernel)

theorem run_overtaken :
    Run (start project (disk oldText)) [.assetScanBegun 0, .activity .diskChanged] overtaken := by
  have listed (type : AssetType) : before.listFolder type = .ok (sceneLibrary.ofType type) :=
    AssetLibrary.inFolder_of_scan scan_oldText type
  have lists := run_listFolders listed 0 AssetType.all (by decide) {} fun _ _ => rfl
  exact ((Run.single (.beginAssetScan _)).append lists).step (.activity (.changeDisk _ emptied))

theorem run_abreast : Run overtaken [.assetScanBegun 1] abreast := by
  have listed (type : AssetType) : after.listFolder type = .ok [] :=
    AssetLibrary.inFolder_of_scan scan_emptied type
  have lists := run_listFolders listed 1 AssetType.all (by decide) {} fun _ _ => rfl
  exact (Run.single (.beginAssetScan _)).append lists

/-- What happens when a scan publishes. -/
def published (number : Nat) (library : AssetLibrary) : List Event :=
  [.assetsPublished number library, .activity (.announced (.assets library))]

theorem publishes_old (s : Session) (number : Nat)
    (waits : s.assetScans.get? number =
      some (AssetScan.addAll sceneLibrary.ofType AssetType.all {})) :
    Step s (published number sceneLibrary) (s.publishAssets number sceneLibrary).2 := by
  have complete := AssetScan.library?_addAll sceneLibrary.ofType
  rw [AssetLibrary.ofFolders_ofType scan_oldText] at complete
  exact .publishAssets waits complete

theorem publishes_new (s : Session) (number : Nat)
    (waits : s.assetScans.get? number = some (AssetScan.addAll (fun _ => []) AssetType.all {})) :
    Step s (published number {}) (s.publishAssets number {}).2 :=
  .publishAssets waits (AssetScan.library?_addAll fun _ => [])

end Sample

/-! ## Overlapping scans -/

/-- Once a scan has published after the last change of the disk, the assets are those of the scan
that published last: of each folder what it held at some moment since that scan began. They are the
current ones if that scan began after the last change as well. -/
theorem assets_of_overlapping_scans {project : Project} {disk : Disk} {before after : List Event}
    (first : Run (start project disk) before s) (later : Run s after t)
    (unchanged : .activity .diskChanged ∉ after)
    (published : .assetsPublished number library ∈ after) :
    ∃ last folders, lastStock? (before ++ after) = some (last, .ofFolders folders) ∧
      t.project.assets = .ofFolders folders ∧
      (∀ type, Sometime Run (start project disk) (before ++ after) t fun earlier u =>
        .assetScanBegun last ∈ earlier ∧ u.listFolder type = .ok (folders type)) ∧
      (.assetScanBegun last ∈ after →
        AssetLibrary.scan t.project.paths t.disk = .ok t.project.assets) := by
  obtain ⟨front, last, scan, library, u, more, run, waits, complete, rest, rfl, stock, assets⟩ :=
    later.exists_lastStock (lastStock?_ne_none published)
  obtain ⟨folders, rfl, found⟩ := AssetScan.exists_of_library? complete
  refine ⟨last, folders, ?_, assets, fun type => ?_, fun begun => ?_⟩
  · rw [lastStock?_append, lastStock?_append, stock]
    rfl
  · rw [← List.append_assoc]
    exact ((first.append run).sometime_listed waits (found type)).append Run.append rest
  · -- what was listed since the last change is what is on the disk in the end
    obtain ⟨still, stillToo⟩ := not_or.mp (mt List.mem_append.mpr unchanged)
    have since := later.le_of_assetScanBegun begun
    have listed := run.listedSince first.enrolled still last scan since waits
    have current (type : AssetType) : t.listFolder type = .ok (folders type) := by
      rw [listFolder_congr rest.unscanned_eq (rest.disk_eq stillToo)]
      exact listed type _ (found type)
    rw [assets]
    exact AssetLibrary.scan_eq_ok_iff.mpr ⟨folders, current, rfl⟩

/-- The earlier scan publishes first, and the later one after it. -/
theorem assets_of_overlapping_scans_in_order :
    let before := [.assetScanBegun 0, .activity .diskChanged]
    let after := [.assetScanBegun 1] ++ Sample.published 0 Sample.sceneLibrary ++
      Sample.published 1 {}
    ∃ s t, Run (start Activity.Sample.project (Activity.Sample.disk Activity.Sample.oldText)) before
        s ∧ Run s after t ∧ .activity .diskChanged ∉ after ∧
      .assetsPublished 1 {} ∈ after ∧
      AssetLibrary.scan t.project.paths t.disk = .ok t.project.assets := by
  intro before after
  have later := (Sample.run_abreast.step (Sample.publishes_old _ 0 rfl)).step
    (Sample.publishes_new _ 1 rfl)
  have unchanged : .activity .diskChanged ∉ after := by simp [after, Sample.published]
  have published : .assetsPublished 1 {} ∈ after := by simp [after, Sample.published]
  obtain ⟨last, folders, stock, -, -, current⟩ :=
    assets_of_overlapping_scans Sample.run_overtaken later unchanged published
  obtain rfl : 1 = last := congrArg Prod.fst (Option.some.inj stock)
  exact ⟨_, _, Sample.run_overtaken, later, unchanged, published, current List.mem_cons_self⟩

/-- The disk changes, and scans of the assets begin and publish. -/
def Event.IsOfAssetScans : Event → Prop
  | .activity .diskChanged | .activity (.announced _) | .assetScanBegun _
  | .assetsPublished .. => True
  | _ => False

/-- A scan that listed the folders before the last change publishes after a scan that began after
it, and nothing else happens any more. -/
theorem not_forall_assets_of_later_scan :
    ¬ ∀ {project : Project} {disk : Disk} {before after : List Event} {s t : Session}
        {number : Nat} {library : AssetLibrary},
      Run (start project disk) before s → Run s after t → .activity .diskChanged ∉ after →
      (∀ event ∈ before ++ after, event.IsOfAssetScans) →
      .assetScanBegun number ∈ after → .assetsPublished number library ∈ after → t.AtRest →
      AssetLibrary.scan t.project.paths t.disk = .ok t.project.assets := by
  intro claim
  have later := (Sample.run_abreast.step (Sample.publishes_new _ 1 rfl)).step
    (Sample.publishes_old _ 0 rfl)
  have same := claim Sample.run_overtaken later (by simp [Sample.published])
    (by simp [Sample.published, Event.IsOfAssetScans]) List.mem_cons_self
    (List.mem_cons_of_mem _ List.mem_cons_self) ⟨rfl, rfl⟩
  -- the deleted scene is still one of the assets
  have stale := Except.ok.inj (Sample.scan_emptied.symm.trans same)
  have count := congrArg AssetLibrary.size stale
  exact absurd count (by decide +kernel)

end SceneScript.Session
