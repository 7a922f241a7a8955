import SceneScript.Proofs.Activity.Reading
import SceneScript.Proofs.Project.Scan

/-! # Operations that nothing interrupts

Taken step by step without a step of another operation in between, a full scan does what
`Project.scanVariables` does at once, and a scan of one file what `Project.scanFile` does.

* `Activity.run_readScenes` — the reads of a full scan, one after another;
* `Activity.run_scanVariables_of_ok`, `Activity.run_scanVariables_of_error` — a full scan from its
  beginning to its end;
* `Activity.run_scanFile` — the same for one file;
* `Activity.Sample` — a game with one scene, which has one of two texts.
-/

namespace SceneScript.Activity

/-! ## Progress of one operation -/

theorem setFullScan_setFullScan (s : Activity) (number : Nat) (scan later : FullScan) :
    (s.setFullScan number scan).setFullScan number later = s.setFullScan number later := by
  simp only [setFullScan, OrderedMap.insert_insert]

theorem setFileScan_setFileScan (s : Activity) (number : Nat) (scan later : FileScan) :
    (s.setFileScan number scan).setFileScan number later = s.setFileScan number later := by
  simp only [setFileScan, OrderedMap.insert_insert]

theorem get?_setFullScan (s : Activity) (number : Nat) (scan : FullScan) :
    (s.setFullScan number scan).fullScans.get? number = some scan := by
  rw [setFullScan, OrderedMap.get?_insert, if_pos rfl]

theorem get?_setFileScan (s : Activity) (number : Nat) (scan : FileScan) :
    (s.setFileScan number scan).fileScans.get? number = some scan := by
  rw [setFileScan, OrderedMap.get?_insert, if_pos rfl]

/-! ## Full scans -/

/-- One read after another, from the first file that is not read yet. -/
theorem run_readScenes (s : Activity) (number : Nat) (read : List (Path × Option Text))
    (unread : List Path) :
    Run (s.setFullScan number (.reading (read ++ unread.map (·, none)))) []
      (s.setFullScan number
        (.reading (read ++ unread.map fun path => (path, some (s.disk.readText path))))) := by
  induction unread generalizing read with
  | nil => exact .stay
  | cons path rest ih =>
    have next : (read ++ (path :: rest).map (·, none))[read.length]? = some (path, none) := by
      simp
    have step := Step.readScene
      (get?_setFullScan s number (.reading (read ++ (path :: rest).map (·, none)))) next
    rw [setFullScan_setFullScan] at step
    have replaced :
        (read ++ (path :: rest).map (·, none)).set read.length
            (path, some (s.disk.readText path)) =
          (read ++ [(path, some (s.disk.readText path))]) ++ rest.map (·, none) := by
      simp
    rw [show (s.setFullScan number _).disk = s.disk from rfl, replaced] at step
    simpa using (Run.single step).append (ih (read ++ [(path, some (s.disk.readText path))]))

/-- A full scan that waits for the listing lists the scenes of the disk and reads them all. -/
theorem run_listAndRead {s : Activity} {number : Nat} {scenes : List Path}
    (waits : s.fullScans.get? number = some .listing) (listed : s.listScenes = .ok scenes) :
    Run s [.scenesListed number scenes]
      (s.setFullScan number (.complete (scenesOf s.disk s.project.paths.sceneRoot))) := by
  have reads := run_readScenes s number [] scenes
  have complete : FullScan.reading
      (scenes.map fun path => (path, some (s.disk.readText path))) =
        .complete (scenesOf s.disk s.project.paths.sceneRoot) := by
    obtain ⟨-, rfl⟩ := listScenes_eq_ok_iff.mp listed
    simp [FullScan.complete, scenesOf]
  rw [List.nil_append, List.nil_append, complete] at reads
  exact (Run.single (.listScenes waits listed)).append reads

/-- The latest full scan, once it has read everything, publishes and leaves no other trace. -/
theorem publishes_of_complete {s : Activity} {number : Nat} (fresh : number ∉ s.fullScans.keys)
    (latest : number = s.project.index.generation) (texts : List (Path × Text)) :
    Step (s.setFullScan number (.complete texts))
      (.scanPublished number (fileTexts texts) s.project.index.edits ::
        (s.project.endScan number (fileTexts texts)).2.1.map .announced)
      { s with project := (s.project.endScan number (fileTexts texts)).2.2 } := by
  have step := Step.publishFullScan (get?_setFullScan s number (.complete texts))
    (endFullScan_fst_eq_true_iff.2 latest)
  have ended : ((s.setFullScan number (.complete texts)).endFullScan number
      (fileTexts texts)).2.2 =
        { s with project := (s.project.endScan number (fileTexts texts)).2.2 } := by
    simp only [endFullScan, setFullScan, OrderedMap.erase_insert_of_notMem fresh]
  rw [ended] at step
  exact step

/-- A full scan lists the scenes of the disk, reads them all, and publishes them with the edits that
are recorded when it begins. -/
theorem run_scanVariables_of_ok {s : Activity} (tallied : s.Tallied) {scenes : List Path}
    (listed : s.listScenes = .ok scenes) :
    Run s
      ([.scanBegun (s.project.index.generation + 1),
          .scenesListed (s.project.index.generation + 1) scenes,
          .scanPublished (s.project.index.generation + 1) (Project.readTexts s.disk scenes)
            s.beginFullScan.project.index.edits] ++
        (s.project.scanVariables s.disk).announcements.map .announced)
      { s with project := (s.project.scanVariables s.disk).project } := by
  obtain ⟨near, rfl⟩ := listScenes_eq_ok_iff.mp listed
  have reads := run_listAndRead (get?_setFullScan { s with project := s.project.beginScan.2 }
    (s.project.index.generation + 1) .listing) listed
  rw [setFullScan_setFullScan] at reads
  have publishes := publishes_of_complete (s := { s with project := s.project.beginScan.2 })
    tallied.fresh_fullScan rfl (scenesOf s.disk s.project.paths.sceneRoot)
  rw [fileTexts_scenesOf] at publishes
  rw [Project.scanVariables_of_ok (Project.sceneTexts_eq_ok_iff.mpr ⟨near, rfl⟩)]
  exact ((Run.single (.beginFullScan s)).append reads).step publishes

/-- Where the scenes cannot be listed a full scan is abandoned. -/
theorem run_scanVariables_of_error {s : Activity} (tallied : s.Tallied) {e : DiskError}
    (failed : s.project.sceneTexts s.disk = .error e) :
    Run s [.scanBegun (s.project.index.generation + 1),
        .scanAbandoned (s.project.index.generation + 1)]
      { s with project := (s.project.scanVariables s.disk).project } := by
  have waits := get?_setFullScan { s with project := s.project.beginScan.2 }
    (s.project.index.generation + 1) .listing
  have abandons := Step.abandonFullScan waits
  rw [abandonFullScan, setFullScan,
    OrderedMap.erase_insert_of_notMem tallied.fresh_fullScan] at abandons
  rw [Project.scanVariables_of_error failed]
  exact (Run.single (.beginFullScan s)).step abandons

/-! ## Scans of single files -/

theorem readText_of_ask {disk : Disk} {path : Path} {content : FileContent}
    (answer : disk.ask path = .ok (some (.file content))) :
    disk.readText path = content.readable := by
  unfold Disk.ask at answer
  split at answer
  next found =>
    cases answer
    simp only [Disk.readText, Disk.content?, found]
    rfl
  next => cases answer
  next => cases answer

/-- A scan of one file that knows the new text publishes it and leaves no other trace. -/
theorem updates_of_text {s : Activity} {number : Nat} (fresh : number ∉ s.fileScans.keys)
    (path : Path) (text : Option Text) :
    Step (s.setFileScan number { path, stage := .update text })
      (.fileScanEnded number :: .fileUpdated path.toText text ::
        (s.project.update path.toText text).1.map .announced)
      { s with project := (s.project.update path.toText text).2 } := by
  have step := Step.endFileScan (get?_setFileScan s number { path, stage := .update text })
  have ended : (((s.setFileScan number { path, stage := .update text }).update
      path.toText text).2).dropFileScan number =
        { s with project := (s.project.update path.toText text).2 } := by
    simp only [update, dropFileScan, setFileScan, OrderedMap.erase_insert_of_notMem fresh]
  rw [ended] at step
  exact step

theorem looks_for_file {s : Activity} {path : Path} (stage : FileScanStage)
    (answer : FileScanStage.afterLook? (s.disk.ask path) = some stage) (number : Nat) :
    Step (s.setFileScan number { path }) [] (s.setFileScan number { path, stage }) := by
  have step := Step.lookForFile (get?_setFileScan s number { path }) answer
  rw [setFileScan_setFileScan] at step
  exact step

theorem reads_file (s : Activity) (number : Nat) (path : Path) :
    Step (s.setFileScan number { path, stage := .read }) []
      (s.setFileScan number { path, stage := .update (some (s.disk.readText path)) }) := by
  have step := Step.readFile (get?_setFileScan s number { path, stage := .read })
  rw [setFileScan_setFileScan] at step
  exact step

/-- A scan of a file that is there. -/
theorem run_scanFile_of_file {s : Activity} (tallied : s.Tallied) {path : Path}
    {content : FileContent} (answer : s.disk.ask path = .ok (some (.file content))) :
    Run s
      ([.fileScanBegun s.fileScansBegun path, .fileScanEnded s.fileScansBegun,
          .fileUpdated path.toText (some content.readable)] ++
        (s.project.scanText path.toText content.readable).1.map .announced)
      { s with
        project := (s.project.scanText path.toText content.readable).2
        fileScansBegun := s.fileScansBegun + 1 } := by
  let waiting := { s with fileScansBegun := s.fileScansBegun + 1 }
  have looks := looks_for_file (s := waiting) .read
    (congrArg FileScanStage.afterLook? answer) s.fileScansBegun
  have reads := reads_file waiting s.fileScansBegun path
  rw [show waiting.disk = s.disk from rfl, readText_of_ask answer] at reads
  have updates := updates_of_text (s := waiting) tallied.fresh_fileScan path (some content.readable)
  exact (((Run.single (.beginFileScan s path)).step looks).step reads).step updates

/-- A scan of a file that is gone, or that has become a directory. -/
theorem run_scanFile_of_no_file {s : Activity} (tallied : s.Tallied) {path : Path}
    (answer : FileScanStage.afterLook? (s.disk.ask path) = some (.update none)) :
    Run s
      ([.fileScanBegun s.fileScansBegun path, .fileScanEnded s.fileScansBegun,
          .fileUpdated path.toText none] ++
        (s.project.removeFile path.toText).1.map .announced)
      { s with
        project := (s.project.removeFile path.toText).2
        fileScansBegun := s.fileScansBegun + 1 } := by
  let waiting := { s with fileScansBegun := s.fileScansBegun + 1 }
  have looks := looks_for_file (s := waiting) (.update none) answer s.fileScansBegun
  have updates := updates_of_text (s := waiting) tallied.fresh_fileScan path none
  exact ((Run.single (.beginFileScan s path)).step looks).step updates

/-- A scan of one file looks at the disk and does what it finds: the new text, the removal of the
file, or nothing where the disk gives no answer. -/
theorem run_scanFile {s : Activity} (tallied : s.Tallied) (path : Path) :
    ∃ events, Run s events
      { s with
        project := (s.project.scanFile s.disk path).project
        fileScansBegun := s.fileScansBegun + 1 } := by
  cases answer : s.disk.ask path with
  | error _ =>
    have abandoned := (Run.single (.beginFileScan s path)).step
      (.abandonFileScan (get?_setFileScan _ s.fileScansBegun { path }))
    rw [beginFileScan, dropFileScan, setFileScan,
      OrderedMap.erase_insert_of_notMem tallied.fresh_fileScan] at abandoned
    simp only [Project.scanFile, answer]
    exact ⟨_, abandoned⟩
  | ok found =>
    simp only [Project.scanFile, answer]
    cases found with
    | none => exact ⟨_, run_scanFile_of_no_file tallied (congrArg _ answer)⟩
    | some node =>
      cases node with
      | file content => exact ⟨_, run_scanFile_of_file tallied answer⟩
      | directory => exact ⟨_, run_scanFile_of_no_file tallied (congrArg _ answer)⟩

/-! ## A game with one scene -/

namespace Sample

def project : Project := { paths := ⟨⟨.relative, ["game"]⟩⟩, vocabulary := ["setVar"] }

def scene : Path := ⟨.relative, ["game", "scene", "a.txt"]⟩

def oldText : Text := "setVar:old=1"

def newText : Text := "setVar:new=1"

def disk (text : Text) : Disk where
  nodes := ⟨[(["game"], .directory), (["game", "scene"], .directory),
    (["game", "scene", "a.txt"], .file (.text text))]⟩

theorem scenesOf_oldText :
    scenesOf (disk oldText) project.paths.sceneRoot = [(scene, oldText)] := by
  decide +kernel

theorem scenesOf_newText :
    scenesOf (disk newText) project.paths.sceneRoot = [(scene, newText)] := by
  decide +kernel

/-- The disk can be asked about the scene root, whichever text the scene has. -/
theorem not_overlong (text : Text) : ¬ (disk text).Overlong project.paths.sceneRoot :=
  Disk.exists_ask_iff.mp ⟨some .directory, eq_ok_of_toOption (by rfl)⟩

theorem ask_oldText : (disk oldText).ask scene = .ok (some (.file (.text oldText))) :=
  eq_ok_of_toOption (by decide +kernel)

/-- Where the disk has this text, a full scan lists the scene and reads the text. -/
theorem run_read {s : Activity} (number : Nat) {text : Text}
    (waits : s.fullScans.get? number = some .listing)
    (near : ¬ s.disk.Overlong s.project.paths.sceneRoot)
    (scenes : scenesOf s.disk s.project.paths.sceneRoot = [(scene, text)]) :
    Run s [.scenesListed number [scene]]
      (s.setFullScan number (.complete [(scene, text)])) := by
  have listed : s.listScenes = .ok [scene] := by
    refine listScenes_eq_ok_iff.mpr ⟨near, ?_⟩
    have paths := congrArg (List.map (·.1)) scenes
    simpa [scenesOf, Function.comp_def] using paths
  have reads := run_listAndRead waits listed
  rw [scenes] at reads
  exact reads

/-- Where the disk has the old text, a scan of the scene publishes it. -/
theorem run_rescan {s : Activity} (tallied : s.Tallied) (onDisk : s.disk = disk oldText) :
    Run s
      ([.fileScanBegun s.fileScansBegun scene, .fileScanEnded s.fileScansBegun,
          .fileUpdated scene.toText (some oldText)] ++
        (s.project.scanText scene.toText oldText).1.map .announced)
      { s with
        project := (s.project.scanText scene.toText oldText).2
        fileScansBegun := s.fileScansBegun + 1 } := by
  have answer := ask_oldText
  rw [← onDisk] at answer
  have rescanned := run_scanFile_of_file tallied answer
  rw [show (FileContent.text oldText).readable = oldText by decide] at rescanned
  exact rescanned

end Sample

end SceneScript.Activity
