import SceneScript.Proofs.Output.Escape
import SceneScript.Proofs.Project.Listing
import SceneScript.Tool.Run

/-! # Checked files and their report

A check reads every file that its arguments stand for, unless the first scan fails, and its report
can always be shown. The report is kept by the texts that files are shown by, so it tells of the
last of several files that are shown alike, and the exit status is that of the report. Two files
that differ are shown alike only where one of them lies under the scene root.

* `Checker.diagnose_inFile` — what is found in a file does not depend on its path;
* `Project.filesToCheck` — the files that arguments stand for;
* `Project.LastShown` — the files that a report tells of;
* `Project.Reflects` — a report and an exit status that tell of some files;
* `Project.readText_of_shown_alike` — which files can be taken for each other;
* `Settings.exists_scannedProject_iff` — where the first scan does not fail;
* `check_reflects` — what a check tells.
-/

namespace SceneScript

/-! ## Findings in a file -/

/-- The same finding in another file. -/
def Diagnostic.inFile (file : Text) (d : Diagnostic) : Diagnostic := { d with file }

namespace Checker

variable (checker : Checker) (validateResources : Bool) (labels : List Text) (file other : Text)

theorem checkCommand_inFile (line : Line) (command content : Text) :
    (checker.checkCommand validateResources labels file line command content).map
        (·.inFile other) =
      checker.checkCommand validateResources labels other line command content := by
  unfold checkCommand
  dsimp only
  split
  · simp only [List.map_append, Option.toList_map, List.map_map]
    rfl
  · rfl

theorem checkLine_inFile (line : Line) :
    (checker.checkLine validateResources labels file line).map (·.inFile other) =
      checker.checkLine validateResources labels other line := by
  unfold checkLine
  split
  · exact checker.checkCommand_inFile validateResources labels file other line _ _
  · rfl

theorem unusedLabels_inFile (script : Script) :
    (unusedLabels file script).map (·.inFile other) = unusedLabels other script := by
  unfold unusedLabels
  rw [List.map_filterMap]
  congr 1
  funext line
  cases line.label? with
  | none => rfl
  | some name =>
    simp only [Option.bind_some]
    split <;> rfl

theorem names_labels (script : Script) :
    (script.labels file).map (·.name) = (script.labels other).map (·.name) := by
  unfold Script.labels
  simp [List.map_filterMap, Function.comp_def]

theorem diagnose_inFile (text : Text) :
    (checker.diagnose text file validateResources).map (·.inFile other) =
      checker.diagnose text other validateResources := by
  unfold diagnose diagnoseScript
  dsimp only
  rw [List.map_append, unusedLabels_inFile, names_labels file other, List.map_flatMap]
  congr 2
  funext line
  exact checker.checkLine_inFile validateResources _ file other line

end Checker

/-! ## Files that arguments stand for -/

namespace Project

variable {project : Project} {disk : Disk} {paths files : List Path} {file other : Path}

/-- For a directory the scene files below it, and for a file itself. -/
def standsFor (disk : Disk) (path : Path) : List Path :=
  if disk.isDirectory path then disk.filesBelow path AssetType.sceneExtension else [path]

/-- The files to check, in order; where there is no argument, every scene. -/
def filesToCheck (project : Project) (disk : Disk) (paths : List Path) : List Path :=
  if paths = [] then
    ((project.search disk).listed
      (disk.filesBelow project.paths.sceneRoot AssetType.sceneExtension)).map (·.fullPath)
  else paths.flatMap (standsFor disk)

theorem filesOf_of_isPresent {path : Path} (present : disk.isPresent path = true) :
    filesOf disk path = .ok (standsFor disk path) := by
  obtain ⟨⟨place, node⟩, found⟩ := Option.isSome_iff_exists.mp present
  obtain ⟨follows, there⟩ := Disk.find?_eq_some_iff.mp found
  have asks : disk.ask path = .ok (some node) := (Disk.ask_of_follow follows).trans (by rw [there])
  cases node with
  | directory => simp [filesOf, standsFor, asks, Disk.walk, Disk.isDirectory, found, Except.map,
      Except.mapError]
  | file content => simp [filesOf, standsFor, asks, Disk.isDirectory, found]

theorem checkedFiles_of_isPresent (present : ∀ path ∈ paths, disk.isPresent path = true)
    (nonempty : paths ≠ []) : checkedFiles disk paths = .ok (project.filesToCheck disk paths) := by
  have each : paths.mapM (filesOf disk) = .ok (paths.map (standsFor disk)) :=
    mapM_eq_ok_map fun path member => filesOf_of_isPresent (present path member)
  rw [checkedFiles, each, filesToCheck, if_neg nonempty, List.flatMap]
  rfl

/-! ## How files are shown -/

/-- A file that lies below the scene root. -/
def IsInScenes (project : Project) (disk : Disk) (file : Path) : Prop :=
  ∃ names, (file.absolute disk.workingDirectory).names =
    (project.paths.sceneRoot.absolute disk.workingDirectory).names ++ names

theorem displayPath_of_below {names : List Text}
    (below : (file.absolute disk.workingDirectory).names =
      (project.paths.sceneRoot.absolute disk.workingDirectory).names ++ names) :
    project.displayPath disk file = Path.toText ⟨.relative, names⟩ := by
  simp only [displayPath, Path.below?_absolute.mpr below]

theorem displayPath_of_not_isInScenes (outside : ¬ project.IsInScenes disk file) :
    project.displayPath disk file = file.toText := by
  have notBelow : Path.below? (project.paths.sceneRoot.absolute disk.workingDirectory)
      (file.absolute disk.workingDirectory) = none := by
    rw [Option.eq_none_iff_forall_ne_some]
    intro names below
    exact outside ⟨names, Path.below?_absolute.mp below⟩
  simp only [displayPath, notBelow]

theorem isInScenes_of_mem_filesBelow (tree : disk.IsTree) {suffix : Text}
    (below : file ∈ disk.filesBelow project.paths.sceneRoot suffix) :
    project.IsInScenes disk file := by
  obtain ⟨root, names, content, -, -, -, member, -, rfl⟩ := Disk.mem_filesBelow.mp below
  have absent : Path.parentName ∉ names := fun inNames =>
    tree.parentName_notMem member (List.mem_append_right _ inNames)
  exact ⟨names, Path.names_absolute_append rfl rfl absent⟩

/-- A listed scene is shown by the path that is listed for it. -/
theorem relativePath_eq_displayPath (tree : disk.IsTree) {scene : SceneCandidate}
    (listed : scene ∈ (project.search disk).listed
      (disk.filesBelow project.paths.sceneRoot AssetType.sceneExtension)) :
    scene.relativePath = project.displayPath disk scene.fullPath := by
  rw [SceneSearch.listed, List.mem_mergeSort] at listed
  obtain ⟨path, found, rfl⟩ := List.mem_map.mp listed
  obtain ⟨names, below⟩ : project.IsInScenes disk path := isInScenes_of_mem_filesBelow tree found
  rw [← Path.absolute_collapse] at below
  have fromRoot : (path.collapse.absolute disk.workingDirectory).names =
      ((project.search disk).root.absolute disk.workingDirectory).names ++ names := by
    rw [below, SceneSearch.root, Path.absolute_collapse]
    rfl
  simp only [SceneSearch.candidate]
  rw [displayPath_of_below below]
  exact congrArg Path.toText (Path.relativeTo_of_below fromRoot)

/-! ## What a report tells -/

/-- What is found in a file. -/
def findings (project : Project) (disk : Disk) (validateResources : Bool) (file : Path) :
    List Diagnostic :=
  project.diagnoseFile disk file.toText (some validateResources)

/-- The last of the files that are shown like it. -/
def LastShown (project : Project) (disk : Disk) (files : List Path) (file : Path) : Prop :=
  ∃ before after, files = before ++ file :: after ∧
    ∀ later ∈ after, project.displayPath disk later ≠ project.displayPath disk file

theorem LastShown.mem (last : project.LastShown disk files file) : file ∈ files := by
  obtain ⟨before, after, rfl, -⟩ := last
  simp

theorem exists_lastShown (project : Project) (disk : Disk) (member : file ∈ files) :
    ∃ last, project.LastShown disk files last ∧
      project.displayPath disk last = project.displayPath disk file := by
  induction files generalizing file with
  | nil => cases member
  | cons first rest ih =>
    -- A file that is shown like a later one gives way to the last of those.
    have fromRest (later : Path) (inRest : later ∈ rest)
        (alike : project.displayPath disk later = project.displayPath disk file) :
        ∃ last, project.LastShown disk (first :: rest) last ∧
          project.displayPath disk last = project.displayPath disk file := by
      obtain ⟨last, ⟨before, after, split, others⟩, shown⟩ := ih inRest
      exact ⟨last, ⟨first :: before, after, by simp [split], others⟩, shown.trans alike⟩
    by_cases again : ∃ later ∈ rest, project.displayPath disk later = project.displayPath disk file
    · obtain ⟨later, inRest, alike⟩ := again
      exact fromRest later inRest alike
    · rcases List.mem_cons.mp member with rfl | inRest
      · exact ⟨file, ⟨[], rest, rfl, fun later inRest alike => again ⟨later, inRest, alike⟩⟩, rfl⟩
      · exact fromRest file inRest rfl

/-- A report and an exit status that tell of some files: the status is 1 if an error is found in one
of them, and the report has what is found in each, up to the way in which its path is spelled. -/
structure Reflects (project : Project) (disk : Disk) (validateResources : Bool)
    (files : Path → Prop) (report : Report) (status : Nat) : Prop where
  status : status = 1 ↔
    ∃ file, files file ∧ ∃ d ∈ project.findings disk validateResources file, d.isError = true
  report : ∀ file, files file → ∃ ds, report.get? (project.displayPath disk file) = some ds ∧
    ds.map (·.inFile file.toText) = project.findings disk validateResources file

/-- Two files that read alike give the same diagnostics, but for the path. -/
theorem findings_inFile (validateResources : Bool)
    (alike : disk.readText (.ofText file.toText) = disk.readText (.ofText other.toText)) :
    (project.findings disk validateResources file).map (·.inFile other.toText) =
      project.findings disk validateResources other := by
  simp only [findings, diagnoseFile, diagnoseText, alike]
  exact project.checker.diagnose_inFile _ _ _ _

theorem exists_error_iff (validateResources : Bool)
    (alike : disk.readText (.ofText file.toText) = disk.readText (.ofText other.toText)) :
    (∃ d ∈ project.findings disk validateResources file, d.isError = true) ↔
      ∃ d ∈ project.findings disk validateResources other, d.isError = true := by
  rw [← findings_inFile validateResources alike]
  constructor
  · rintro ⟨d, member, error⟩
    exact ⟨_, List.mem_map_of_mem member, error⟩
  · rintro ⟨_, member, error⟩
    obtain ⟨d, inFirst, rfl⟩ := List.mem_map.mp member
    exact ⟨d, inFirst, error⟩

/-- A report that tells of the last of those files that are shown alike tells of them all if they
read alike. -/
theorem Reflects.of_alike {validateResources : Bool} {report : Report} {status : Nat}
    (reflects :
      project.Reflects disk validateResources (project.LastShown disk files) report status)
    (alike : ∀ file ∈ files, ∀ other ∈ files,
      project.displayPath disk file = project.displayPath disk other →
        disk.readText (.ofText file.toText) = disk.readText (.ofText other.toText)) :
    project.Reflects disk validateResources (· ∈ files) report status := by
  -- For each file the last one that is shown like it counts, and it reads alike.
  constructor
  · rw [reflects.status]
    constructor
    · rintro ⟨file, last, error⟩
      exact ⟨file, last.mem, error⟩
    · rintro ⟨file, member, error⟩
      obtain ⟨last, isLast, shown⟩ := exists_lastShown project disk member
      have same := alike file member last isLast.mem shown.symm
      exact ⟨last, isLast, (exists_error_iff validateResources same).mp error⟩
  · intro file member
    obtain ⟨last, isLast, shown⟩ := exists_lastShown project disk member
    obtain ⟨ds, told, same⟩ := reflects.report last isLast
    refine ⟨ds, shown ▸ told, ?_⟩
    rw [← findings_inFile validateResources (alike last isLast.mem file member shown), ← same,
      List.map_map]
    rfl

/-! ## Files that are shown alike -/

/-- Two paths to files that lie both under the scene root or both elsewhere are shown alike only if
they lead to one file. -/
theorem readText_of_shown_alike (tree : disk.IsTree) (spellable : disk.Spellable)
    (plain : ∀ name ∈ file.names, Path.Plain name)
    (plainToo : ∀ name ∈ other.names, Path.Plain name)
    (isFile : disk.isFile file = true) (isFileToo : disk.isFile other = true)
    (together : project.IsInScenes disk file ↔ project.IsInScenes disk other)
    (alike : project.displayPath disk file = project.displayPath disk other) :
    disk.readText file = disk.readText other := by
  by_cases inside : project.IsInScenes disk file
  · obtain ⟨names, below⟩ := inside
    obtain ⟨others, belowToo⟩ := together.mp ⟨names, below⟩
    obtain ⟨place, content, found⟩ := Disk.isFile_iff.mp isFile
    obtain ⟨there, contentToo, foundToo⟩ := Disk.isFile_iff.mp isFileToo
    -- What stands on the disk has names that the way from the root shows as they are.
    have plainNames : ∀ name ∈ names, Path.Plain name := fun name member =>
      spellable.plain (Disk.find?_eq_some_iff.mp found).2 name <| by
        rw [← Disk.absolute_of_find? tree found, below]
        exact List.mem_append_right _ member
    have plainOthers : ∀ name ∈ others, Path.Plain name := fun name member =>
      spellable.plain (Disk.find?_eq_some_iff.mp foundToo).2 name <| by
        rw [← Disk.absolute_of_find? tree foundToo, belowToo]
        exact List.mem_append_right _ member
    rw [displayPath_of_below below, displayPath_of_below belowToo] at alike
    have sameNames : names = others := by
      have read := congrArg Path.namesOf alike
      rw [Path.namesOf_toText plainNames, Path.namesOf_toText plainOthers] at read
      exact read
    have samePlace : place = there := by
      rw [← Disk.absolute_of_find? tree found, ← Disk.absolute_of_find? tree foundToo, below,
        belowToo, sameNames]
    have sameNode : some (Node.file content) = some (.file contentToo) := by
      rw [← (Disk.find?_eq_some_iff.mp found).2, samePlace, (Disk.find?_eq_some_iff.mp foundToo).2]
    cases sameNode
    rw [Disk.readText_of_find? found, Disk.readText_of_find? foundToo]
  · rw [displayPath_of_not_isInScenes inside,
      displayPath_of_not_isInScenes fun insideToo => inside (together.mpr insideToo)] at alike
    rw [← Path.ofText_toText plain, alike, Path.ofText_toText plainToo]

theorem plain_of_mem_filesBelow {directory : Path} {suffix : Text} (spellable : disk.Spellable)
    (plain : ∀ name ∈ directory.names, Path.Plain name)
    (below : file ∈ disk.filesBelow directory suffix) :
    ∀ name ∈ file.names, Path.Plain name := by
  obtain ⟨root, names, content, -, -, -, member, -, rfl⟩ := Disk.mem_filesBelow.mp below
  exact List.forall_mem_append.mpr ⟨plain, fun name inNames =>
    spellable _ member name (List.mem_append_right _ inNames)⟩

theorem plain_of_mem_filesToCheck (spellable : disk.Spellable)
    (game : ∀ name ∈ project.paths.gameDirectory.names, Path.Plain name)
    (plain : ∀ path ∈ paths, ∀ name ∈ path.names, Path.Plain name)
    (member : file ∈ project.filesToCheck disk paths) : ∀ name ∈ file.names, Path.Plain name := by
  unfold filesToCheck at member
  split at member
  · obtain ⟨scene, listed, rfl⟩ := List.mem_map.mp member
    rw [SceneSearch.listed, List.mem_mergeSort] at listed
    obtain ⟨path, below, rfl⟩ := List.mem_map.mp listed
    have folder : Path.Plain AssetType.scene.folder := by decide
    refine Path.plain_collapse (plain_of_mem_filesBelow spellable ?_ below)
    exact List.forall_mem_append.mpr ⟨game, List.forall_mem_singleton.mpr folder⟩
  · obtain ⟨path, inPaths, fromPath⟩ := List.mem_flatMap.mp member
    unfold standsFor at fromPath
    split at fromPath
    · exact plain_of_mem_filesBelow spellable (plain path inPaths) fromPath
    · rw [List.mem_singleton.mp fromPath]
      exact plain path inPaths

/-! ## The report of a check -/

/-- The report of some files. -/
def reportOf (project : Project) (disk : Disk) (validateResources : Bool) (files : List Path) :
    Report :=
  .ofList <| files.map fun file =>
    (project.displayPath disk file, project.findings disk validateResources file)

theorem diagnoseScenes_eq_reportOf (tree : disk.IsTree) (validateResources : Bool) :
    project.diagnoseScenes disk (some validateResources) ((project.search disk).listed
        (disk.filesBelow project.paths.sceneRoot AssetType.sceneExtension)) =
      project.reportOf disk validateResources (project.filesToCheck disk []) := by
  rw [diagnoseScenes, reportOf, filesToCheck, if_pos rfl, List.map_map]
  refine congrArg OrderedMap.ofList (List.map_congr_left fun scene listed => ?_)
  simp [relativePath_eq_displayPath tree listed, findings]

/-- A check of arguments that exist does not fail once the scene root can be asked about. -/
theorem check_eq (tree : disk.IsTree) (near : ¬ disk.Overlong project.paths.sceneRoot)
    (present : ∀ path ∈ paths, disk.isPresent path = true) (validateResources : Bool) :
    project.check disk paths validateResources =
      .ok (project.reportOf disk validateResources (project.filesToCheck disk paths)) := by
  by_cases empty : paths = []
  · subst empty
    have found : (project.search disk).files disk = .ok ((project.search disk).listed
        (disk.filesBelow project.paths.sceneRoot AssetType.sceneExtension)) :=
      SceneSearch.files_eq_ok_iff.mpr ⟨near, rfl⟩
    rw [check, if_pos rfl, diagnoseAll, found, ← diagnoseScenes_eq_reportOf tree]
    rfl
  · rw [check, if_neg empty, checkedFiles_of_isPresent present empty]
    rfl

theorem get?_reportOf {validateResources : Bool} {name : Text} {ds : List Diagnostic} :
    (project.reportOf disk validateResources files).get? name = some ds ↔
      ∃ file, project.LastShown disk files file ∧ project.displayPath disk file = name ∧
        project.findings disk validateResources file = ds := by
  rw [reportOf, OrderedMap.get?_ofList]
  constructor
  · rintro ⟨before, after, split, others⟩
    obtain ⟨front, rest, rfl, -, fromRest⟩ := List.map_eq_append_iff.mp split
    obtain ⟨file, back, rfl, entry, rfl⟩ := List.map_eq_cons_iff.mp fromRest
    cases entry
    refine ⟨file, ⟨front, back, rfl, fun later member => ?_⟩, rfl, rfl⟩
    exact others _ (List.mem_map_of_mem member)
  · rintro ⟨file, ⟨front, back, rfl, others⟩, rfl, rfl⟩
    refine ⟨_, _, by rw [List.map_append, List.map_cons], fun entry member => ?_⟩
    obtain ⟨later, inBack, rfl⟩ := List.mem_map.mp member
    exact others later inBack

theorem errorCount_reportOf {validateResources : Bool} :
    (project.reportOf disk validateResources files).errorCount ≠ 0 ↔
      ∃ file, project.LastShown disk files file ∧
        ∃ d ∈ project.findings disk validateResources file, d.isError = true := by
  have distinct : (project.reportOf disk validateResources files).keys.Nodup :=
    OrderedMap.nodup_keys_ofList _
  rw [Report.errorCount, ← Nat.pos_iff_ne_zero, List.countP_pos_iff]
  constructor
  · rintro ⟨d, member, error⟩
    obtain ⟨ds, inValues, inList⟩ := List.mem_flatten.mp member
    obtain ⟨⟨name, ds⟩, entry, rfl⟩ := List.mem_map.mp inValues
    obtain ⟨file, last, -, rfl⟩ :=
      get?_reportOf.mp ((OrderedMap.get?_eq_some_iff distinct).mpr entry)
    exact ⟨file, last, d, inList, error⟩
  · rintro ⟨file, last, d, inList, error⟩
    have entry := (OrderedMap.get?_eq_some_iff distinct).mp
      (get?_reportOf.mpr ⟨file, last, rfl, rfl⟩)
    exact ⟨d, List.mem_flatten.mpr ⟨_, List.mem_map_of_mem entry, inList⟩, error⟩

theorem reflects_reportOf (validateResources : Bool) :
    project.Reflects disk validateResources (project.LastShown disk files)
      (project.reportOf disk validateResources files)
      (if (project.reportOf disk validateResources files).errorCount = 0 then 0 else 1) := by
  constructor
  · rw [← errorCount_reportOf]
    split <;> simp_all
  · intro file last
    refine ⟨_, get?_reportOf.mpr ⟨file, last, rfl, rfl⟩, ?_⟩
    exact findings_inFile validateResources rfl

end Project

/-! ## The first scan -/

namespace Settings

variable {settings : Settings} {disk : Disk} {project : Project}

/-- The first scan fails where an asset folder cannot be listed, and if only variables are scanned
where the scene root cannot be asked about. -/
theorem exists_scannedProject_iff :
    (∃ project, settings.scannedProject disk = .ok project) ↔
      if settings.autoScanResources then
        ∃ library, AssetLibrary.scan settings.project.paths disk = .ok library
      else ¬ disk.Overlong settings.project.paths.sceneRoot := by
  unfold scannedProject
  split
  case isTrue =>
    rw [exists_map_eq_ok_iff, ← Project.result_scan_eq_ok_iff]
    exact ⟨fun ⟨_, scans⟩ => scans, fun scans => ⟨(), scans⟩⟩
  case isFalse =>
    rw [exists_map_eq_ok_iff]
    cases read : settings.project.sceneTexts disk with
    | error e =>
      have unread : ¬ ∃ texts, settings.project.sceneTexts disk = .ok texts := by simp [read]
      simp only [Project.sceneTexts_eq_ok_iff, exists_and_left, exists_eq', and_true] at unread
      simp [Project.scanVariables_of_error read, unread]
    | ok texts =>
      simp [Project.scanVariables_of_ok read, (Project.sceneTexts_eq_ok_iff.mp read).1]

theorem scannedProject_of_ok (scansAssets : settings.autoScanResources = true)
    (scans : (settings.project.scan disk).result = .ok ()) :
    settings.scannedProject disk = .ok (settings.project.scan disk).project := by
  simp only [scannedProject, scansAssets, if_true, scans]
  rfl

theorem paths_scannedProject (scanned : settings.scannedProject disk = .ok project) :
    project.paths = settings.project.paths := by
  unfold scannedProject at scanned
  split at scanned
  · obtain ⟨-, -, rfl⟩ := map_eq_ok_iff.mp scanned
    exact Project.paths_scan
  · obtain ⟨-, -, rfl⟩ := map_eq_ok_iff.mp scanned
    exact (Project.unscanned_eq_iff.mp Project.unscanned_scanVariables).1

/-- After the first scan the disk can be asked about the scene root. -/
theorem not_overlong_scannedProject (scanned : settings.scannedProject disk = .ok project) :
    ¬ disk.Overlong project.paths.sceneRoot := by
  rw [paths_scannedProject scanned]
  have scans := exists_scannedProject_iff.mp ⟨project, scanned⟩
  split at scans
  · exact Project.not_overlong_of_scan (Project.result_scan_eq_ok_iff.mpr scans)
  · exact scans

end Settings

/-! ## A check -/

section Reply

variable {settings : Settings} {disk : Disk} {project : Project} {paths : List Path}

/-- A first scan that fails is all that the command tells of. -/
theorem checkReply_of_error {e : DiskError} (failed : settings.scannedProject disk = .error e)
    (noResources json : Bool) :
    checkReply settings disk paths noResources json =
      { output := (Failure.plain e.message).output json, status := 1, disk } := by
  rw [checkReply, failed]
  rfl

/-- Where all arguments exist, a check gives a report. -/
theorem checkReply_of_ok (scanned : settings.scannedProject disk = .ok project)
    (tree : disk.IsTree) (present : ∀ path ∈ paths, disk.isPresent path = true)
    (noResources json : Bool) :
    let report := project.reportOf disk (project.validateResources && !noResources)
      (project.filesToCheck disk paths)
    ∃ output, (if json then documentOutput report.json = output
        else Console.show? report.markup = .ok output) ∧
      checkReply settings disk paths noResources json =
        { output, status := if report.errorCount = 0 then 0 else 1, disk } := by
  intro report
  have near := Settings.not_overlong_scannedProject scanned
  have checks : project.check disk paths (project.validateResources && !noResources) =
      .ok report := Project.check_eq tree near present _
  unfold checkReply
  cases json with
  | true => exact ⟨_, rfl, by simp only [scanned, checks, if_true]⟩
  | false =>
    obtain ⟨output, shows⟩ := report.exists_show?
    have prints : printed report.markup = .ok output := by
      rw [printed, shows]
      rfl
    exact ⟨output, shows, by simp only [scanned, checks, Bool.false_eq_true, if_false, prints]⟩

end Reply

/-- A check of arguments that exist tells of the failure of the first scan if it fails, with the
exit status 1. Otherwise it prints a report, which tells of the last of those files that are shown
alike, and its exit status is 1 if an error is found in one of these. So a check reflects every file
that is checked if files that are shown alike read alike. Two files that read differently are shown
alike only where one of them lies under the scene root and the other one does not. -/
theorem check_reflects (occasion : Occasion) (settings : Settings) {disk : Disk}
    (tree : disk.IsTree) (spellable : disk.Spellable)
    (plainRoot : ∀ name ∈ settings.projectRoot.names, Path.Plain name) {arguments : List Text}
    (present : ∀ argument ∈ arguments, disk.isPresent (.ofText argument) = true)
    (noResources json : Bool) :
    let paths := arguments.map Path.ofText
    let reply := Task.run occasion settings disk (.check paths noResources json)
    (∀ e, settings.scannedProject disk = .error e →
      reply.output = (Failure.plain e.message).output json ∧ reply.status = 1) ∧
    ∀ project, settings.scannedProject disk = .ok project →
      let validate := project.validateResources && !noResources
      let files := project.filesToCheck disk paths
      ∃ report : Report,
        (if json then documentOutput report.json = reply.output
          else Console.show? report.markup = .ok reply.output) ∧
        (reply.status = 0 ∨ reply.status = 1) ∧
        (∀ name ds, report.get? name = some ds ↔
          ∃ file, project.LastShown disk files file ∧ project.displayPath disk file = name ∧
            project.findings disk validate file = ds) ∧
        project.Reflects disk validate (project.LastShown disk files) report reply.status ∧
        ((∀ file ∈ files, ∀ other ∈ files,
            project.displayPath disk file = project.displayPath disk other →
              disk.readText file = disk.readText other) →
          project.Reflects disk validate (· ∈ files) report reply.status) ∧
        ∀ file ∈ files, ∀ other ∈ files, disk.isFile file = true → disk.isFile other = true →
          project.displayPath disk file = project.displayPath disk other →
          disk.readText file ≠ disk.readText other →
            ¬ (project.IsInScenes disk file ↔ project.IsInScenes disk other) := by
  intro paths reply
  refine ⟨?fails, ?scans⟩
  case fails =>
    intro e failed
    have same : reply = { output := (Failure.plain e.message).output json, status := 1, disk } :=
      checkReply_of_error failed noResources json
    rw [same]
    exact ⟨rfl, rfl⟩
  case scans =>
    intro project scanned validate files
    have presentPaths : ∀ path ∈ paths, disk.isPresent path = true :=
      List.forall_mem_map.mpr present
    have plainGame : ∀ name ∈ project.paths.gameDirectory.names, Path.Plain name := by
      rw [Settings.paths_scannedProject scanned]
      exact Path.plain_join plainRoot fun _ => Path.plain_of_mem_namesOf
    have plainPaths : ∀ path ∈ paths, ∀ name ∈ path.names, Path.Plain name :=
      List.forall_mem_map.mpr fun _ _ _ => Path.plain_of_mem_namesOf
    have plain (file : Path) (member : file ∈ files) : ∀ name ∈ file.names, Path.Plain name :=
      Project.plain_of_mem_filesToCheck spellable plainGame plainPaths member
    obtain ⟨output, shows, replies⟩ := checkReply_of_ok scanned tree presentPaths noResources json
    let report := project.reportOf disk validate files
    have same : reply = { output, status := if report.errorCount = 0 then 0 else 1, disk } :=
      replies
    rw [same]
    have reflects : project.Reflects disk validate (project.LastShown disk files) report
        (if report.errorCount = 0 then 0 else 1) := Project.reflects_reportOf validate
    refine ⟨report, shows, ?status, fun _ _ => Project.get?_reportOf, reflects, ?alike, ?apart⟩
    case status =>
      dsimp only
      split
      · exact .inl rfl
      · exact .inr rfl
    case alike =>
      intro alike
      refine reflects.of_alike fun file member other memberToo shown => ?_
      rw [Path.ofText_toText (plain file member), Path.ofText_toText (plain other memberToo)]
      exact alike file member other memberToo shown
    case apart =>
      intro file member other memberToo isFile isFileToo shown differ together
      exact differ (Project.readText_of_shown_alike tree spellable (plain file member)
        (plain other memberToo) isFile isFileToo together shown)

/-- A directory and a file outside the scene root, where one scene is in error. -/
theorem check_reflects_apart :
    let settings : Settings := { projectRoot := {} }
    let disk : Disk := ⟨.ofList [(["game"], .directory), (["game", "scene"], .directory),
      (["game", "scene", "a.txt"], .file (.text "jumpLabel:nowhere;")),
      (["b.txt"], .file (.text "end;"))], []⟩
    let paths : List Path := [.ofText "game/scene", .ofText "b.txt"]
    let project := (settings.project.scan disk).project
    let reply := Task.run ⟨⟨2024, 5, 6⟩, []⟩ settings disk (.check paths false true)
    (disk.IsTree ∧ disk.Spellable ∧ (∀ path ∈ paths, disk.isPresent path = true) ∧
        settings.scannedProject disk = .ok project) ∧
      reply.status = 1 ∧
      ∃ report, project.Reflects disk true (· ∈ project.filesToCheck disk paths) report
        reply.status := by
  intro settings disk paths project reply
  have tree : disk.IsTree := by decide
  have spellable : disk.Spellable := by decide
  have present : ∀ path ∈ paths, disk.isPresent path = true := by decide +kernel
  have scans : (settings.project.scan disk).result = .ok () := eq_ok_of_toOption (by decide +kernel)
  have scanned : settings.scannedProject disk = .ok project :=
    Settings.scannedProject_of_ok rfl scans
  obtain ⟨report, -, -, -, -, whole, -⟩ :=
    (check_reflects ⟨⟨2024, 5, 6⟩, []⟩ settings tree spellable (List.forall_mem_nil _)
      (fun argument (member : argument ∈ (["game/scene", "b.txt"] : List Text)) =>
        present _ (List.mem_map_of_mem member)) false true).2 project scanned
  have apart : ∀ file ∈ project.filesToCheck disk paths,
      ∀ other ∈ project.filesToCheck disk paths,
      project.displayPath disk file = project.displayPath disk other →
        disk.readText file = disk.readText other := by
    decide +kernel
  have validates : project.validateResources = true :=
    (Project.unscanned_eq_iff.mp Project.unscanned_scan).2.2.2
  have reflects : project.Reflects disk (project.validateResources && !false)
      (· ∈ project.filesToCheck disk paths) report reply.status := whole apart
  rw [validates] at reflects
  exact ⟨⟨tree, spellable, present, scanned⟩, by decide +kernel, report, reflects⟩

/-- A scene without errors hides the errors of a file that is shown like it. -/
theorem not_forall_check_reflects :
    ¬ ∀ (occasion : Occasion) (settings : Settings) (disk : Disk) (project : Project)
        (paths : List Path),
      disk.IsTree → disk.Spellable → (∀ path ∈ paths, disk.isPresent path = true) →
      settings.scannedProject disk = .ok project →
      ∀ noResources json : Bool,
        (Task.run occasion settings disk (.check paths noResources json)).status = 1 ↔
          ∃ file ∈ project.filesToCheck disk paths,
            ∃ d ∈ project.findings disk (project.validateResources && !noResources) file,
              d.isError = true := by
  intro reflected
  let settings : Settings := { projectRoot := {} }
  let disk : Disk := ⟨.ofList [(["game"], .directory), (["game", "scene"], .directory),
    (["game", "scene", "a.txt"], .file (.text "end;")),
    (["a.txt"], .file (.text "jumpLabel:nowhere;"))], []⟩
  let project := (settings.project.scan disk).project
  have scans : (settings.project.scan disk).result = .ok () := eq_ok_of_toOption (by decide +kernel)
  have status := reflected ⟨⟨2024, 5, 6⟩, []⟩ settings disk project
    [.ofText "a.txt", .ofText "game/scene/a.txt"] (by decide) (by decide) (by decide +kernel)
    (Settings.scannedProject_of_ok rfl scans) false true
  have silent : (Task.run ⟨⟨2024, 5, 6⟩, []⟩ settings disk
      (.check [.ofText "a.txt", .ofText "game/scene/a.txt"] false true)).status = 0 := by
    decide +kernel
  have error : ∃ file ∈ project.filesToCheck disk [.ofText "a.txt", .ofText "game/scene/a.txt"],
      ∃ d ∈ project.findings disk (project.validateResources && !false) file,
        d.isError = true := by
    decide +kernel
  rw [silent] at status
  exact absurd (status.mpr error) (by decide)

end SceneScript
