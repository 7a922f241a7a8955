import SceneScript.Proofs.Diagnostic.Conditions
import SceneScript.Proofs.Index.Share
import SceneScript.Proofs.Project.Listing

/-! # Undefined variables of a project

The index looks at all lines of all files, and the checks at the conditions of known commands. After
a scan they agree on what is undefined, unless the index has another text of a file than the disk.

* `VariableIndex.mem_undefinedNames` — the variables that the index has as undefined;
* `Project.usages_of_condition` — the index knows every variable of every condition;
* `Project.CarriesWhatIsRead` — the edits that a scan takes over say of their files what it read;
* `Project.undefined_agree` — the warnings about conditions name undefined variables, and each of
  those is named once wherever the condition of a known command has it;
* `Project.not_forall_undefined_agree` — an edit that was kept for another scan.
-/

namespace SceneScript

/-- An undefined variable is used somewhere and defined nowhere. -/
theorem VariableIndex.mem_undefinedNames {index : VariableIndex}
    (distinct : index.records.keys.Nodup) {name : Text} :
    name ∈ index.undefinedNames ↔
      index.isDefined name = false ∧ index.snapshot.usages name ≠ [] := by
  have listed : name ∈ index.undefinedNames ↔ ∃ record,
      index.records.get? name = some record ∧ record.usages ≠ [] ∧ record.definitions = [] := by
    simp only [undefinedNames, Text.sort, List.mem_mergeSort, List.mem_map, List.mem_filter,
      Bool.and_eq_true, Bool.not_eq_true', List.isEmpty_iff, List.isEmpty_eq_false_iff]
    constructor
    · rintro ⟨⟨key, record⟩, ⟨member, undefined⟩, rfl⟩
      exact ⟨record, (OrderedMap.get?_eq_some_iff distinct).mpr member, undefined⟩
    · rintro ⟨record, found, undefined⟩
      exact ⟨(name, record), ⟨(OrderedMap.get?_eq_some_iff distinct).mp found, undefined⟩, rfl⟩
  rw [listed]
  simp only [isDefined, record?, IndexSnapshot.usages, snapshot]
  cases index.records.get? name with
  | none => simp
  | some record => simp [VariableRecord.isDefined, and_comm]

namespace Project

variable {project : Project} {disk : Disk} {names : List Text} {content : FileContent}
  {texts : FileTexts}

/-- The edits that a scan takes over say of their files what it read. -/
def CarriesWhatIsRead (project : Project) (texts : FileTexts) : Prop :=
  ∀ edit ∈ project.index.carriedEdits, IndexShare.ofText project.vocabulary edit.1 edit.2 =
    (IndexSnapshot.ofTexts project.vocabulary texts).share edit.1

theorem carriesWhatIsRead_of_idle (idle : project.index.scansRunning = 0) :
    project.CarriesWhatIsRead texts := by
  rw [CarriesWhatIsRead, VariableIndex.carriedEdits_of_idle idle]
  exact List.forall_mem_nil _

/-- The text of every scene is among those that a scan reads. -/
theorem mem_sceneTexts (wellFormed : disk.WellFormed) (read : project.sceneTexts disk = .ok texts)
    (scene : project.paths.HasScene disk names content) (reach : project.paths.IsInReach disk) :
    ((Disk.pathBelow project.paths.sceneRoot names).toText, content.readable) ∈ texts := by
  obtain ⟨-, rfl⟩ := sceneTexts_eq_ok_iff.mp read
  obtain ⟨root, found⟩ := ProjectPaths.find?_pathBelow wellFormed scene reach
  refine List.mem_map.mpr ⟨_, (ProjectPaths.mem_filesBelow_sceneRoot wellFormed).mpr
    ⟨reach, names, content, scene, rfl⟩, ?_⟩
  rw [Disk.readText_of_find? found]

theorem mem_undefinedNames_scan (read : project.sceneTexts disk = .ok texts) {name : Text} :
    name ∈ (project.scan disk).project.index.undefinedNames ↔
      (project.scan disk).project.index.isDefined name = false ∧
        (project.scan disk).project.index.snapshot.usages name ≠ [] := by
  have gathered : (project.scan disk).project.index.snapshot.Gathered := by
    rw [snapshot_scan read]
    exact (IndexSnapshot.gathered_ofTexts _ _).replay _
  obtain ⟨mentions, gathers⟩ := gathered
  exact VariableIndex.mem_undefinedNames gathers.distinct

section Carried

variable (read : project.sceneTexts disk = .ok texts) (carried : project.CarriesWhatIsRead texts)

include read carried

/-- After the scan the same variables are used as in the texts that it read. -/
theorem usages_scan {name : Text} :
    (project.scan disk).project.index.snapshot.usages name ≠ [] ↔
      (IndexSnapshot.ofTexts project.vocabulary texts).usages name ≠ [] := by
  have share : (project.scan disk).project.index.snapshot.share =
      (IndexSnapshot.ofTexts project.vocabulary texts).share := by
    rw [snapshot_scan read]
    exact IndexSnapshot.share_foldl_edit (IndexSnapshot.gathered_ofTexts _ _) carried
  rw [IndexSnapshot.usages_ne_nil_iff, IndexSnapshot.usages_ne_nil_iff, share]

/-- A variable in the condition of a line is used. -/
theorem usages_of_condition (wellFormed : disk.WellFormed)
    (scene : project.paths.HasScene disk names content) (reach : project.paths.IsInReach disk)
    {line : Line} (inScene : line ∈ Script.parse project.vocabulary content.readable) {name : Text}
    (conditional : name ∈ identifiers (line.condition?.getD [])) :
    (project.scan disk).project.index.snapshot.usages name ≠ [] := by
  let file := (Disk.pathBelow project.paths.sceneRoot names).toText
  have mentioned : line.usage file .read name ∈ line.mentions file :=
    List.mem_append_left _ (List.mem_map_of_mem conditional)
  rw [usages_scan read carried,
    IndexSnapshot.usages_of_gathers (IndexSnapshot.gathers_ofTexts _ _)]
  refine List.ne_nil_of_mem (List.mem_filterMap.mpr
    ⟨line.usage file .read name, List.mem_filter.mpr ⟨?_, decide_eq_true rfl⟩, rfl⟩)
  exact List.mem_flatMap.mpr ⟨_, mem_sceneTexts wellFormed read scene reach,
    List.mem_flatMap.mpr ⟨line, inScene, mentioned⟩⟩

/-- Where no file is read no variable is used. -/
theorem isInReach_of_usages (wellFormed : disk.WellFormed) {name : Text}
    (used : (project.scan disk).project.index.snapshot.usages name ≠ []) :
    project.paths.IsInReach disk := by
  rw [usages_scan read carried,
    IndexSnapshot.usages_of_gathers (IndexSnapshot.gathers_ofTexts _ _)] at used
  obtain ⟨usage, member⟩ := List.exists_mem_of_ne_nil _ used
  obtain ⟨mention, member, -⟩ := List.mem_filterMap.mp member
  obtain ⟨entry, inTexts, -⟩ := List.mem_flatMap.mp (List.mem_filter.mp member).1
  obtain ⟨-, rfl⟩ := sceneTexts_eq_ok_iff.mp read
  obtain ⟨listed, walked, -⟩ := List.mem_map.mp inTexts
  exact ((ProjectPaths.mem_filesBelow_sceneRoot wellFormed).mp walked).1

/-- After a full scan the warnings about conditions name undefined variables only, and where the
condition of a known command has an undefined variable there is exactly one of them, which names it
once: unless the scan took over an edit that says something else of a file than was read. -/
theorem undefined_agree (wellFormed : disk.WellFormed) (plain : project.paths.IsPlain)
    (validateResources : Option Bool) :
    let scanned := (project.scan disk).project
    ∃ report, scanned.diagnoseAll disk validateResources = .ok report ∧
      (∀ file ds, report.get? file = some ds → ∀ d ∈ ds, d.code = .undefinedVariable →
        d.toldNames ≠ [] ∧ ∀ name ∈ d.toldNames, name ∈ scanned.index.undefinedNames) ∧
      (∀ name ∈ scanned.index.undefinedNames, ∀ names content,
        project.paths.HasScene disk names content →
        ∀ line ∈ Script.parse project.vocabulary content.readable, scanned.checker.Knows line →
          name ∈ identifiers (line.condition?.getD []) →
        ∃ ds d, report.get? (Path.toText ⟨.relative, names⟩) = some ds ∧
          ds.filter (fun d => d.code = .undefinedVariable ∧ d.number = line.number) = [d] ∧
          d.toldNames.count name = 1) := by
  intro scanned
  have judges : scanned.checker.isDefined = some scanned.index.isDefined := rfl
  have vocabulary : scanned.vocabulary = project.vocabulary :=
    (unscanned_eq_iff.mp unscanned_scan).2.2.1
  obtain ⟨report, reported⟩ : ∃ report,
      scanned.diagnoseAll disk validateResources = .ok report :=
    exists_diagnoseAll_scan_iff.mpr (sceneTexts_eq_ok_iff.mp read).1
  refine ⟨report, reported, ?_, ?_⟩
  · intro file ds found d member code
    have listed : file ∈ report.keys := OrderedMap.isSome_get?_iff.mp (by rw [found]; rfl)
    obtain ⟨reach, names, content, scene, rfl⟩ :=
      ((listsScenes_diagnoseAll_scan wellFormed reported).mem_iff file).mp listed
    rw [get?_diagnoseAll_scan wellFormed plain reported scene reach] at found
    cases found
    obtain ⟨line, inScene, warned⟩ := Checker.exists_line_of_mem_diagnose member code
    obtain ⟨-, some, rfl⟩ := Checker.mem_conditionWarnings.mp warned
    rw [Finding.toldNames_on Checker.isWord_of_mem_undefinedVariables]
    refine ⟨some, fun name told => ?_⟩
    obtain ⟨conditional, isUndefined⟩ := (Checker.mem_undefinedVariables judges).mp told
    have parsed : line ∈ Script.parse project.vocabulary content.readable := vocabulary ▸ inScene
    exact (mem_undefinedNames_scan read).mpr
      ⟨isUndefined, usages_of_condition read carried wellFormed scene reach parsed conditional⟩
  · intro name undefined names content scene line inScene knows conditional
    obtain ⟨isUndefined, used⟩ := (mem_undefinedNames_scan read).mp undefined
    have reach := isInReach_of_usages read carried wellFormed used
    have warned := (Checker.mem_undefinedVariables judges).mpr ⟨conditional, isUndefined⟩
    have parsed : line ∈ Script.parse scanned.checker.vocabulary content.readable := by
      rw [show scanned.checker.vocabulary = project.vocabulary from vocabulary]
      exact inScene
    have single := (scanned.checker.filter_number_diagnose
      (validateResources.getD scanned.validateResources) content.readable parsed).trans
        (Checker.conditionWarnings_of_undefined
          (Disk.pathBelow project.paths.sceneRoot names).collapse.toText knows
          (List.ne_nil_of_mem warned))
    refine ⟨_, _, get?_diagnoseAll_scan wellFormed plain reported scene reach, single, ?_⟩
    rw [Finding.toldNames_on Checker.isWord_of_mem_undefinedVariables]
    have once := List.nodup_iff_count.mp
      (scanned.checker.nodup_undefinedVariables (line.condition?.getD [])) name
    exact Nat.le_antisymm once (List.count_pos_iff.mpr warned)

end Carried

/-- A condition that names an undefined variable twice, beside one that is defined later. -/
theorem undefined_agree_repeated :
    let text : Text := "jumpLabel:end -when=mood>2 and mood<luck;\nsetVar:luck=3;\nlabel:end;"
    let disk : Disk := ⟨.ofList [(["game"], .directory), (["game", "scene"], .directory),
      (["game", "scene", "a.txt"], .file (.text text))], []⟩
    let project : Project :=
      { paths := ⟨.ofText "game"⟩, vocabulary := ["jumpLabel", "setVar", "label"] }
    let texts : FileTexts := [("game/scene/a.txt", text)]
    (disk.WellFormed ∧ project.paths.IsPlain ∧ project.sceneTexts disk = .ok texts ∧
        project.CarriesWhatIsRead texts) ∧
      ("mood" : Text) ∈ (project.scan disk).project.index.undefinedNames ∧
      ∃ report ds d, (project.scan disk).project.diagnoseAll disk = .ok report ∧
        report.get? "a.txt" = some ds ∧
        ds.filter (fun d => d.code = .undefinedVariable ∧ d.number = 0) = [d] ∧
        d.toldNames.count ("mood" : Text) = 1 := by
  intro text disk project texts
  have wellFormed : disk.WellFormed := by decide +kernel
  have plain : project.paths.IsPlain := by decide +kernel
  have read : project.sceneTexts disk = .ok texts := eq_ok_of_toOption (by decide +kernel)
  have carried : project.CarriesWhatIsRead texts := carriesWhatIsRead_of_idle rfl
  obtain ⟨report, reported, -, named⟩ := undefined_agree read carried wellFormed plain none
  have undefined : ("mood" : Text) ∈ (project.scan disk).project.index.undefinedNames :=
    (mem_undefinedNames_scan read).mpr ⟨by decide +kernel, by decide +kernel⟩
  let root : Place := ["game", "scene"]
  have scene : project.paths.HasScene disk ["a.txt"] (.text text) :=
    ⟨root, by decide +kernel, by decide +kernel, by decide +kernel⟩
  let line : Line := .parse project.vocabulary "jumpLabel:end -when=mood>2 and mood<luck;" 0
  have inScene : line ∈ Script.parse project.vocabulary (FileContent.text text).readable := by
    decide +kernel
  have knows : (project.scan disk).project.checker.Knows line :=
    ⟨"jumpLabel", "end", ⟨[("when", "mood>2 and mood<luck")]⟩, by decide +kernel,
      by decide +kernel⟩
  obtain ⟨ds, d, told⟩ := named _ undefined _ _ scene line inScene knows (by decide +kernel)
  rw [show Path.toText ⟨.relative, ["a.txt"]⟩ = "a.txt" from rfl] at told
  exact ⟨⟨wellFormed, plain, read, carried⟩, undefined, report, ds, d, reported, told⟩

/-- A scene was given to the index while a full scan was under way, and has changed since. The next
full scan makes that edit again, so that the index does not know the variable that a warning
names. -/
theorem not_forall_undefined_agree :
    ¬ ∀ (project : Project) (disk : Disk) (report : Report), disk.WellFormed →
      project.paths.IsPlain → (project.scan disk).result = .ok () →
      (project.scan disk).project.diagnoseAll disk = .ok report →
      ∀ file ds, report.get? file = some ds → ∀ d ∈ ds, d.code = .undefinedVariable →
        ∀ name ∈ d.toldNames, name ∈ (project.scan disk).project.index.undefinedNames := by
  intro agree
  let text : Text := "jumpLabel:end -when=mood>2;\nlabel:end;"
  let disk : Disk := ⟨.ofList [(["game"], .directory), (["game", "scene"], .directory),
    (["game", "scene", "a.txt"], .file (.text text))], []⟩
  let first : Project := { paths := ⟨.ofText "game"⟩, vocabulary := ["jumpLabel", "label"] }
  let project := (first.beginScan.2.scanText "game/scene/a.txt" "end;").2
  have wellFormed : disk.WellFormed := by decide +kernel
  have plain : project.paths.IsPlain := by decide +kernel
  have scans : (project.scan disk).result = .ok () := eq_ok_of_toOption (by decide +kernel)
  let scanned := (project.scan disk).project
  obtain ⟨report, reported⟩ : ∃ report, scanned.diagnoseAll disk none = .ok report :=
    exists_diagnoseAll_scan_iff.mpr (not_overlong_of_scan scans)
  let root : Place := ["game", "scene"]
  have found : disk.find? project.paths.sceneRoot = some (root, .directory) := by decide +kernel
  have scene : project.paths.HasScene disk ["a.txt"] (.text text) :=
    ⟨root, found, by decide +kernel, by decide +kernel⟩
  have reach : project.paths.IsInReach disk :=
    (ProjectPaths.reachesTooFar_eq_false wellFormed found).mp (by decide +kernel)
  have told := get?_diagnoseAll_scan wellFormed plain reported scene reach
  obtain ⟨d, member, code, named⟩ : ∃ d ∈ scanned.diagnoseText (FileContent.text text).readable
      (Disk.pathBelow project.paths.sceneRoot ["a.txt"]).collapse.toText none,
      d.code = .undefinedVariable ∧ ("mood" : Text) ∈ d.toldNames := by
    decide +kernel
  have undefined := agree project disk report wellFormed plain scans reported _ _ told d member code
    "mood" named
  have unused : ("mood" : Text) ∉ scanned.index.undefinedNames := by decide +kernel
  exact unused undefined

end Project

end SceneScript
