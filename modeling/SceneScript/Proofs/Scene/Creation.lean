import SceneScript.Proofs.Disk.Growth
import SceneScript.Proofs.Scene.Candidates
import SceneScript.Scene.Creation

/-! # What creating scenes does to a disk

Whatever the options say, the new directories and files lie in the scene root or lead to it, and all
that was there stays as it was. Creating the same scene once more changes nothing. Options that lead
out of the scene root are rejected, but a directory in it may have been made before.

* `SceneSearch.Leads` — the places in the scene root, and those of the directories above it;
* `SceneSearch.createScene_confined` — where new nodes are, and what a second creation does;
* `SceneSearch.createScene_rejected` — what is left of a creation that is rejected.
-/

namespace SceneScript.SceneSearch

variable {search : SceneSearch} {options : SceneCreation} {today : CalendarDate}
  {disk later : Disk} {path : Path} {spelling : Text} {place : Place}

/-! ## Targets -/

theorem target_eq_ok (targeted : search.target spelling = .ok path) :
    path.collapse = path ∧ search.isWithinRoot path = true := by
  simp only [target] at targeted
  split at targeted
  next within =>
    cases targeted
    exact ⟨Path.collapse_collapse _, within⟩
  next => cases targeted

theorem target_eq_error {fault : CreationFault} (targeted : search.target spelling = .error fault) :
    fault = .outsideRoot spelling := by
  simp only [target] at targeted
  split at targeted
  · cases targeted
  · cases targeted
    rfl

def rootPlace (search : SceneSearch) : Place :=
  (search.paths.sceneRoot.absolute search.workingDirectory).names

/-- A place in the scene root, or on the way to it. -/
def Leads (search : SceneSearch) (place : Place) : Prop :=
  search.rootPlace <+: place ∨ place <+: search.rootPlace

theorem leads_of_onWay (targeted : search.target spelling = .ok path)
    (onWay : Disk.OnWay search.workingDirectory path place) : search.Leads place := by
  obtain ⟨collapsed, within⟩ := target_eq_ok targeted
  obtain ⟨sameKind, below, names, absent⟩ := search.names_of_isWithinRoot collapsed within
  have root : (search.root.absolute search.workingDirectory).names = search.rootPlace := by
    rw [SceneSearch.root, Path.absolute_collapse, rootPlace]
  have above : search.rootPlace <+: (path.absolute search.workingDirectory).names := by
    rw [Path.names_absolute_append sameKind names absent, root]
    exact List.prefix_append _ _
  -- Both places lie on the way to the target, so that one of them comes first.
  exact List.prefix_or_prefix_of_prefix above (onWay.isPrefix collapsed)

/-! ## One change after another -/

section Attempt

variable {change : DiskOutcome} {next : Disk → CreationOutcome}

theorem attempt_of_done (done : change.error? = none) : attempt change next = next change.disk := by
  rw [attempt, done]

/-- Only a failure of the disk keeps what comes next from being done. -/
theorem attempt_eq (change : DiskOutcome) (next : Disk → CreationOutcome) :
    (∃ error, attempt change next = ⟨.error (.disk error), change.disk⟩) ∨
      change.error? = none ∧ attempt change next = next change.disk := by
  cases failed : change.error? with
  | none => exact .inr ⟨rfl, attempt_of_done failed⟩
  | some error =>
    refine .inl ⟨error, ?_⟩
    rw [attempt, failed]

end Attempt

/-! ## Templates -/

theorem writeTemplate_eq_ok (written : writeTemplate disk today path = .ok later) :
    later = disk ∧ (∃ node, disk.ask path = .ok (some node)) ∨
      ∃ place, disk.follow path = .ok place ∧ disk.node? place = none ∧
        later = disk.put place (.file (.text (sceneTemplate path.name today))) := by
  unfold writeTemplate at written
  cases asked : disk.ask path with
  | error e => simp [asked, bind, Except.bind] at written
  | ok node? =>
    cases node? with
    | some node =>
      simp only [asked, bind, Except.bind, Option.isSome_some, if_true, pure, Except.pure,
        Except.ok.injEq] at written
      exact .inl ⟨written.symm, node, rfl⟩
    | none =>
      simp only [asked, bind, Except.bind, Option.isSome_none, Bool.false_eq_true, if_false]
        at written
      obtain ⟨place, follows, there⟩ := Disk.write_eq_ok written
      rw [Disk.ask_of_follow follows, Except.ok.injEq] at asked
      exact .inr ⟨place, follows, asked, there⟩

theorem grows_writeTemplate (tree : disk.IsTree)
    (written : writeTemplate disk today path = .ok later) :
    disk.Grows (Disk.OnWay disk.workingDirectory path) later := by
  rcases writeTemplate_eq_ok written with ⟨rfl, -⟩ | ⟨place, follows, absent, rfl⟩
  · exact Disk.Grows.refl tree _
  · exact Disk.grows_put tree follows absent _

theorem keeps_writeTemplate (written : writeTemplate disk today path = .ok later) :
    disk.Keeps later := by
  rcases writeTemplate_eq_ok written with ⟨rfl, -⟩ | ⟨place, follows, absent, rfl⟩
  · exact Disk.Keeps.refl _
  · exact Disk.keeps_put absent _

/-- A template is written once only, on whatever day. -/
theorem writeTemplate_again (written : writeTemplate disk today path = .ok later)
    (day : CalendarDate) : writeTemplate later day path = .ok later := by
  have present : ∃ node, later.ask path = .ok (some node) := by
    rcases writeTemplate_eq_ok written with ⟨rfl, present⟩ | ⟨place, follows, absent, rfl⟩
    · exact present
    · have keeps := Disk.keeps_put absent (.file (.text (sceneTemplate path.name today)))
      have still := keeps.follow follows
      rw [Disk.ask_of_follow still, Disk.node?_put (Disk.ne_nil_of_none absent), if_pos rfl]
      exact ⟨_, rfl⟩
  obtain ⟨node, asked⟩ := present
  simp [writeTemplate, asked, bind, Except.bind, pure, Except.pure]

/-! ## Confinement -/

/-- A part of a creation that adds nothing to a tree but what leads to the scene root. -/
def Confined (search : SceneSearch) (part : Disk → CreationOutcome) : Prop :=
  ∀ disk : Disk, search.workingDirectory = disk.workingDirectory → disk.IsTree →
    disk.Grows search.Leads (part disk).disk

namespace Confined

theorem unchanged (result : Except CreationFault (Option Path)) :
    search.Confined fun disk => ⟨result, disk⟩ :=
  fun _ _ tree => Disk.Grows.refl tree _

theorem afterChange {change : Disk → DiskOutcome} {next : Disk → CreationOutcome}
    (targeted : search.target spelling = .ok path)
    (grows : ∀ disk : Disk, disk.IsTree →
      disk.Grows (Disk.OnWay disk.workingDirectory path) (change disk).disk)
    (confined : search.Confined next) :
    search.Confined fun disk => attempt (change disk) next := by
  intro disk here tree
  have grown : disk.Grows search.Leads (change disk).disk := by
    refine (grows disk tree).mono fun place onWay => ?_
    rw [← here] at onWay
    exact leads_of_onWay targeted onWay
  rcases attempt_eq (change disk) next with ⟨error, failed⟩ | ⟨-, goesOn⟩
  · simp only [failed]
    exact grown
  · simp only [goesOn]
    exact grown.trans (confined _ (here.trans grown.workingDirectory.symm) grown.tree)

theorem template (targeted : search.target spelling = .ok path)
    (result : Except CreationFault (Option Path)) :
    search.Confined fun disk =>
      attempt (disk.attempt (writeTemplate disk today path)) fun disk => ⟨result, disk⟩ := by
  refine afterChange targeted (fun disk tree => ?_) (unchanged result)
  exact Disk.grows_attempt tree fun changed written => grows_writeTemplate tree written

theorem createDirectory (search : SceneSearch) (today : CalendarDate) (options : SceneCreation) :
    search.Confined (search.createDirectory today options) := by
  unfold SceneSearch.createDirectory
  cases targeted : search.target options.directorySpelling with
  | error fault => exact unchanged _
  | ok directory =>
    apply afterChange targeted fun disk tree => Disk.grows_buildDirectories tree directory
    cases inDirectory : options.fileInDirectory? with
    | none => exact unchanged _
    | some spelling =>
      dsimp only
      cases fileTargeted : search.target spelling with
      | error fault => exact unchanged _
      | ok file => exact template fileTargeted _

theorem createFile (search : SceneSearch) (today : CalendarDate) (options : SceneCreation) :
    search.Confined (search.createFile today options) := by
  unfold SceneSearch.createFile
  cases targeted : search.target options.fileSpelling with
  | error fault => exact unchanged _
  | ok file =>
    refine afterChange targeted (fun disk tree => ?_) (template targeted _)
    exact (Disk.grows_buildDirectories tree file.parent).mono fun place => Disk.OnWay.of_parent

theorem createScene (search : SceneSearch) (today : CalendarDate) (options : SceneCreation) :
    search.Confined (search.createScene today options) := by
  unfold SceneSearch.createScene
  split
  · exact createDirectory search today options
  · split
    · exact createFile search today options
    · exact unchanged _

end Confined

/-! ## Once more -/

/-- A part of a creation leaves a disk on which its second run, on whatever day, has the same result
and nothing to do. -/
def Settles (part again : Disk → CreationOutcome) : Prop :=
  ∀ disk path, (part disk).result = .ok (some path) →
    disk.Keeps (part disk).disk ∧ again (part disk).disk = ⟨.ok (some path), (part disk).disk⟩

namespace Settles

variable {part again next nextAgain : Disk → CreationOutcome} {day : CalendarDate}

theorem unchanged (result : Except CreationFault (Option Path)) :
    Settles (fun disk => ⟨result, disk⟩) fun disk => ⟨result, disk⟩ := by
  intro disk path ok
  cases ok
  exact ⟨Disk.Keeps.refl disk, rfl⟩

theorem directories (directory : Path) (settles : Settles next nextAgain) :
    Settles (fun disk => attempt (disk.buildDirectories directory) next)
      fun disk => attempt (disk.buildDirectories directory) nextAgain := by
  intro disk path ok
  rcases attempt_eq (disk.buildDirectories directory) next with ⟨error, failed⟩ | ⟨done, goesOn⟩
  · simp only [failed] at ok
    cases ok
  · simp only [goesOn] at ok ⊢
    obtain ⟨keeps, same⟩ := settles _ path ok
    -- What comes next keeps the directory, so that it need not be made again.
    have there := keeps.isDirectory (Disk.isDirectory_buildDirectories done)
    rw [Disk.buildDirectories_of_isDirectory there, attempt_of_done rfl]
    exact ⟨(Disk.keeps_buildDirectories disk directory).trans keeps, same⟩

theorem template (file : Path) (today day : CalendarDate)
    (result : Except CreationFault (Option Path)) :
    Settles
      (fun disk => attempt (disk.attempt (writeTemplate disk today file)) (⟨result, ·⟩))
      fun disk => attempt (disk.attempt (writeTemplate disk day file)) (⟨result, ·⟩) := by
  intro disk path ok
  cases written : writeTemplate disk today file with
  | error e =>
    simp only [written, Disk.attempt, attempt] at ok
    cases ok
  | ok later =>
    simp only [written, Disk.attempt, attempt] at ok ⊢
    rw [writeTemplate_again written day, ok]
    exact ⟨keeps_writeTemplate written, rfl⟩

theorem createDirectory (search : SceneSearch) (today day : CalendarDate)
    (options : SceneCreation) :
    Settles (search.createDirectory today options) (search.createDirectory day options) := by
  unfold SceneSearch.createDirectory
  cases targeted : search.target options.directorySpelling with
  | error fault => exact unchanged _
  | ok directory =>
    apply directories
    cases inDirectory : options.fileInDirectory? with
    | none => exact unchanged _
    | some spelling =>
      dsimp only
      cases fileTargeted : search.target spelling with
      | error fault => exact unchanged _
      | ok file => exact template file today day _

theorem createFile (search : SceneSearch) (today day : CalendarDate) (options : SceneCreation) :
    Settles (search.createFile today options) (search.createFile day options) := by
  unfold SceneSearch.createFile
  cases targeted : search.target options.fileSpelling with
  | error fault => exact unchanged _
  | ok file => exact directories file.parent (template file today day _)

theorem createScene (search : SceneSearch) (today day : CalendarDate) (options : SceneCreation) :
    Settles (search.createScene today options) (search.createScene day options) := by
  unfold SceneSearch.createScene
  split
  · exact createDirectory search today day options
  · split
    · exact createFile search today day options
    · exact unchanged _

end Settles

theorem createScene_confined (search : SceneSearch) (today : CalendarDate)
    (options : SceneCreation) {disk : Disk}
    (here : search.workingDirectory = disk.workingDirectory) (tree : disk.IsTree) :
    disk.Grows search.Leads (search.createScene today options disk).disk ∧
      ∀ path, (search.createScene today options disk).result = .ok (some path) → ∀ day,
        search.createScene day options (search.createScene today options disk).disk =
          ⟨.ok (some path), (search.createScene today options disk).disk⟩ := by
  refine ⟨Confined.createScene search today options disk here tree, ?_⟩
  intro path ok day
  exact (Settles.createScene search today day options disk path ok).2

/-- A file in two new directories, below a scene root that is missing too. -/
theorem createScene_confined_below_missing_root :
    let search : SceneSearch := ⟨⟨⟨.relative, ["game"]⟩⟩, ["home"]⟩
    let options : SceneCreation :=
      { createFile := true, directory := some "./a//b/../c", fileName := some "d.txt" }
    let disk : Disk := ⟨.ofList [(["home"], .directory), (["top"], .file (.text "kept"))], ["home"]⟩
    let outcome := search.createScene ⟨2024, 5, 6⟩ options disk
    (search.workingDirectory = disk.workingDirectory ∧ disk.IsTree) ∧
      disk.Grows search.Leads outcome.disk ∧
      ∀ path, outcome.result = .ok (some path) → ∀ day,
        search.createScene day options outcome.disk = ⟨.ok (some path), outcome.disk⟩ := by
  intro search options disk outcome
  have tree : disk.IsTree := by decide
  exact ⟨⟨rfl, tree⟩, createScene_confined search ⟨2024, 5, 6⟩ options rfl tree⟩

/-! ## Rejection -/

theorem createFile_rejected
    (rejected : (search.createFile today options disk).result = .error (.outsideRoot spelling)) :
    (search.createFile today options disk).disk = disk := by
  unfold createFile at rejected ⊢
  cases targeted : search.target options.fileSpelling with
  | error fault => rfl
  | ok file =>
    -- Past this point only the disk can fail.
    simp only [targeted, attempt] at rejected
    grind

/-- A creation that is rejected leaves the directory that was to be made first, and nothing else. -/
theorem createDirectory_rejected
    (rejected : (search.createDirectory today options disk).result =
      .error (.outsideRoot spelling)) :
    ((∃ fault, search.target options.directorySpelling = .error fault) ∧
      (search.createDirectory today options disk).disk = disk) ∨
    ∃ directory, search.target options.directorySpelling = .ok directory ∧
      options.fileInDirectory? = some spelling ∧
      (disk.buildDirectories directory).error? = none ∧
      (search.createDirectory today options disk).disk =
        (disk.buildDirectories directory).disk := by
  unfold createDirectory at rejected ⊢
  cases targeted : search.target options.directorySpelling with
  | error fault => exact .inl ⟨⟨fault, rfl⟩, rfl⟩
  | ok directory =>
    simp only [targeted] at rejected ⊢
    refine .inr ⟨directory, rfl, ?_⟩
    rcases attempt_eq (disk.buildDirectories directory) _ with ⟨error, failed⟩ | ⟨done, goesOn⟩
    · rw [failed] at rejected
      cases rejected
    rw [goesOn] at rejected ⊢
    cases inDirectory : options.fileInDirectory? with
    | none =>
      rw [inDirectory] at rejected
      cases rejected
    | some fileSpelling =>
      simp only [inDirectory] at rejected ⊢
      cases fileTargeted : search.target fileSpelling with
      | error fault =>
        rw [fileTargeted] at rejected
        rw [target_eq_error fileTargeted] at rejected
        cases rejected
        exact ⟨rfl, done, rfl⟩
      | ok file =>
        simp only [fileTargeted, attempt] at rejected
        grind

/-- The disk is untouched unless the directory itself could be made, and had to be. -/
theorem createScene_rejected (search : SceneSearch) (today : CalendarDate)
    (options : SceneCreation) (disk : Disk) {spelling : Text}
    (rejected : (search.createScene today options disk).result =
      .error (.outsideRoot spelling)) :
    ((search.createScene today options disk).disk = disk ↔
      ∀ directory, options.createDirectory = true →
        search.target options.directorySpelling = .ok directory →
          disk.isDirectory directory = true) ∧
    ∀ directory, options.createDirectory = true →
      search.target options.directorySpelling = .ok directory →
        options.fileInDirectory? = some spelling ∧
        (disk.buildDirectories directory).error? = none ∧
        (search.createScene today options disk).disk = (disk.buildDirectories directory).disk := by
  unfold createScene at rejected ⊢
  cases makesDirectory : options.createDirectory with
  | false =>
    simp only [makesDirectory, Bool.false_eq_true, if_false, false_implies, implies_true, and_true,
      iff_true] at rejected ⊢
    cases makesFile : options.createFile with
    | false =>
      rw [makesFile] at rejected
      cases rejected
    | true =>
      rw [makesFile] at rejected
      exact createFile_rejected rejected
  | true =>
    rw [makesDirectory] at rejected
    simp only [if_true, true_implies] at rejected ⊢
    rcases createDirectory_rejected rejected with
      ⟨⟨fault, outside⟩, same⟩ | ⟨directory, targeted, inDirectory, done, left⟩
    · simp [outside, same]
    · simp only [targeted, Except.ok.injEq, forall_eq', left]
      refine ⟨⟨fun same => ?_, fun there => ?_⟩, inDirectory, done, trivial⟩
      · have made := Disk.isDirectory_buildDirectories done
        rwa [same] at made
      · rw [Disk.buildDirectories_of_isDirectory there]

instance : DecidableEq (Except CreationFault (Option Path))
  | .ok a, .ok b => decidable_of_iff (a = b) (by simp)
  | .error a, .error b => decidable_of_iff (a = b) (by simp)
  | .ok _, .error _ => isFalse (by simp)
  | .error _, .ok _ => isFalse (by simp)

/-- A file beside the scene root, named from a directory in it that is missing. -/
def escaping : SceneCreation :=
  { createFile := true, createDirectory := true, directory := some "chapter9"
    fileName := some "../../evil.txt" }

/-- A project that has a scene root with one file. -/
def smallDisk : Disk :=
  ⟨.ofList [(["game"], .directory), (["game", "scene"], .directory),
    (["game", "scene", "start.txt"], .file (.text "end;"))], []⟩

def smallSearch : SceneSearch := ⟨⟨⟨.relative, ["game"]⟩⟩, []⟩

theorem createScene_rejected_escaping :
    (smallSearch.createScene ⟨2024, 5, 6⟩ escaping smallDisk).result =
      .error (.outsideRoot "chapter9/../../evil.txt") ∧
    (smallSearch.createScene ⟨2024, 5, 6⟩ escaping smallDisk).disk ≠ smallDisk := by
  have rejected : (smallSearch.createScene ⟨2024, 5, 6⟩ escaping smallDisk).result =
      .error (.outsideRoot "chapter9/../../evil.txt") := by decide +kernel
  refine ⟨rejected, fun same => ?_⟩
  have untouched := (createScene_rejected smallSearch ⟨2024, 5, 6⟩ escaping smallDisk rejected).1
  have there := untouched.mp same ⟨.relative, ["game", "scene", "chapter9"]⟩ rfl rfl
  revert there
  decide

theorem not_forall_rejected_untouched :
    ¬ ∀ (search : SceneSearch) (today : CalendarDate) (options : SceneCreation) (disk : Disk)
      (spelling : Text),
      (search.createScene today options disk).result = .error (.outsideRoot spelling) →
        (search.createScene today options disk).disk = disk := by
  intro untouched
  have same := untouched smallSearch ⟨2024, 5, 6⟩ escaping smallDisk
    "chapter9/../../evil.txt" (by decide +kernel)
  revert same
  decide +kernel

end SceneScript.SceneSearch
