import SceneScript.Proofs.Disk.Series
import SceneScript.Proofs.Path.Collapse
import SceneScript.Scene.Search

/-! # Candidates of a scene search

A candidate is the collapsed path of a spelling in a directory. One under the scene root is the root
with more names behind it, none of them `..`, as the root ends in a name of its own.

* `SceneSearch.withExtension_joinText`, `SceneSearch.mem_candidatePaths` — a candidate as a
  directory and an ending;
* `SceneSearch.mem_ancestors` — the directories above a directory;
* `SceneSearch.below_of_isWithinRoot` — the names that lead from the root to a candidate;
* `SceneSearch.Readable` — a search whose directories have names as they are read from texts;
* `SceneSearch.sought`, `SceneSearch.exists_resolve_iff` — what is asked, and when there is an
  answer;
* `SceneSearch.mem_resolve`, `SceneSearch.pairwise_resolve` — the answer and its order.
-/

namespace SceneScript.SceneSearch

/-! ## Spellings -/

/-- The extension is looked for after the last slash. -/
theorem endsWith_extension_append_slash (front t : Text) :
    Text.endsWith AssetType.sceneExtension (front ++ '/' :: t) =
      Text.endsWith AssetType.sceneExtension t := by
  rw [Bool.eq_iff_iff]
  simp only [Text.endsWith, List.isSuffixOf_iff_suffix]
  have tail : t <:+ front ++ '/' :: t := (List.suffix_cons '/' t).trans (List.suffix_append ..)
  constructor
  · intro ends
    rcases Nat.lt_or_ge t.length AssetType.sceneExtension.length with shorter | longer
    · -- an extension that began before the slash would contain it
      have slash : '/' :: t <:+ AssetType.sceneExtension :=
        List.suffix_of_suffix_length_le (List.suffix_append ..) ends shorter
      have member : '/' ∈ AssetType.sceneExtension := slash.subset List.mem_cons_self
      exact absurd member (by decide)
    · exact List.suffix_of_suffix_length_le ends tail longer
  · exact fun ends => ends.trans tail

theorem endsWith_extension_toText {p : Path} {front : List Text} {name : Text}
    (last : p.names = front ++ [name]) (named : name ≠ []) :
    Text.endsWith AssetType.sceneExtension p.toText =
      Text.endsWith AssetType.sceneExtension name := by
  obtain ⟨before, written, rfl | ⟨more, rfl⟩⟩ := Path.exists_toText_eq_append last named
  · rw [written, List.nil_append]
  · rw [written, List.append_assoc]
    exact endsWith_extension_append_slash more name

theorem startsWith_slash_append {t : Text} (nonempty : t ≠ []) (more : Text) :
    Text.startsWith ['/'] (t ++ more) = Text.startsWith ['/'] t := by
  cases t with
  | nil => exact absurd rfl nonempty
  | cons c rest => simp [Text.startsWith, List.isPrefixOf_cons_cons]

theorem mem_withExtension {reference ending : Text} :
    ending ∈ withExtension reference ↔
      ending = reference ∨ Text.endsWith AssetType.sceneExtension reference = false ∧
        ending = reference ++ AssetType.sceneExtension := by
  unfold withExtension
  cases ends : Text.endsWith AssetType.sceneExtension reference <;> simp

section WithExtension

variable {reference : Text} (nonempty : reference ≠ []) (directory : Text)

include nonempty

theorem joinText_append (more : Text) :
    joinText directory (reference ++ more) = joinText directory reference ++ more := by
  simp only [joinText, startsWith_slash_append nonempty more]
  split
  · rfl
  · split <;> simp

omit nonempty in
theorem endsWith_extension_joinText :
    Text.endsWith AssetType.sceneExtension (joinText directory reference) =
      Text.endsWith AssetType.sceneExtension reference := by
  unfold joinText
  split
  next => rfl
  next =>
    split
    next ends =>
      obtain ⟨front, rfl⟩ : ['/'] <:+ directory := by simpa [Text.endsWith] using ends
      rw [List.append_assoc]
      exact endsWith_extension_append_slash front reference
    next => exact endsWith_extension_append_slash directory reference

/-- It does not matter whether the extension comes before or after the directory. -/
theorem withExtension_joinText :
    withExtension (joinText directory reference) =
      (withExtension reference).map (joinText directory) := by
  unfold withExtension
  rw [endsWith_extension_joinText]
  split
  · rfl
  · simp [joinText_append nonempty]

/-- Where a spelling starts does not depend on the extension. -/
theorem startsWith_slash_of_mem {spelling : Text} (member : spelling ∈ withExtension reference) :
    Text.startsWith ['/'] spelling = Text.startsWith ['/'] reference := by
  rcases mem_withExtension.mp member with rfl | ⟨-, rfl⟩
  · rfl
  · exact startsWith_slash_append nonempty _

theorem anchorOf_of_mem {spelling : Text} (member : spelling ∈ withExtension reference) :
    Path.anchorOf spelling = Path.anchorOf reference := by
  rcases mem_withExtension.mp member with rfl | ⟨-, rfl⟩
  · rfl
  · exact Path.anchorOf_append nonempty fun _ => Path.ne_slash_of_start (by decide) _

end WithExtension

theorem joinText_nil (t : Text) : joinText [] t = t := by simp [joinText]

variable (search : SceneSearch) {reference : Text} (file : Option Path)

/-- A reference is looked for in the root itself and in every directory. -/
theorem mem_spellings (nonempty : reference ≠ []) {spelling : Text} :
    spelling ∈ search.spellings reference file ↔
      ∃ directory ∈ [] :: search.directorySpellings file,
        ∃ ending ∈ withExtension reference, spelling = joinText directory ending := by
  simp only [spellings, List.mem_append, List.mem_flatMap, withExtension_joinText nonempty,
    List.mem_map, List.mem_cons, exists_eq_or_imp, joinText_nil]
  constructor
  · rintro (here | ⟨directory, member, ending, inside, rfl⟩)
    · exact .inl ⟨spelling, here, rfl⟩
    · exact .inr ⟨directory, member, ending, inside, rfl⟩
  · rintro (⟨_, here, rfl⟩ | ⟨directory, member, ending, inside, rfl⟩)
    · exact .inl here
    · exact .inr ⟨directory, member, ending, inside, rfl⟩

/-! ## Paths of candidates -/

/-- The path of a spelling in a directory, seen from the scene root. -/
def located (directory : Path) (ending : Text) : Path :=
  ((search.root.join directory).join (.ofText ending)).collapse

theorem mem_candidatePaths (nonempty : reference ≠ []) {path : Path} :
    path ∈ search.candidatePaths reference file ↔
      (∃ directory ∈ [] :: search.directorySpellings file, ∃ ending ∈ withExtension reference,
        path = search.located (.ofText directory) ending) ∧
      Text.endsWith AssetType.sceneExtension path.toText = true ∧
      search.isWithinRoot path = true := by
  simp only [candidatePaths, mem_firstOccurrences, List.mem_filter, List.mem_map, Bool.and_eq_true,
    mem_spellings search file nonempty]
  refine and_congr_left fun _ => ?_
  constructor
  · rintro ⟨_, ⟨directory, member, ending, inside, rfl⟩, rfl⟩
    refine ⟨directory, member, ending, inside, ?_⟩
    rw [located, Path.ofText_joinText, Path.join_assoc]
  · rintro ⟨directory, member, ending, inside, rfl⟩
    refine ⟨_, ⟨directory, member, ending, inside, rfl⟩, ?_⟩
    rw [located, Path.ofText_joinText, Path.join_assoc]

/-! ## Directories -/

/-- The directories above a directory, from the nearest on. -/
theorem mem_ancestors {levels : Nat} {names parent : List Text} :
    parent ∈ ancestors levels names ↔
      ∃ depth, 1 ≤ depth ∧ depth < names.length ∧ names.length ≤ depth + levels ∧
        parent = names.take depth := by
  induction levels generalizing names with
  | zero =>
    simp only [ancestors, List.not_mem_nil, false_iff]
    rintro ⟨depth, -, above, below, -⟩
    omega
  | succ levels ih =>
    have nearest : names.dropLast = names.take (names.length - 1) := List.dropLast_eq_take
    have length : names.dropLast.length = names.length - 1 := List.length_dropLast
    rw [ancestors]
    cases above : names.dropLast with
    | nil =>
      rw [above, List.length_nil] at length
      simp only [List.not_mem_nil, false_iff]
      rintro ⟨depth, named, inside, -, -⟩
      omega
    | cons first rest =>
      rw [above, List.length_cons] at length
      simp only [← above, List.mem_cons, ih, List.length_dropLast]
      constructor
      · rintro (rfl | ⟨depth, named, inside, near, rfl⟩)
        · exact ⟨names.length - 1, by omega, by omega, by omega, nearest⟩
        · refine ⟨depth, named, by omega, by omega, ?_⟩
          rw [nearest, List.take_take, Nat.min_eq_left (by omega)]
      · rintro ⟨depth, named, inside, near, rfl⟩
        by_cases next : depth = names.length - 1
        · exact .inl (next ▸ nearest.symm)
        · refine .inr ⟨depth, named, by omega, by omega, ?_⟩
          rw [nearest, List.take_take, Nat.min_eq_left (by omega)]

theorem ofText_of_mem_commonDirectories {directory : Text} (usual : directory ∈ commonDirectories) :
    Path.ofText directory = ⟨.relative, Path.namesOf directory⟩ := by
  have relative : ∀ directory ∈ commonDirectories, Path.anchorOf directory = .relative := by decide
  rw [Path.ofText, relative directory usual]

variable {file} in
/-- Every directory is looked up from the root. -/
theorem isAbsolute_of_mem_directorySpellings
    (plain : ∀ f ∈ file, ∀ name ∈ (search.referringDirectory f).names, Path.Plain name)
    {directory : Text} (member : directory ∈ [] :: search.directorySpellings file) :
    (Path.ofText directory).isAbsolute = false := by
  simp only [directorySpellings, List.mem_cons, List.mem_append] at member
  rcases member with rfl | near | usual
  · rfl
  · cases file with
    | none => cases near
    | some f =>
      have plain := plain f rfl
      rcases List.mem_cons.mp near with rfl | above
      · rw [Path.ofText_toText plain]
        rfl
      · obtain ⟨names, fromAbove, rfl⟩ := List.mem_map.mp above
        obtain ⟨depth, -, -, -, rfl⟩ := mem_ancestors.mp fromAbove
        rw [Path.ofText_toText fun name member => plain name (List.mem_of_mem_take member)]
        rfl
  · rw [ofText_of_mem_commonDirectories usual]
    rfl

/-! ## The scene root -/

theorem names_root : ∃ front, search.root.names = front ++ [AssetType.scene.folder] := by
  have ne : AssetType.scene.folder ≠ Path.parentName := by decide
  refine ⟨(search.paths.gameDirectory.names.foldl
    (Path.collapseStep search.paths.gameDirectory.anchor) []).reverse, ?_⟩
  simp only [root, ProjectPaths.sceneRoot, ProjectPaths.assetDirectory, Path.child, Path.collapse,
    List.foldl_append, List.foldl_cons, List.foldl_nil, Path.collapseStep_of_ne ne,
    List.reverse_cons]

/-- After the names of the root no `..` is left to lead out of it. -/
theorem names_of_isWithinRoot {path : Path} (collapsed : path.collapse = path)
    (within : search.isWithinRoot path = true) :
    path.isAbsolute = search.root.isAbsolute ∧
    ∃ below, path.names = search.root.names ++ below ∧ Path.parentName ∉ below := by
  simp only [isWithinRoot, Bool.and_eq_true, decide_eq_true_eq,
    List.isPrefixOf_iff_prefix] at within
  obtain ⟨⟨sameKind, -⟩, below, names⟩ := within
  obtain ⟨front, rootNames⟩ := search.names_root
  have ne : AssetType.scene.folder ≠ Path.parentName := by decide
  have split : path.names = front ++ AssetType.scene.folder :: below := by
    rw [← names, rootNames, List.append_assoc]
    rfl
  exact ⟨sameKind, below, names.symm, Path.notMem_of_collapsed collapsed split ne⟩

/-- The root itself does not end like a scene. -/
theorem below_of_isWithinRoot {path : Path} (collapsed : path.collapse = path)
    (ends : Text.endsWith AssetType.sceneExtension path.toText = true)
    (within : search.isWithinRoot path = true) :
    path.isAbsolute = search.root.isAbsolute ∧
    ∃ below, below ≠ [] ∧ path.names = search.root.names ++ below ∧ Path.parentName ∉ below ∧
      Path.relativeTo search.workingDirectory search.root path = ⟨.relative, below⟩ := by
  obtain ⟨sameKind, below, names, absent⟩ := search.names_of_isWithinRoot collapsed within
  obtain ⟨front, rootNames⟩ := search.names_root
  refine ⟨sameKind, below, ?_, names, absent, ?_⟩
  · -- the root is written with the name of its folder at the end
    rintro rfl
    have last : path.names = front ++ [AssetType.scene.folder] := by
      rw [names, rootNames, List.append_nil]
    have extension : AssetType.sceneExtension <:+ path.toText := by
      simpa [Text.endsWith] using ends
    have inFolder : AssetType.sceneExtension <:+ AssetType.scene.folder :=
      List.suffix_of_suffix_length_le extension (Path.suffix_toText last) (by decide)
    exact absurd inFolder (by decide)
  · exact Path.relativeTo_of_below (Path.names_absolute_append sameKind names absent)

/-! ## Names that can be read -/

/-- What a search starts from has names as they are read from texts. -/
structure Readable : Prop where
  game : ∀ name ∈ search.paths.gameDirectory.names, Path.Plain name
  working : ∀ name ∈ search.workingDirectory, Path.Plain name

namespace Readable

variable {search} (readable : search.Readable)

include readable

theorem root : ∀ name ∈ search.root.names, Path.Plain name := by
  have folder : Path.Plain AssetType.scene.folder := ⟨by decide, by decide, by decide⟩
  refine Path.plain_collapse fun name member => ?_
  rcases List.mem_append.mp member with inGame | last
  · exact readable.game name inGame
  · exact List.mem_singleton.mp last ▸ folder

theorem referringDirectory {f : Path} (plain : ∀ name ∈ f.names, Path.Plain name) :
    ∀ name ∈ (search.referringDirectory f).names, Path.Plain name := by
  apply Path.plain_relativeTo readable.working
  apply Path.plain_collapse
  intro name member
  have inFile := (List.dropLast_sublist _).subset member
  split at inFile
  · exact plain name inFile
  · exact Path.plain_join readable.game plain name inFile

theorem located {directory : Path} (plain : ∀ name ∈ directory.names, Path.Plain name)
    (ending : Text) : ∀ name ∈ (search.located directory ending).names, Path.Plain name :=
  Path.plain_collapse <| Path.plain_join (Path.plain_join readable.root plain) fun _ =>
    Path.plain_of_mem_namesOf

end Readable

/-! ## Resolving -/

/-- The paths of which it is asked whether they are files. -/
def sought (input : Text) (file : Option Path) : List Path :=
  if cleanSceneInput input = [] then [] else search.candidatePaths (cleanSceneInput input) file

variable {search} {input : Text} {file : Option Path}

theorem mem_sought {path : Path} :
    path ∈ search.sought input file ↔
      cleanSceneInput input ≠ [] ∧ path ∈ search.candidatePaths (cleanSceneInput input) file := by
  by_cases empty : cleanSceneInput input = [] <;> simp [sought, empty]

theorem nodup_sought : (search.sought input file).Nodup := by
  unfold sought
  split
  · exact List.nodup_nil
  · exact nodup_firstOccurrences _

section Answer

variable {isFile : Path → Except DiskError Bool}

theorem resolve_eq :
    search.resolve isFile input file =
      ((search.sought input file).mapM fun path =>
        (isFile path).map (search.candidate path)).map rank := by
  by_cases empty : cleanSceneInput input = []
  · have nothing : rank [] = [] := List.mergeSort_nil
    simp [resolve, sought, empty, Except.map, pure, Except.pure, nothing]
  · simp only [resolve, sought, empty, if_false]
    rfl

/-- There is an answer if there is one to each of the questions. -/
theorem exists_resolve_iff :
    (∃ candidates, search.resolve isFile input file = .ok candidates) ↔
      ∀ path ∈ search.sought input file, ∃ isThere, isFile path = .ok isThere := by
  simp only [resolve_eq, exists_map_eq_ok_iff, exists_mapM_eq_ok_iff]

/-- The failure of a search is that of one of its questions. -/
theorem exists_of_resolve_eq_error {e : DiskError}
    (failed : search.resolve isFile input file = .error e) :
    ∃ path ∈ search.sought input file, isFile path = .error e := by
  rw [resolve_eq, map_eq_error_iff] at failed
  obtain ⟨path, member, unanswered⟩ := exists_of_mapM_eq_error failed
  exact ⟨path, member, map_eq_error_iff.mp unanswered⟩

variable {candidates : List SceneCandidate}
  (answered : search.resolve isFile input file = .ok candidates)

include answered

/-- An answer puts what is known of each path in order. -/
theorem exists_of_resolve :
    ∃ isThere : Path → Bool, (∀ path ∈ search.sought input file, isFile path = .ok (isThere path)) ∧
      candidates =
        rank ((search.sought input file).map fun path => search.candidate path (isThere path)) := by
  have each := exists_resolve_iff.mp ⟨candidates, answered⟩
  refine ⟨fun path => (isFile path).toOption.getD false, fun path member => ?_, ?_⟩
  · obtain ⟨isThere, answer⟩ := each path member
    simp [answer, Except.toOption]
  · rw [resolve_eq] at answered
    rw [mapM_eq_ok_map (g := fun path =>
      search.candidate path ((isFile path).toOption.getD false)) ?_] at answered
    · exact (Except.ok.inj answered).symm
    · intro path member
      obtain ⟨isThere, answer⟩ := each path member
      simp [answer, Except.toOption, Except.map]

theorem mem_resolve {candidate : SceneCandidate} :
    candidate ∈ candidates ↔ ∃ path ∈ search.sought input file, ∃ isThere,
      isFile path = .ok isThere ∧ search.candidate path isThere = candidate := by
  obtain ⟨isThere, each, rfl⟩ := exists_of_resolve answered
  simp only [rank, List.mem_mergeSort, List.mem_map]
  refine exists_congr fun path => and_congr_right fun member => ?_
  simp [each path member]

/-- An answer tells of exactly the paths that were asked about. -/
theorem mem_fullPaths_resolve {path : Path} :
    path ∈ candidates.map (·.fullPath) ↔ path ∈ search.sought input file := by
  rw [List.mem_map]
  constructor
  · rintro ⟨_, member, rfl⟩
    obtain ⟨path, inside, isThere, -, rfl⟩ := (mem_resolve answered).mp member
    exact inside
  · intro inside
    obtain ⟨isThere, answer⟩ := exists_resolve_iff.mp ⟨candidates, answered⟩ path inside
    exact ⟨_, (mem_resolve answered).mpr ⟨path, inside, isThere, answer, rfl⟩, rfl⟩

/-- What tells the paths apart tells the candidates apart. -/
theorem nodup_map_resolve {α : Type} {f : SceneCandidate → α}
    (distinct : ∀ path ∈ search.sought input file, ∀ other ∈ search.sought input file,
      ∀ isThere isThereToo : Bool,
        f (search.candidate path isThere) = f (search.candidate other isThereToo) →
          path = other) :
    (candidates.map f).Nodup := by
  obtain ⟨isThere, -, rfl⟩ := exists_of_resolve answered
  rw [rank, ((List.mergeSort_perm _ precedes).map f).nodup_iff, List.map_map]
  refine List.pairwise_map.mpr (nodup_sought.imp_of_mem ?_)
  intro path other member memberToo different same
  exact different (distinct path member other memberToo _ _ same)

end Answer

theorem precedes_total (a b : SceneCandidate) : precedes a b || precedes b a := by
  unfold precedes
  by_cases same : a.isPresent = b.isPresent
  · simpa [same] using Text.ble_total a.relativePath b.relativePath
  · cases present : a.isPresent with
    | true => simp [Ne.symm (present ▸ same)]
    | false =>
      have other : b.isPresent = true := by simpa [present] using same
      simp [other]

theorem precedes_trans (a b c : SceneCandidate) (first : precedes a b = true)
    (second : precedes b c = true) : precedes a c = true := by
  unfold precedes at *
  cases presentA : a.isPresent <;> cases presentB : b.isPresent <;>
    cases presentC : c.isPresent <;>
    simp only [presentA, presentB, presentC, if_true, reduceCtorEq, if_false] at *
  · exact Text.ble_trans first second
  · exact Text.ble_trans first second

theorem pairwise_resolve {isFile : Path → Except DiskError Bool}
    {candidates : List SceneCandidate}
    (answered : search.resolve isFile input file = .ok candidates) :
    candidates.Pairwise fun a b => precedes a b = true := by
  obtain ⟨isThere, -, rfl⟩ := exists_of_resolve answered
  exact List.pairwise_mergeSort precedes_trans precedes_total _

theorem precedes_iff {a b : SceneCandidate} :
    precedes a b = true ↔ (b.isPresent = true → a.isPresent = true) ∧
      (a.isPresent = b.isPresent → Text.ble a.relativePath b.relativePath = true) := by
  unfold precedes
  cases a.isPresent <;> cases b.isPresent <;> simp

/-! ## Answers of a disk -/

theorem exists_resolve_askFile_iff {disk : Disk} :
    (∃ candidates, search.resolve disk.askFile input file = .ok candidates) ↔
      ∀ path ∈ search.sought input file, ¬ disk.Overlong path := by
  simp [exists_resolve_iff, Disk.askFile_eq_ok_iff]

theorem of_resolve_askFile_eq_error {disk : Disk} {e : DiskError}
    (failed : search.resolve disk.askFile input file = .error e) :
    ∃ path ∈ search.sought input file, disk.Overlong path ∧ e = ⟨.nameTooLong, path⟩ := by
  obtain ⟨path, member, unanswered⟩ := exists_of_resolve_eq_error failed
  exact ⟨path, member, Disk.askFile_eq_error_iff.mp unanswered⟩

end SceneScript.SceneSearch
