import SceneScript.Proofs.Scene.Candidates

/-! # Candidates stay under the scene root

Whatever a reference says and whichever file holds it, the candidates are scene files under the
scene root, each of them once. A search fails only with a question that has no answer; on a disk
this is a path that is too long.

* `SceneSearch.Sound` — what is true of a candidate;
* `SceneSearch.SoundAnswer` — what is true of all of them;
* `SceneSearch.resolve_sound` — every answer is sound, and when there is one;
* `SceneSearch.not_forall_exists_resolve` — a search that fails.
-/

namespace SceneScript.SceneSearch

/-- A candidate lies under the scene root, is spelled in one way only, and is told of as it is. -/
structure Sound (search : SceneSearch) (isFile : Path → Except DiskError Bool)
    (candidate : SceneCandidate) : Prop where
  normalized : Path.normalize candidate.fullPath.toText = candidate.fullPath.toText
  ends : Text.endsWith AssetType.sceneExtension candidate.fullPath.toText = true
  sameKind : candidate.fullPath.isAbsolute = search.root.isAbsolute
  inside : ∃ below, below ≠ [] ∧ candidate.fullPath.names = search.root.names ++ below
  downwards : Path.parentName ∉ Path.namesOf candidate.relativePath
  isPresent : isFile candidate.fullPath = .ok candidate.isPresent

/-- Candidates differ in their paths, and those that exist come first. -/
structure SoundAnswer (search : SceneSearch) (isFile : Path → Except DiskError Bool)
    (candidates : List SceneCandidate) : Prop where
  each : ∀ candidate ∈ candidates, search.Sound isFile candidate
  fullPaths : (candidates.map (·.fullPath)).Nodup
  relativePaths : (candidates.map (·.relativePath)).Nodup
  order : candidates.Pairwise fun a b =>
    (b.isPresent = true → a.isPresent = true) ∧
      (a.isPresent = b.isPresent → Text.ble a.relativePath b.relativePath = true)

section CandidatePaths

variable {search : SceneSearch} (readable : search.Readable) {reference : Text}
  (nonempty : reference ≠ []) {file : Option Path}

include readable nonempty

theorem plain_of_mem_candidatePaths {path : Path}
    (member : path ∈ search.candidatePaths reference file) :
    ∀ name ∈ path.names, Path.Plain name := by
  obtain ⟨⟨directory, -, ending, -, rfl⟩, -, -⟩ :=
    (search.mem_candidatePaths file nonempty).mp member
  exact readable.located (fun name named => Path.plain_of_mem_namesOf named) ending

/-- All candidates of one reference start at the same place. -/
theorem anchor_of_mem_candidatePaths (plain : ∀ f ∈ file, ∀ name ∈ f.names, Path.Plain name)
    {path : Path} (member : path ∈ search.candidatePaths reference file) :
    path.anchor = if Text.startsWith ['/'] reference = true then Path.anchorOf reference
      else search.root.anchor := by
  obtain ⟨⟨directory, searched, ending, inside, rfl⟩, -, -⟩ :=
    (search.mem_candidatePaths file nonempty).mp member
  have relative := search.isAbsolute_of_mem_directorySpellings
    (fun f inFile => readable.referringDirectory (plain f inFile)) searched
  have kind : (Path.ofText ending).isAbsolute = Text.startsWith ['/'] reference :=
    Path.isAbsolute_ofText.trans (startsWith_slash_of_mem nonempty inside)
  cases start : Text.startsWith ['/'] reference with
  | true =>
    rw [located, Path.join_of_isAbsolute (kind.trans start)]
    exact anchorOf_of_mem nonempty inside
  | false =>
    rw [located, Path.join_of_relative (kind.trans start), Path.join_of_relative relative]
    rfl

omit readable in
/-- The names that lead from the root down to a candidate. -/
theorem exists_below {path : Path} (member : path ∈ search.candidatePaths reference file) :
    path.isAbsolute = search.root.isAbsolute ∧
    ∃ below, below ≠ [] ∧ path.names = search.root.names ++ below ∧ Path.parentName ∉ below ∧
      Path.relativeTo search.workingDirectory search.root path = ⟨.relative, below⟩ := by
  obtain ⟨⟨directory, -, ending, -, rfl⟩, ends, within⟩ :=
    (search.mem_candidatePaths file nonempty).mp member
  exact search.below_of_isWithinRoot (Path.collapse_collapse _) ends within

/-- What leads down to a candidate can be read from its relative path. -/
theorem namesOf_relativePath {path : Path} (member : path ∈ search.candidatePaths reference file)
    (isPresent : Bool) :
    path.names = search.root.names ++ Path.namesOf (search.candidate path isPresent).relativePath ∧
    Path.parentName ∉ Path.namesOf (search.candidate path isPresent).relativePath := by
  obtain ⟨-, below, -, names, absent, way⟩ := exists_below nonempty member
  have plainBelow : ∀ name ∈ below, Path.Plain name := fun name inBelow =>
    plain_of_mem_candidatePaths readable nonempty member name
      (names ▸ List.mem_append_right _ inBelow)
  have read : Path.namesOf (search.candidate path isPresent).relativePath = below := by
    rw [candidate, way]
    exact Path.namesOf_toText plainBelow
  rw [read]
  exact ⟨names, absent⟩

theorem sound_candidate {path : Path} (member : path ∈ search.candidatePaths reference file)
    {isFile : Path → Except DiskError Bool} {isThere : Bool} (answer : isFile path = .ok isThere) :
    search.Sound isFile (search.candidate path isThere) := by
  have readableNames := plain_of_mem_candidatePaths readable nonempty member
  obtain ⟨⟨directory, -, ending, -, located⟩, ends, -⟩ :=
    (search.mem_candidatePaths file nonempty).mp member
  obtain ⟨sameKind, below, proper, names, -⟩ := exists_below nonempty member
  have collapsed : path.collapse = path := located ▸ Path.collapse_collapse _
  constructor
  · show Path.normalize path.toText = path.toText
    rw [Path.normalize, Path.ofText_toText readableNames, collapsed]
  · exact ends
  · exact sameKind
  · exact ⟨below, proper, names⟩
  · exact (namesOf_relativePath readable nonempty member _).2
  · exact answer

/-- A candidate is told from the others by its relative path. -/
theorem eq_of_relativePath_eq (plain : ∀ f ∈ file, ∀ name ∈ f.names, Path.Plain name)
    {path other : Path} {isPresent isPresentToo : Bool}
    (member : path ∈ search.candidatePaths reference file)
    (memberToo : other ∈ search.candidatePaths reference file)
    (same : (search.candidate path isPresent).relativePath =
      (search.candidate other isPresentToo).relativePath) : path = other := by
  have names := (namesOf_relativePath readable nonempty member isPresent).1
  have namesToo := (namesOf_relativePath readable nonempty memberToo isPresentToo).1
  have anchor := anchor_of_mem_candidatePaths readable nonempty plain member
  have anchorToo := anchor_of_mem_candidatePaths readable nonempty plain memberToo
  have sameNames : path.names = other.names := by rw [names, namesToo, same]
  have sameAnchor : path.anchor = other.anchor := anchor.trans anchorToo.symm
  obtain ⟨_, _⟩ := path
  obtain ⟨_, _⟩ := other
  exact Path.mk.injEq .. ▸ ⟨sameAnchor, sameNames⟩

end CandidatePaths

/-- A search in directories that are spelled as texts. -/
def spelled (gameDirectory workingDirectory : Text) : SceneSearch :=
  ⟨⟨.ofText gameDirectory⟩, Path.namesOf workingDirectory⟩

theorem readable_spelled (gameDirectory workingDirectory : Text) :
    (spelled gameDirectory workingDirectory).Readable where
  game _ := Path.plain_of_mem_namesOf
  working _ := Path.plain_of_mem_namesOf

/-- Every answer is sound, and tells of exactly the paths that were asked about. There is one if
each of these questions has an answer; on a disk, unless one of the paths is too long. -/
theorem resolve_sound (gameDirectory workingDirectory input : Text) (file : Option Text) :
    let search := spelled gameDirectory workingDirectory
    let file := file.map Path.ofText
    (∀ isFile candidates, search.resolve isFile input file = .ok candidates →
      SoundAnswer search isFile candidates ∧
        ∀ path, path ∈ candidates.map (·.fullPath) ↔ path ∈ search.sought input file) ∧
    (∀ isFile, (∃ candidates, search.resolve isFile input file = .ok candidates) ↔
      ∀ path ∈ search.sought input file, ∃ isThere, isFile path = .ok isThere) ∧
    ∀ disk : Disk,
      ((∃ candidates, search.resolve disk.askFile input file = .ok candidates) ↔
        ∀ path ∈ search.sought input file, ¬ disk.Overlong path) ∧
      ∀ e, search.resolve disk.askFile input file = .error e →
        ∃ path ∈ search.sought input file, disk.Overlong path ∧ e = ⟨.nameTooLong, path⟩ := by
  have readable := readable_spelled gameDirectory workingDirectory
  generalize spelled gameDirectory workingDirectory = search at readable
  have plain : ∀ f ∈ file.map Path.ofText, ∀ name ∈ f.names, Path.Plain name := by
    intro f inFile name named
    obtain ⟨t, -, rfl⟩ := Option.map_eq_some_iff.mp inFile
    exact Path.plain_of_mem_namesOf named
  intro search file
  refine ⟨fun isFile candidates answered => ⟨⟨?_, ?_, ?_, ?_⟩, fun path => ?_⟩,
    fun isFile => exists_resolve_iff,
    fun disk => ⟨exists_resolve_askFile_iff, fun e => of_resolve_askFile_eq_error⟩⟩
  · intro candidate member
    obtain ⟨path, inside, isThere, answer, rfl⟩ := (mem_resolve answered).mp member
    obtain ⟨nonempty, inside⟩ := mem_sought.mp inside
    exact sound_candidate readable nonempty inside answer
  · exact nodup_map_resolve answered fun _ _ _ _ _ _ same => same
  · refine nodup_map_resolve answered fun path member other memberToo _ _ same => ?_
    obtain ⟨nonempty, inside⟩ := mem_sought.mp member
    exact eq_of_relativePath_eq readable nonempty plain inside (mem_sought.mp memberToo).2 same
  · exact (pairwise_resolve answered).imp precedes_iff.mp
  · exact mem_fullPaths_resolve answered

/-- Not every search has an answer: a name of 252 letters is one that a directory can hold, but with
the extension it is not. -/
theorem not_forall_exists_resolve :
    ¬ ∀ (gameDirectory workingDirectory input : Text) (file : Option Text) (disk : Disk),
        ∃ candidates, (spelled gameDirectory workingDirectory).resolve disk.askFile input
          (file.map .ofText) = .ok candidates := by
  intro answers
  let disk : Disk := { nodes := ⟨[(["game"], .directory), (["game", "scene"], .directory)]⟩ }
  let name : Text := List.replicate 252 'n'
  let path : Path := ⟨.relative, ["game", "scene", name ++ ".txt"]⟩
  have sought : path ∈ (spelled "game" "").sought name none := by decide +kernel
  have long : disk.Overlong path :=
    ⟨by decide +kernel, .inr ⟨["game", "scene"], name ++ ".txt", [], ["game", "scene"], rfl, rfl,
      by decide +kernel, by decide +kernel⟩⟩
  exact exists_resolve_askFile_iff.mp (answers "game" "" name none disk) path sought long

end SceneScript.SceneSearch
