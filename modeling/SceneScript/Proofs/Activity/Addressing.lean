import SceneScript.Proofs.Activity.Uninterrupted
import SceneScript.Proofs.Index.Share
import SceneScript.Proofs.Path.Spelling

/-! # Which file an operation acts on

A scan of a file reads the spelling of its path and indexes the file under the path's own text. A
text that is put in and a removal take the spelling as it is. So they act on one file only where the
path is spelled as it is written.

* `Project.Revises` — one file gets a text, or none, and nothing else changes;
* `Activity.Run.gathered` — the index of a running project is always one of mentions;
* `Activity.addressed_alike_iff` — what each operation acts on, and when they agree.
-/

namespace SceneScript

/-! ## Operations on one file -/

/-- Later the file has this text, or is gone, and every other file has what it had before. -/
def Project.Revises (project : Project) (file : Text) (text : Option Text) (later : Project) :
    Prop :=
  ∀ other, later.index.snapshot.share other =
    if other = file then .ofText project.vocabulary file text
    else project.index.snapshot.share other

/-- The text of the file that was found, if it is one. -/
def Node.readable? : Option Node → Option Text
  | some (.file content) => some content.readable
  | _ => none

namespace Project

variable {project : Project}

theorem revises_update (gathered : project.index.snapshot.Gathered) (file : Text)
    (text : Option Text) : project.Revises file text (project.update file text).2 :=
  fun other => IndexSnapshot.share_edit gathered file other text

theorem scanFile_eq {disk : Disk} {path : Path} {node? : Option Node}
    (answer : disk.ask path = .ok node?) :
    project.scanFile disk path = .done (project.update path.toText (Node.readable? node?)) := by
  unfold scanFile
  rw [answer]
  cases node? with
  | none => rfl
  | some node => cases node <;> rfl

theorem gathered_update (gathered : project.index.snapshot.Gathered) (file : Text)
    (text : Option Text) : (project.update file text).2.index.snapshot.Gathered :=
  gathered.edit file text

end Project

namespace Activity

/-! ## Every index that a project comes to -/

variable {s t : Activity} {events : List Event}

theorem gathered_start (project : Project) (disk : Disk) :
    (start project disk).project.index.snapshot.Gathered :=
  ⟨[], Records.gathers_nil⟩

theorem gathered_endFullScan (gathered : s.project.index.snapshot.Gathered) (number : Nat)
    (texts : FileTexts) :
    (s.endFullScan number texts).2.2.project.index.snapshot.Gathered := by
  by_cases latest : number = s.project.index.generation
  · rw [index_endFullScan_of_latest texts latest]
    exact (IndexSnapshot.gathered_ofTexts _ texts).replay _
  · rw [index_endFullScan_of_superseded texts latest]
    exact gathered

theorem Step.gathered (step : Step s events t) (gathered : s.project.index.snapshot.Gathered) :
    t.project.index.snapshot.Gathered := by
  cases step with
  | update file text => exact Project.gathered_update gathered file text
  | endFileScan waits => exact Project.gathered_update gathered _ _
  | clear => exact ⟨[], Records.gathers_nil⟩
  | publishFullScan waits publishes => exact gathered_endFullScan gathered _ _
  | discardFullScan waits superseded => exact gathered_endFullScan gathered _ _
  | changeDisk | beginFullScan | listScenes | readScene | abandonFullScan | beginFileScan
  | lookForFile | readFile | abandonFileScan => exact gathered

theorem Run.gathered (run : Run s events t) (gathered : s.project.index.snapshot.Gathered) :
    t.project.index.snapshot.Gathered := by
  induction run with
  | stay => exact gathered
  | step _ step ih => exact step.gathered ih

end Activity

/-! ## Spellings -/

/-- A spelling is the text of its path if it is the text of any path at all. -/
theorem Path.toText_ofText_eq_iff {spelling : Text} :
    (ofText spelling).toText = spelling ↔
      ∃ path : Path, (∀ name ∈ path.names, Plain name) ∧ path.toText = spelling := by
  constructor
  · intro same
    exact ⟨ofText spelling, fun name member => plain_of_mem_namesOf member, same⟩
  · rintro ⟨path, plain, rfl⟩
    rw [ofText_toText plain]

theorem IndexShare.ofText_none_ne_some (vocabulary : Vocabulary) (file text : Text) :
    ofText vocabulary file (some text) ≠ ofText vocabulary file none := by
  intro same
  have indexed : true = false := congrArg IndexShare.indexed same
  cases indexed

namespace Activity

variable {project : Project} {disk : Disk} {events : List Event} {s : Activity}

/-- What a scan of a file, a removal and a text that is put in act on, given the same spelling. They
agree only on a spelling that is the text of a path: with any other one, a file that has been
scanned stays after its removal, and keeps its old text beside a new one. -/
theorem addressed_alike_iff (run : Run (start project disk) events s) (spelling text : Text) :
    let key := (Path.ofText spelling).toText
    let scanned := (s.project.scanFile s.disk (.ofText spelling)).project
    (∀ node?, s.disk.ask (.ofText spelling) = .ok node? →
      s.project.Revises key (Node.readable? node?) scanned) ∧
    s.project.Revises spelling none (s.project.removeFile spelling).2 ∧
    s.project.Revises spelling (some text) (s.project.scanText spelling text).2 ∧
    (key = spelling ↔
      ∃ path : Path, (∀ name ∈ path.names, Path.Plain name) ∧ path.toText = spelling) ∧
    ∀ content, s.disk.ask (.ofText spelling) = .ok (some (.file content)) →
      ((scanned.removeFile spelling).2.index.snapshot.share key =
          .ofText s.project.vocabulary key none ↔ key = spelling) ∧
      ((scanned.scanText spelling text).2.index.snapshot.share key =
          .ofText s.project.vocabulary key (some text) ↔
        key = spelling ∨ IndexShare.ofText s.project.vocabulary key (some content.readable) =
          .ofText s.project.vocabulary key (some text)) := by
  intro key scanned
  have gathered := run.gathered (gathered_start project disk)
  have scans (node? : Option Node) (answer : s.disk.ask (.ofText spelling) = .ok node?) :
      s.project.Revises key (Node.readable? node?) scanned ∧
        scanned.index.snapshot.Gathered ∧ scanned.vocabulary = s.project.vocabulary := by
    have updated : scanned = (s.project.update key (Node.readable? node?)).2 :=
      congrArg ProjectOutcome.project (Project.scanFile_eq answer)
    rw [updated]
    exact ⟨Project.revises_update gathered key _, Project.gathered_update gathered key _, rfl⟩
  refine ⟨fun node? answer => (scans node? answer).1, Project.revises_update gathered spelling none,
    Project.revises_update gathered spelling (some text), Path.toText_ofText_eq_iff, ?_⟩
  intro content there
  obtain ⟨revises, gatheredToo, vocabulary⟩ := scans _ there
  have own : scanned.index.snapshot.share key =
      .ofText s.project.vocabulary key (some content.readable) := by
    rw [revises key, if_pos rfl]
    rfl
  have removed := Project.revises_update gatheredToo spelling none key
  have replaced := Project.revises_update gatheredToo spelling (some text) key
  rw [vocabulary, own] at removed replaced
  constructor
  · rw [Project.removeFile, removed]
    split
    next same => simp [same]
    next different =>
      simp only [different, iff_false]
      exact IndexShare.ofText_none_ne_some _ _ _
  · rw [Project.scanText, replaced]
    split
    next same => simp [same]
    next different => simp [different]

/-- A file that was scanned by another spelling of its path is still indexed after its removal. -/
theorem addressed_alike_iff_doubled_slash :
    let s := start Sample.project (Sample.disk Sample.oldText)
    let scanned := (s.project.scanFile s.disk (.ofText "game//scene/./a.txt")).project
    Run s [] s ∧
      (scanned.removeFile "game//scene/./a.txt").2.index.snapshot.share "game/scene/a.txt" ≠
        .ofText s.project.vocabulary "game/scene/a.txt" none := by
  intro s scanned
  have untouched : Run s [] s := .stay
  have there : s.disk.ask (.ofText "game//scene/./a.txt") =
      .ok (some (.file (.text Sample.oldText))) := Sample.ask_oldText
  obtain ⟨-, -, -, -, agree⟩ :=
    addressed_alike_iff untouched "game//scene/./a.txt" Sample.newText
  refine ⟨untouched, fun gone => ?_⟩
  have same := (agree _ there).1.mp gone
  revert same
  decide

/-- It is not the case that a removal always takes out what a scan of the same spelling put in. -/
theorem not_forall_addressed_alike :
    ¬ ∀ (project : Project) (disk : Disk) (events : List Event) (s : Activity),
        Run (start project disk) events s →
        ∀ (spelling : Text) (content : FileContent),
          s.disk.ask (.ofText spelling) = .ok (some (.file content)) →
          let scanned := (s.project.scanFile s.disk (.ofText spelling)).project
          let key := (Path.ofText spelling).toText
          (scanned.removeFile spelling).2.index.snapshot.share key =
            .ofText project.vocabulary key none := by
  intro gone
  have removed := gone Sample.project (Sample.disk Sample.oldText) [] _ .stay
    "game//scene/./a.txt" (.text Sample.oldText) Sample.ask_oldText
  have unindexed := congrArg IndexShare.indexed removed
  revert unindexed
  decide +kernel

end Activity

end SceneScript
