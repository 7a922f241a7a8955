import SceneScript.Proofs.Activity.Addressing
import SceneScript.Proofs.Activity.Replay

/-! # Scans of one file that overlap

A scan of a file looks, reads and publishes at different times, and a second one may begin while the
first is under way. The one that ends last decides what is indexed, and it knows of no change that
was made after it had read the file. So a scan that began early can undo a later one.

* `Sometime` — something held at a moment of a run;
* `FileScan.Informed` — what a scan has learnt still holds;
* `Activity.ScanMove` — how a scan of a file came to be where it is after a step;
* `Activity.Enrolled` — what the events tell about the scans in flight;
* `Activity.share_of_overlapping_scans` — what is indexed of a file in the end;
* `Activity.not_forall_share_of_later_scan` — a scan that undoes a later one.
-/

namespace SceneScript

/-! ## Moments of a run -/

/-- It was so at some moment of a run, after some of its events. -/
def Sometime {State Event : Type} (Run : State → List Event → State → Prop) (s : State)
    (events : List Event) (t : State) (holds : List Event → State → Prop) : Prop :=
  ∃ earlier u later, Run s earlier u ∧ Run u later t ∧ events = earlier ++ later ∧ holds earlier u

namespace Sometime

variable {State Event : Type} {Run : State → List Event → State → Prop} {s t u : State}
  {events more : List Event} {holds : List Event → State → Prop}

theorem now (run : Run s events t) (stay : Run t [] t) (here : holds events t) :
    Sometime Run s events t holds :=
  ⟨events, t, [], run, stay, (List.append_nil _).symm, here⟩

theorem append (past : Sometime Run s events t holds)
    (join : ∀ {s t u events more}, Run s events t → Run t more u → Run s (events ++ more) u)
    (run : Run t more u) : Sometime Run s (events ++ more) u holds := by
  obtain ⟨earlier, v, later, before, after, rfl, there⟩ := past
  exact ⟨earlier, v, later ++ more, before, join after run, List.append_assoc .., there⟩

end Sometime

/-! ## What a scan has learnt -/

/-- What the scan knows of the file is so on this disk. -/
def FileScan.Informed (disk : Disk) (scan : FileScan) : Prop :=
  match scan.stage with
  | .look => True
  | .read => ∃ content, disk.ask scan.path = .ok (some (.file content))
  | .update text => ∃ node?, disk.ask scan.path = .ok node? ∧ text = Node.readable? node?

/-- What a look or a read at the file can yield on this disk. -/
def Disk.Yields (disk : Disk) (path : Path) : Option Text → Prop
  | none => FileScanStage.afterLook? (disk.ask path) = some (.update none)
  | some text => text = disk.readText path

theorem FileScanStage.afterLook?_eq_some {answer : Except DiskError (Option Node)}
    {stage : FileScanStage} (known : afterLook? answer = some stage) :
    (∃ content, answer = .ok (some (.file content)) ∧ stage = .read) ∨
      ∃ node?, answer = .ok node? ∧ Node.readable? node? = none ∧ stage = .update none := by
  cases answer with
  | error => cases known
  | ok node? =>
    cases node? with
    | none => exact .inr ⟨none, rfl, rfl, (Option.some.inj known).symm⟩
    | some node =>
      cases node with
      | file content => exact .inl ⟨content, rfl, (Option.some.inj known).symm⟩
      | directory => exact .inr ⟨some .directory, rfl, rfl, (Option.some.inj known).symm⟩

namespace FileScan

variable {disk : Disk} {path : Path}

theorem informed_of_look {stage : FileScanStage}
    (answer : FileScanStage.afterLook? (disk.ask path) = some stage) :
    Informed disk { path, stage } := by
  rcases FileScanStage.afterLook?_eq_some answer with
    ⟨content, found, rfl⟩ | ⟨node?, found, nothing, rfl⟩
  · exact ⟨content, found⟩
  · exact ⟨node?, found, nothing.symm⟩

theorem Informed.read (informed : Informed disk { path, stage := .read }) :
    Informed disk { path, stage := .update (some (disk.readText path)) } := by
  obtain ⟨content, found⟩ := informed
  exact ⟨_, found, congrArg some (Activity.readText_of_ask found)⟩

end FileScan

namespace Activity

variable {s t u : Activity} {events more : List Event} {number : Nat} {scan : FileScan}

/-! ## What a step does to the scans of files -/

/-- How a scan came to be where it is: it was there before the step, or the step took it there. -/
inductive ScanMove (s : Activity) (events : List Event) (number : Nat) : FileScan → Prop
  | kept {scan : FileScan} (there : s.fileScans.get? number = some scan) :
      ScanMove s events number scan
  | begun {path : Path} (next : number = s.fileScansBegun)
      (told : .fileScanBegun number path ∈ events) : ScanMove s events number { path }
  | looked {path : Path} {stage : FileScanStage} (there : s.fileScans.get? number = some { path })
      (answer : FileScanStage.afterLook? (s.disk.ask path) = some stage) :
      ScanMove s events number { path, stage }
  | read {path : Path} (there : s.fileScans.get? number = some { path, stage := .read }) :
      ScanMove s events number { path, stage := .update (some (s.disk.readText path)) }

theorem Step.scanMove (step : Step s events t) (inFlight : t.fileScans.get? number = some scan) :
    ScanMove s events number scan := by
  cases step with
  | beginFileScan path =>
    rcases OrderedMap.eq_or_get?_of_insert inFlight with ⟨rfl, rfl⟩ | there
    · exact .begun rfl List.mem_cons_self
    · exact .kept there
  | lookForFile waits answer =>
    rcases OrderedMap.eq_or_get?_of_insert inFlight with ⟨rfl, rfl⟩ | there
    · exact .looked waits answer
    · exact .kept there
  | readFile waits =>
    rcases OrderedMap.eq_or_get?_of_insert inFlight with ⟨rfl, rfl⟩ | there
    · exact .read waits
    · exact .kept there
  | endFileScan | abandonFileScan => exact .kept (OrderedMap.get?_of_erase inFlight)
  | changeDisk | update | clear | beginFullScan | listScenes | readScene | publishFullScan
  | discardFullScan | abandonFullScan => exact .kept inFlight

theorem Step.of_fileScanBegun {path : Path} (step : Step s events t)
    (begins : .fileScanBegun number path ∈ events) :
    number = s.fileScansBegun ∧ t = s.beginFileScan path ∧
      events = [.fileScanBegun number path] := by
  cases step with
  | beginFileScan other =>
    cases List.mem_singleton.mp begins
    exact ⟨rfl, rfl, rfl⟩
  | _ => simp at begins

theorem Step.fileScansBegun_le (step : Step s events t) : s.fileScansBegun ≤ t.fileScansBegun := by
  cases step with
  | beginFileScan => exact Nat.le_succ _
  | _ => exact Nat.le_refl _

theorem Run.fileScansBegun_le (run : Run s events t) : s.fileScansBegun ≤ t.fileScansBegun := by
  induction run with
  | stay => exact Nat.le_refl _
  | step _ step ih => exact Nat.le_trans ih step.fileScansBegun_le

/-- Scans of files are numbered in the order in which they begin. -/
theorem Run.le_of_fileScanBegun {path : Path} (run : Run s events t)
    (begins : .fileScanBegun number path ∈ events) : s.fileScansBegun ≤ number := by
  induction run with
  | stay => cases begins
  | step run step ih =>
    rcases List.mem_append.mp begins with before | now
    · exact ih before
    · rw [(step.of_fileScanBegun now).1]
      exact run.fileScansBegun_le

/-! ## Numbers of scans -/

/-- The scans in flight have begun, each with its own number. -/
structure Enrolled (s : Activity) (events : List Event) : Prop where
  numbered : ∀ number path, .fileScanBegun number path ∈ events → number < s.fileScansBegun
  begun : ∀ number scan, s.fileScans.get? number = some scan →
    .fileScanBegun number scan.path ∈ events
  single : ∀ number path other, .fileScanBegun number path ∈ events →
    .fileScanBegun number other ∈ events → path = other

theorem enrolled_start (project : Project) (disk : Disk) : (start project disk).Enrolled [] where
  numbered := by simp
  begun := by simp [start]
  single := by simp

theorem Step.enrolled (step : Step s more t) (enrolled : s.Enrolled events) :
    t.Enrolled (events ++ more) where
  numbered number path begins := by
    rcases List.mem_append.mp begins with before | now
    · exact Nat.lt_of_lt_of_le (enrolled.numbered number path before) step.fileScansBegun_le
    · obtain ⟨rfl, rfl, -⟩ := step.of_fileScanBegun now
      exact Nat.lt_succ_self _
  begun number scan inFlight := by
    cases step.scanMove inFlight with
    | begun _ told => exact List.mem_append_right _ told
    | kept there | looked there | read there =>
      have before := enrolled.begun number _ there
      exact List.mem_append_left _ before
  single number path other first second := by
    -- what begins now has a number that none before had
    rcases List.mem_append.mp first with before | now <;>
      rcases List.mem_append.mp second with beforeToo | nowToo
    · exact enrolled.single number path other before beforeToo
    · have := enrolled.numbered number path before
      have := (step.of_fileScanBegun nowToo).1
      omega
    · have := enrolled.numbered number other beforeToo
      have := (step.of_fileScanBegun now).1
      omega
    · obtain ⟨-, -, rfl⟩ := step.of_fileScanBegun now
      cases List.mem_singleton.mp nowToo
      rfl

theorem Run.enrolled {project : Project} {disk : Disk} (run : Run (start project disk) events t) :
    t.Enrolled events := by
  induction run with
  | stay => exact enrolled_start project disk
  | step _ step ih => exact step.enrolled ih

/-! ## A disk that stays the same -/

/-- What the scans with these numbers know is so on the disk. -/
def InformedSince (s : Activity) (since : Nat) : Prop :=
  ∀ number scan, since ≤ number → s.fileScans.get? number = some scan → scan.Informed s.disk

theorem Step.informedSince {since : Nat} (step : Step s events t)
    (unchanged : .diskChanged ∉ events) (informed : s.InformedSince since) :
    t.InformedSince since := by
  intro number scan later inFlight
  rw [step.disk_eq unchanged]
  cases step.scanMove inFlight with
  | kept there => exact informed number _ later there
  | begun => trivial
  | looked _ answer => exact FileScan.informed_of_look answer
  | read there => exact (informed number _ later there).read

/-- A scan that begins while the disk stays the same knows nothing else. -/
theorem Run.informedSince (run : Run s events t) (tallied : s.Tallied)
    (unchanged : .diskChanged ∉ events) : t.InformedSince s.fileScansBegun := by
  induction run with
  | stay =>
    intro number scan later inFlight
    exact absurd (tallied.numbered number (mem_keys_fileScans inFlight)) (Nat.not_lt.mpr later)
  | step _ step ih =>
    obtain ⟨before, after⟩ := not_or.mp (mt List.mem_append.mpr unchanged)
    exact step.informedSince after (ih before)

/-! ## What a scan has found -/

/-- A scan that is about to publish has the text that the file had at a moment since it began. -/
theorem Run.sometime_yields {project : Project} {disk : Disk} {path : Path} {text : Option Text}
    (run : Run (start project disk) events t)
    (waits : t.fileScans.get? number = some { path, stage := .update text }) :
    Sometime Run (start project disk) events t fun earlier u =>
      .fileScanBegun number path ∈ earlier ∧ u.disk.Yields path text := by
  induction run generalizing text with
  | stay => simp [start] at waits
  | step run step ih =>
    have enrolled := run.enrolled
    generalize found : ({ path, stage := .update text } : FileScan) = scan at waits
    cases step.scanMove waits with
    | kept there => exact (ih (found ▸ there)).append Run.append (.single step)
    | begun => cases found
    | looked there answer =>
      cases found
      have begun := enrolled.begun _ _ there
      have nothing : text = none := by
        rcases FileScanStage.afterLook?_eq_some answer with ⟨_, _, stage⟩ | ⟨_, _, _, stage⟩
        · cases stage
        · cases stage
          rfl
      subst nothing
      exact (Sometime.now run .stay ⟨begun, answer⟩).append Run.append (.single step)
    | read there =>
      cases found
      have begun := enrolled.begun _ _ there
      exact (Sometime.now run .stay ⟨begun, rfl⟩).append Run.append (.single step)

theorem Run.exists_step_of_mem {event : Event} (run : Run s events t) (member : event ∈ events) :
    ∃ front more rest u v, Run s front u ∧ Step u more v ∧ Run v rest t ∧
      events = front ++ more ++ rest ∧ event ∈ more := by
  induction run with
  | stay => cases member
  | @step earlier latest u v run step ih =>
    rcases List.mem_append.mp member with before | now
    · obtain ⟨front, more, rest, a, b, first, here, after, rfl, inside⟩ := ih before
      exact ⟨front, more, rest ++ latest, a, b, first, here, after.step step, by simp, inside⟩
    · exact ⟨earlier, latest, [], u, v, run, step, .stay, by simp, now⟩

/-! ## The text that a file was given last -/

theorem lastUpdate?_append (file : Text) (events more : List Event) :
    lastUpdate? file (events ++ more) = (lastUpdate? file more).or (lastUpdate? file events) := by
  rw [lastUpdate?, List.filterMap_append, List.getLast?_append]
  rfl

theorem lastUpdate?_announced (file : Text) (announcements : List Announcement) :
    lastUpdate? file (announcements.map .announced) = none := by
  simp [lastUpdate?, Event.updateOf?, List.filterMap_map, Function.comp_def]

theorem lastUpdate?_ne_none {file : Text} {text : Option Text}
    (updated : .fileUpdated file text ∈ events) : lastUpdate? file events ≠ none := by
  rw [lastUpdate?, ne_eq, List.getLast?_eq_none_iff]
  intro nothing
  have update : text ∈ events.filterMap (Event.updateOf? file) :=
    List.mem_filterMap.mpr ⟨_, updated, by simp [Event.updateOf?]⟩
  rw [nothing] at update
  cases update

theorem lastUpdate?_of_split {file : Text} {text : Option Text} {front rest : List Event}
    (silent : lastUpdate? file rest = none) :
    lastUpdate? file (front ++ .fileScanEnded number :: .fileUpdated file text :: rest) =
      some text := by
  rw [lastUpdate?_append, lastUpdate?_cons, lastUpdate?_cons, silent]
  simp [Event.updateOf?]

/-- What is indexed of the file is left to scans of it: no caller gives its text, and no full scan
publishes one. -/
def Event.LeavesToScans (file : Text) : Event → Prop
  | .scanPublished .. | .cleared => False
  | .fileGiven other => other ≠ file
  | _ => True

/-- The scan with this number ends a stretch of events in which nothing more happens to the file. -/
def EndsLast (file : Text) (number : Nat) (text : Option Text) (events : List Event) : Prop :=
  ∃ front rest, events = front ++ .fileScanEnded number :: .fileUpdated file text :: rest ∧
    lastUpdate? file rest = none

theorem EndsLast.append {file : Text} {text : Option Text}
    (ends : EndsLast file number text events) (silent : lastUpdate? file more = none) :
    EndsLast file number text (events ++ more) := by
  obtain ⟨front, rest, rfl, none⟩ := ends
  refine ⟨front, rest ++ more, by simp, ?_⟩
  rw [lastUpdate?_append, silent, none]
  rfl

theorem EndsLast.after {file : Text} {text : Option Text}
    (ends : EndsLast file number text more) (events : List Event) :
    EndsLast file number text (events ++ more) := by
  obtain ⟨front, rest, rfl, none⟩ := ends
  exact ⟨events ++ front, rest, by simp, none⟩

/-- A step leaves what is indexed of the file as it is, or a scan of the file ends with it. -/
theorem Step.share_cases {file : Text} (step : Step s events t)
    (gathered : s.project.index.snapshot.Gathered)
    (quiet : ∀ event ∈ events, event.LeavesToScans file) :
    (lastUpdate? file events = none ∧
      t.project.index.snapshot.share file = s.project.index.snapshot.share file) ∨
    ∃ number path text, path.toText = file ∧
      s.fileScans.get? number = some { path, stage := .update text } ∧
      EndsLast file number text events ∧
      t.project.index.snapshot.share file = .ofText s.project.vocabulary file text := by
  cases step with
  | update other text =>
    have different : other ≠ file := quiet _ List.mem_cons_self
    refine .inl ⟨?_, ?_⟩
    · rw [lastUpdate?_cons, lastUpdate?_cons, lastUpdate?_announced]
      simp [Event.updateOf?, different]
    · exact (Project.revises_update gathered other text file).trans (if_neg (Ne.symm different))
  | @endFileScan number path text waits =>
    have revised := Project.revises_update gathered path.toText text file
    by_cases own : path.toText = file
    · subst own
      rw [if_pos rfl] at revised
      exact .inr ⟨number, path, text, rfl, waits, ⟨[], _, rfl, lastUpdate?_announced _ _⟩, revised⟩
    · rw [if_neg (Ne.symm own)] at revised
      refine .inl ⟨?_, revised⟩
      rw [lastUpdate?_cons, lastUpdate?_cons, lastUpdate?_announced]
      simp [Event.updateOf?, own]
  | discardFullScan waits superseded =>
    rw [index_endFullScan_of_superseded _ (endFullScan_fst_eq_false_iff.mp superseded)]
    refine .inl ⟨?_, rfl⟩
    rw [lastUpdate?_cons, lastUpdate?_announced]
    rfl
  | publishFullScan => exact (quiet _ List.mem_cons_self).elim
  | clear => exact (quiet _ List.mem_cons_self).elim
  | changeDisk | beginFullScan | listScenes | readScene | abandonFullScan | beginFileScan
  | lookForFile | readFile | abandonFileScan => exact .inl ⟨rfl, rfl⟩

/-- What is indexed of a file that was updated comes from the scan that ended last. -/
theorem Run.exists_endsLast {file : Text} (run : Run s events t)
    (gathered : s.project.index.snapshot.Gathered)
    (quiet : ∀ event ∈ events, event.LeavesToScans file)
    (updated : lastUpdate? file events ≠ none) :
    ∃ front number path text u more, path.toText = file ∧ Run s front u ∧
      u.fileScans.get? number = some { path, stage := .update text } ∧ Run u more t ∧
      events = front ++ more ∧ EndsLast file number text more ∧
      t.project.index.snapshot.share file = .ofText s.project.vocabulary file text := by
  induction run with
  | stay => exact absurd rfl updated
  | @step earlier latest u v run step ih =>
    obtain ⟨before, after⟩ := List.forall_mem_append.mp quiet
    rcases step.share_cases (run.gathered gathered) after with
      ⟨silent, same⟩ | ⟨number, path, text, named, waits, ends, share⟩
    · -- nothing happens to the file any more
      rw [lastUpdate?_append, silent] at updated
      obtain ⟨front, number, path, text, a, more, named, first, waits, rest, rfl, ends, share⟩ :=
        ih before updated
      exact ⟨front, number, path, text, a, more ++ latest, named, first, waits, rest.step step,
        by simp, ends.append silent, same.trans share⟩
    · rw [run.setting_eq.1] at share
      exact ⟨earlier, number, path, text, u, latest, named, run, waits, .single step, rfl, ends,
        share⟩

theorem Step.of_fileScanEnded (step : Step s events t) (ends : .fileScanEnded number ∈ events) :
    ∃ path text, s.fileScans.get? number = some { path, stage := .update text } ∧
      .fileUpdated path.toText text ∈ events := by
  cases step with
  | endFileScan waits =>
    obtain rfl : number = _ := by simpa using ends
    exact ⟨_, _, waits, by simp⟩
  | _ => simp at ends

/-! ## Two scans of the scene -/

namespace Sample

/-- One scan has read the old text of the scene, and then the scene was changed. -/
def overtaken : Activity :=
  { start project (disk newText) with
    fileScans := ⟨[(0, { path := scene, stage := .update (some oldText) })]⟩
    fileScansBegun := 1 }

/-- A second scan has read the new text, and both are about to publish. -/
def abreast : Activity :=
  { start project (disk newText) with
    fileScans := ⟨[(0, { path := scene, stage := .update (some oldText) }),
      (1, { path := scene, stage := .update (some newText) })]⟩
    fileScansBegun := 2 }

theorem ask_newText : (disk newText).ask scene = .ok (some (.file (.text newText))) := by
  rfl

theorem run_overtaken :
    Run (start project (disk oldText)) [.fileScanBegun 0 scene, .diskChanged] overtaken := by
  let s := { start project (disk oldText) with fileScansBegun := 1 }
  have looks := looks_for_file (s := s) .read (congrArg FileScanStage.afterLook? ask_oldText) 0
  have reads := reads_file s 0 scene
  rw [show s.disk = disk oldText from rfl, readText_of_ask ask_oldText] at reads
  exact (((Run.single (.beginFileScan _ scene)).step looks).step reads).step
    (.changeDisk _ (disk newText))

theorem run_abreast : Run overtaken [.fileScanBegun 1 scene] abreast := by
  let s := { overtaken with fileScansBegun := 2 }
  have looks := looks_for_file (s := s) .read (congrArg FileScanStage.afterLook? ask_newText) 1
  have reads := reads_file s 1 scene
  rw [show s.disk = disk newText from rfl, readText_of_ask ask_newText] at reads
  exact ((Run.single (.beginFileScan _ scene)).step looks).step reads

/-- What happens when a scan of the scene ends and nothing else is indexed. -/
def ended (number : Nat) (text : Text) : List Event :=
  [.fileScanEnded number, .fileUpdated scene.toText (some text),
    .announced (.index ⟨false, 1, some scene.toText⟩)]

theorem ends_scan (s : Activity) (number : Nat) (text : Text)
    (waits : s.fileScans.get? number = some { path := scene, stage := .update (some text) })
    (alone : (s.update scene.toText (some text)).2.project.index.records.size = 1) :
    Step s (ended number text) ((s.update scene.toText (some text)).2.dropFileScan number) := by
  have step := Step.endFileScan waits
  have announced : (s.update scene.toText (some text)).1 =
      [.index ⟨false, 1, some scene.toText⟩] := by
    rw [← alone]
    rfl
  rw [announced] at step
  exact step

end Sample

/-! ## Overlapping scans -/

/-- Once a scan of a file that began after the last change of the disk has ended, the file is
indexed with the text that the scan which ended last had found, at some moment since it began. It is
the current text of the file if that scan began after the last change as well. -/
theorem share_of_overlapping_scans {project : Project} {disk : Disk} {before after : List Event}
    {path : Path} (first : Run (start project disk) before s) (later : Run s after t)
    (unchanged : .diskChanged ∉ after)
    (quiet : ∀ event ∈ after, event.LeavesToScans path.toText)
    (spelled : ∀ number other, .fileScanBegun number other ∈ before ++ after →
      other.toText = path.toText → other = path)
    (begun : .fileScanBegun number path ∈ after) (ended : .fileScanEnded number ∈ after) :
    ∃ node? last text, t.disk.ask path = .ok node? ∧
      EndsLast path.toText last text (before ++ after) ∧
      Sometime Run (start project disk) (before ++ after) t (fun earlier u =>
        .fileScanBegun last path ∈ earlier ∧ u.disk.Yields path text) ∧
      t.project.index.snapshot.share path.toText =
        .ofText project.vocabulary path.toText text ∧
      (.fileScanBegun last path ∈ after → text = Node.readable? node?) := by
  have tallied : s.Tallied := first.tallied (tallied_start project disk)
  have gathered := first.gathered (gathered_start project disk)
  have numbers := (first.append later).enrolled
  -- a scan that began after the change knows what is on the disk in the end
  have knows {front rest : List Event} {u : Activity} {number : Nat} {other : Path}
      {text : Option Text} (run : Run s front u) (split : after = front ++ rest)
      (waits : u.fileScans.get? number = some { path := other, stage := .update text })
      (told : .fileScanBegun number path ∈ after) :
      other = path ∧ ∃ node?, t.disk.ask path = .ok node? ∧ text = Node.readable? node? := by
    have still : .diskChanged ∉ front := by
      intro changed
      exact unchanged (split ▸ List.mem_append_left _ changed)
    have own : other = path := by
      have begunToo := (first.append run).enrolled.begun number _ waits
      refine numbers.single number other path ?_ (List.mem_append_right _ told)
      rw [split, ← List.append_assoc]
      exact List.mem_append_left _ begunToo
    subst own
    have informed := run.informedSince tallied still number _ (later.le_of_fileScanBegun told) waits
    rw [run.disk_eq still, ← later.disk_eq unchanged] at informed
    exact ⟨rfl, informed⟩
  obtain ⟨node?, answer, updated⟩ :
      ∃ node?, t.disk.ask path = .ok node? ∧ lastUpdate? path.toText after ≠ none := by
    obtain ⟨front, more, rest, u, v, run, step, -, split, ends⟩ := later.exists_step_of_mem ended
    obtain ⟨other, text, waits, updates⟩ := step.of_fileScanEnded ends
    rw [List.append_assoc] at split
    obtain ⟨rfl, node?, answer, -⟩ := knows run split waits begun
    have update : .fileUpdated other.toText text ∈ after := by
      rw [split]
      exact List.mem_append_right _ (List.mem_append_left _ updates)
    exact ⟨node?, answer, lastUpdate?_ne_none update⟩
  obtain ⟨front, last, other, text, u, more, named, run, waits, rest, split, ends, share⟩ :=
    later.exists_endsLast gathered quiet updated
  obtain rfl : other = path := by
    refine spelled last other ?_ named
    rw [split, ← List.append_assoc]
    exact List.mem_append_left _ ((first.append run).enrolled.begun last _ waits)
  refine ⟨node?, last, text, answer, ?_, ?_, ?_, ?_⟩
  · rw [split]
    exact (ends.after front).after before
  · rw [split, ← List.append_assoc]
    exact ((first.append run).sometime_yields waits).append Run.append rest
  · rw [share, first.setting_eq.1]
    rfl
  · intro told
    obtain ⟨-, found, answerToo, same⟩ := knows run split waits told
    rw [answer] at answerToo
    cases answerToo
    exact same

/-- The earlier scan publishes first, and the later one after it. -/
theorem share_of_overlapping_scans_in_order :
    let before := [.fileScanBegun 0 Sample.scene, .diskChanged]
    let after := [.fileScanBegun 1 Sample.scene] ++ Sample.ended 0 Sample.oldText ++
      Sample.ended 1 Sample.newText
    ∃ s t, Run (start Sample.project (Sample.disk Sample.oldText)) before s ∧ Run s after t ∧
      .diskChanged ∉ after ∧ (∀ event ∈ after, event.LeavesToScans Sample.scene.toText) ∧
      (∀ number other, .fileScanBegun number other ∈ before ++ after →
        other.toText = Sample.scene.toText → other = Sample.scene) ∧
      .fileScanBegun 1 Sample.scene ∈ after ∧ .fileScanEnded 1 ∈ after ∧
      t.project.index.snapshot.share Sample.scene.toText =
        .ofText Sample.project.vocabulary Sample.scene.toText (some Sample.newText) := by
  intro before after
  have later := (Sample.run_abreast.step
    (Sample.ends_scan _ 0 Sample.oldText rfl (by decide +kernel))).step
    (Sample.ends_scan _ 1 Sample.newText rfl (by decide +kernel))
  have unchanged : .diskChanged ∉ after := by decide
  have quiet : ∀ event ∈ after, event.LeavesToScans Sample.scene.toText := by
    simp [after, Sample.ended, Event.LeavesToScans]
  have spelled : ∀ number other, .fileScanBegun number other ∈ before ++ after →
      other.toText = Sample.scene.toText → other = Sample.scene := by
    intro number other begun _
    simp only [before, after, Sample.ended] at begun
    grind
  have begun : .fileScanBegun 1 Sample.scene ∈ after := by decide
  have finished : .fileScanEnded 1 ∈ after := by decide
  obtain ⟨node?, last, text, -, ⟨front, rest, split, silent⟩, -, share, -⟩ :=
    share_of_overlapping_scans Sample.run_overtaken later unchanged quiet spelled begun finished
  have given : lastUpdate? Sample.scene.toText (before ++ after) = some text := by
    rw [split]
    exact lastUpdate?_of_split silent
  cases given
  exact ⟨_, _, Sample.run_overtaken, later, unchanged, quiet, spelled, begun, finished, share⟩

/-- The disk changes, and scans of the file begin and end. -/
def Event.IsOfScansOf (path : Path) : Event → Prop
  | .diskChanged | .fileScanEnded _ | .announced _ => True
  | .fileScanBegun _ other => other = path
  | .fileUpdated file _ => file = path.toText
  | _ => False

/-- A scan that read the file before the last change publishes after a scan that began after it, and
nothing else happens any more. -/
theorem not_forall_share_of_later_scan :
    ¬ ∀ {project : Project} {disk : Disk} {before after : List Event} {s t : Activity}
        {path : Path} {number : Nat},
      Run (start project disk) before s → Run s after t → .diskChanged ∉ after →
      (∀ event ∈ before ++ after, event.IsOfScansOf path) →
      .fileScanBegun number path ∈ after → .fileScanEnded number ∈ after →
      t.fullScans.entries = [] → t.fileScans.entries = [] →
      ∀ node?, t.disk.ask path = .ok node? →
        t.project.index.snapshot.share path.toText =
          .ofText project.vocabulary path.toText (Node.readable? node?) := by
  intro claim
  have later := (Sample.run_abreast.step
    (Sample.ends_scan _ 1 Sample.newText rfl (by decide +kernel))).step
    (Sample.ends_scan _ 0 Sample.oldText rfl (by decide +kernel))
  have begun : .fileScanBegun 1 Sample.scene ∈ [Event.fileScanBegun 1 Sample.scene] ++
      Sample.ended 1 Sample.newText ++ Sample.ended 0 Sample.oldText := by decide
  have share := claim Sample.run_overtaken later (by decide)
    (by simp [Sample.ended, Event.IsOfScansOf]) begun (by decide) rfl rfl _ Sample.ask_newText
  -- the index still defines the variable of the old text
  have count := congrArg (fun share => (share.definitions "old").length) share
  exact absurd count (by decide +kernel)

end Activity

end SceneScript
