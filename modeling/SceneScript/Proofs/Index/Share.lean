import SceneScript.Proofs.Index.Gathering

/-! # What an index holds for each file

An index is judged file by file: whether the file is indexed, and the definitions and usages that
come from it. An edit changes the share of its own file and of no other.

* `IndexSnapshot.share` — what an index holds for a file;
* `IndexShare.ofText` — what a text contributes when it is indexed alone;
* `IndexSnapshot.share_edit`, `IndexSnapshot.share_replay` — one edit, and many in a row;
* `IndexSnapshot.files_foldl_edit`, `IndexSnapshot.share_foldl_edit` — edits that change nothing.
-/

namespace SceneScript

/-- What an index holds for one file: whether it counts as indexed, and its sites by variable. -/
@[ext] structure IndexShare where
  indexed : Bool
  definitions : Text → List VariableDefinition
  usages : Text → List VariableUsage

namespace IndexSnapshot

def definitions (snapshot : IndexSnapshot) (name : Text) : List VariableDefinition :=
  ((snapshot.records.get? name).map (·.definitions)).getD []

def usages (snapshot : IndexSnapshot) (name : Text) : List VariableUsage :=
  ((snapshot.records.get? name).map (·.usages)).getD []

def share (snapshot : IndexSnapshot) (file : Text) : IndexShare where
  indexed := snapshot.files.contains file
  definitions name := (snapshot.definitions name).filter (·.file = file)
  usages name := (snapshot.usages name).filter (·.file = file)

end IndexSnapshot

/-! ## Mentions of one file -/

/-- The mentions that a file makes with its text; one that is gone makes none. -/
def mentionsOfText (vocabulary : Vocabulary) (file : Text) : Option Text → List Mention
  | none => []
  | some text => (Script.parse vocabulary text).mentions file

theorem file_of_mem_mentionsOfText {vocabulary : Vocabulary} {file : Text} {text : Option Text}
    {mention : Mention} (member : mention ∈ mentionsOfText vocabulary file text) :
    mention.file = file := by
  cases text with
  | none => cases member
  | some text => exact Script.file_of_mem_mentions member

/-- A text makes all its mentions in its own file. -/
theorem filter_mentionsOfText (vocabulary : Vocabulary) (file : Text) (text : Option Text)
    (keep : Text → Bool) :
    (mentionsOfText vocabulary file text).filter (keep ·.file) =
      if keep file then mentionsOfText vocabulary file text else [] := by
  have own : ∀ mention ∈ mentionsOfText vocabulary file text, mention.file = file :=
    fun _ => file_of_mem_mentionsOfText
  by_cases kept : keep file
  · rw [if_pos kept]
    exact List.filter_eq_self.2 fun mention member => by simp [own mention member, kept]
  · rw [if_neg kept]
    exact List.filter_eq_nil_iff.2 fun mention member => by simp [own mention member, kept]

namespace IndexShare

/-- What a file contributes with `text` when no other file is indexed. -/
def ofText (vocabulary : Vocabulary) (file : Text) (text : Option Text) : IndexShare :=
  let alone := IndexSnapshot.ofTexts vocabulary (text.map (file, ·)).toList
  ⟨text.isSome, alone.definitions, alone.usages⟩

def ofMentions (indexed : Bool) (mentions : List Mention) : IndexShare where
  indexed := indexed
  definitions name := (mentions.filter (·.name = name)).filterMap Mention.definition?
  usages name := (mentions.filter (·.name = name)).filterMap Mention.usage?

end IndexShare

namespace IndexSnapshot

variable {vocabulary : Vocabulary} {snapshot : IndexSnapshot} {mentions : List Mention}

theorem definitions_of_gathers (gathers : snapshot.records.Gathers mentions) (name : Text) :
    snapshot.definitions name =
      (mentions.filter (·.name = name)).filterMap Mention.definition? := by
  rw [definitions, gathers.get?, VariableRecord.gathered?]
  by_cases unmentioned : mentions.filter (·.name = name) = [] <;> simp [unmentioned]

theorem usages_of_gathers (gathers : snapshot.records.Gathers mentions) (name : Text) :
    snapshot.usages name = (mentions.filter (·.name = name)).filterMap Mention.usage? := by
  rw [usages, gathers.get?, VariableRecord.gathered?]
  by_cases unmentioned : mentions.filter (·.name = name) = [] <;> simp [unmentioned]

theorem share_of_gathers (gathers : snapshot.records.Gathers mentions) (file : Text) :
    snapshot.share file =
      .ofMentions (snapshot.files.contains file) (mentions.filter (·.file = file)) := by
  have commute (name : Text) := Mention.filter_name_filter_file name (· = file) mentions
  ext1
  · rfl
  · funext name
    simp only [share, IndexShare.ofMentions, commute, definitions_of_gathers gathers]
    exact (Mention.filterMap_filter_file Mention.file_of_definition? (· = file) _).symm
  · funext name
    simp only [share, IndexShare.ofMentions, commute, usages_of_gathers gathers]
    exact (Mention.filterMap_filter_file Mention.file_of_usage? (· = file) _).symm

/-- A variable is used if some file uses it. -/
theorem usages_ne_nil_iff {name : Text} :
    snapshot.usages name ≠ [] ↔ ∃ file, (snapshot.share file).usages name ≠ [] := by
  constructor
  · intro used
    obtain ⟨usage, member⟩ := List.exists_mem_of_ne_nil _ used
    exact ⟨usage.file, List.ne_nil_of_mem (List.mem_filter.mpr ⟨member, decide_eq_true rfl⟩)⟩
  · rintro ⟨file, used⟩ unused
    exact used (by simp [share, unused])

/-! ## Edits -/

theorem gathers_edit (gathers : snapshot.records.Gathers mentions) (file : Text)
    (text : Option Text) :
    (snapshot.edit vocabulary file text).records.Gathers
      (mentions.filter (·.file ≠ file) ++ mentionsOfText vocabulary file text) := by
  cases text with
  | none => simpa [edit, mentionsOfText] using gathers.withoutFile file
  | some text => exact (gathers.withoutFile file).addScript file _

theorem contains_files_edit (snapshot : IndexSnapshot) (file other : Text) (text : Option Text) :
    (snapshot.edit vocabulary file text).files.contains other =
      if other = file then text.isSome else snapshot.files.contains other := by
  cases text with
  | none => by_cases same : other = file <;> simp [edit, same]
  | some text =>
    by_cases present : file ∈ snapshot.files
    · by_cases same : other = file <;> simp [edit, same, present]
    · by_cases same : other = file <;> simp [edit, same, present]

theorem gathers_foldl_addScript {records : Records} (gathers : records.Gathers mentions)
    (texts : FileTexts) :
    (texts.foldl
        (fun records (file, text) => records.addScript file (Script.parse vocabulary text))
        records).Gathers
      (mentions ++ texts.flatMap fun (file, text) =>
        mentionsOfText vocabulary file (some text)) := by
  induction texts generalizing records mentions with
  | nil => simpa using gathers
  | cons entry rest ih =>
    obtain ⟨file, text⟩ := entry
    rw [List.flatMap_cons, ← List.append_assoc]
    exact ih (gathers.addScript file _)

theorem gathers_ofTexts (vocabulary : Vocabulary) (texts : FileTexts) :
    (ofTexts vocabulary texts).records.Gathers
      (texts.flatMap fun (file, text) => mentionsOfText vocabulary file (some text)) := by
  simpa [ofTexts] using gathers_foldl_addScript Records.gathers_nil texts

end IndexSnapshot

theorem IndexShare.ofText_eq (vocabulary : Vocabulary) (file : Text) (text : Option Text) :
    ofText vocabulary file text =
      ofMentions text.isSome (mentionsOfText vocabulary file text) := by
  have gathers := IndexSnapshot.gathers_ofTexts vocabulary (text.map (file, ·)).toList
  have alone : ((text.map (file, ·)).toList.flatMap fun (file, text) =>
      mentionsOfText vocabulary file (some text)) = mentionsOfText vocabulary file text := by
    cases text <;> simp [mentionsOfText]
  rw [alone] at gathers
  ext1
  · rfl
  · exact funext (IndexSnapshot.definitions_of_gathers gathers)
  · exact funext (IndexSnapshot.usages_of_gathers gathers)

namespace IndexSnapshot

variable {vocabulary : Vocabulary} {snapshot : IndexSnapshot}

/-- The records are those of some list of mentions. -/
def Gathered (snapshot : IndexSnapshot) : Prop := ∃ mentions, snapshot.records.Gathers mentions

theorem gathered_ofTexts (vocabulary : Vocabulary) (texts : FileTexts) :
    (ofTexts vocabulary texts).Gathered :=
  ⟨_, gathers_ofTexts vocabulary texts⟩

theorem Gathered.edit (gathered : snapshot.Gathered) (file : Text) (text : Option Text) :
    (snapshot.edit vocabulary file text).Gathered := by
  obtain ⟨mentions, gathers⟩ := gathered
  exact ⟨_, gathers_edit gathers file text⟩

theorem share_edit (gathered : snapshot.Gathered) (file other : Text) (text : Option Text) :
    (snapshot.edit vocabulary file text).share other =
      if other = file then .ofText vocabulary file text else snapshot.share other := by
  obtain ⟨mentions, gathers⟩ := gathered
  rw [share_of_gathers (gathers_edit gathers file text), contains_files_edit]
  rw [List.filter_append, filter_mentionsOfText vocabulary file text (· = other)]
  split
  next same =>
    subst same
    have dropped : (mentions.filter (·.file ≠ other)).filter (·.file = other) = [] := by
      simp
    simp only [dropped, IndexShare.ofText_eq, decide_true, ↓reduceIte, List.nil_append]
  next different =>
    have others : (mentions.filter (·.file ≠ file)).filter (·.file = other) =
        mentions.filter (·.file = other) := by
      rw [List.filter_filter]
      exact List.filter_congr fun mention _ => by grind
    simp only [others, Ne.symm different, decide_false, Bool.false_eq_true, ↓reduceIte,
      List.append_nil, share_of_gathers gathers]

/-! ## Several edits -/

section Several

variable {edits : List (Text × Option Text)}

/-- Edits of files that are listed, and removals of files that are not. -/
theorem files_foldl_edit
    (agree : ∀ edit ∈ edits, edit.2.isSome = snapshot.files.contains edit.1) :
    (edits.foldl (fun snapshot (file, text) => snapshot.edit vocabulary file text)
      snapshot).files = snapshot.files := by
  induction edits generalizing snapshot with
  | nil => rfl
  | cons edit rest ih =>
    obtain ⟨file, text⟩ := edit
    obtain ⟨own, others⟩ := List.forall_mem_cons.mp agree
    have kept : (snapshot.edit vocabulary file text).files = snapshot.files := by
      cases text with
      | none =>
        have absent : file ∉ snapshot.files := by simpa using own
        refine List.filter_eq_self.mpr fun other member => decide_eq_true ?_
        exact fun same => absent (same ▸ member)
      | some text => exact if_pos own.symm
    rw [List.foldl_cons, ih (by rwa [kept]), kept]

/-- Edits after which each file contributes what it contributed before. -/
theorem share_foldl_edit (gathered : snapshot.Gathered)
    (agree : ∀ edit ∈ edits, IndexShare.ofText vocabulary edit.1 edit.2 = snapshot.share edit.1) :
    (edits.foldl (fun snapshot (file, text) => snapshot.edit vocabulary file text)
      snapshot).share = snapshot.share := by
  induction edits generalizing snapshot with
  | nil => rfl
  | cons edit rest ih =>
    obtain ⟨own, others⟩ := List.forall_mem_cons.mp agree
    have kept : (snapshot.edit vocabulary edit.1 edit.2).share = snapshot.share := by
      funext other
      rw [share_edit gathered]
      split
      next same => rw [same, own]
      next => rfl
    rw [List.foldl_cons, ih (gathered.edit _ _) (by rwa [kept]), kept]

theorem Gathered.replay (gathered : snapshot.Gathered) (edits : List (Text × Option Text)) :
    (edits.foldl (fun snapshot (file, text) => snapshot.edit vocabulary file text)
      snapshot).Gathered := by
  induction edits generalizing snapshot with
  | nil => exact gathered
  | cons edit rest ih => exact ih (gathered.edit edit.1 edit.2)

end Several

/-- A file that is edited has the share of its edit, and every other file has what it had. -/
theorem share_replay {edits : OrderedMap Text (Option Text)} (distinct : edits.keys.Nodup)
    (gathered : snapshot.Gathered) (file : Text) :
    (edits.entries.foldl (fun snapshot (file, text) => snapshot.edit vocabulary file text)
        snapshot).share file =
      (edits.get? file).elim (snapshot.share file) (.ofText vocabulary file) := by
  obtain ⟨entries⟩ := edits
  induction entries generalizing snapshot with
  | nil => rfl
  | cons entry rest ih =>
    obtain ⟨edited, text⟩ := entry
    obtain ⟨absent, distinct⟩ := List.nodup_cons.1 distinct
    rw [List.foldl_cons, ih (gathered.edit edited text) distinct, OrderedMap.get?_cons,
      share_edit gathered]
    by_cases same : edited = file
    · -- no later edit is one of this file
      subst same
      rw [OrderedMap.get?_eq_none_iff.2 absent]
      simp
    · simp [same, Ne.symm same]

end IndexSnapshot

end SceneScript
