import SceneScript.Proofs.Index.Share

/-! # Arrangements

Behind every index stand the texts of its files in some order: the sites of a variable are those
that each text contributes, in that order. An edit moves its file to the end.

* `IndexSnapshot.Arranged` — an index and the texts that it stands for;
* `IndexSnapshot.Arranged.edit`, `IndexSnapshot.Arranged.replay` — edits of the texts;
* `IndexSnapshot.Mirrors` — everything that follows for an index, said without an order;
* `IndexSnapshot.Arranged.mirrors` — why it follows.
-/

namespace SceneScript

/-- All that belongs to one file stands together. -/
def Contiguous {α : Type} (fileOf : α → Text) (sites : List α) : Prop :=
  ∀ file, ∃ before after, sites = before ++ sites.filter (fileOf · = file) ++ after

theorem filter_flatMap_of_absent {α : Type} {fileOf : α → Text} {sitesOf : Text × Text → List α}
    (placed : ∀ entry, ∀ a ∈ sitesOf entry, fileOf a = entry.1) {texts : FileTexts} {file : Text}
    (absent : file ∉ texts.map (·.1)) :
    (texts.flatMap sitesOf).filter (fileOf · = file) = [] := by
  simp only [List.filter_eq_nil_iff, List.mem_flatMap, decide_eq_true_eq]
  rintro a ⟨entry, member, own⟩ rfl
  exact absent (placed entry a own ▸ List.mem_map_of_mem member)

theorem contiguous_flatMap {α : Type} {fileOf : α → Text} {sitesOf : Text × Text → List α}
    (placed : ∀ entry, ∀ a ∈ sitesOf entry, fileOf a = entry.1) {texts : FileTexts}
    (distinct : (texts.map (·.1)).Nodup) : Contiguous fileOf (texts.flatMap sitesOf) := by
  intro file
  induction texts with
  | nil => exact ⟨[], [], rfl⟩
  | cons entry rest ih =>
    obtain ⟨absent, distinct⟩ := List.nodup_cons.1 distinct
    rw [List.flatMap_cons, List.filter_append]
    by_cases own : entry.1 = file
    · -- all sites of the file come first, since no later entry is of it
      have all : (sitesOf entry).filter (fileOf · = file) = sitesOf entry :=
        List.filter_eq_self.2 fun a member => by simp [placed entry a member, own]
      rw [all, filter_flatMap_of_absent placed (own ▸ absent), List.append_nil]
      exact ⟨[], rest.flatMap sitesOf, rfl⟩
    · have none : (sitesOf entry).filter (fileOf · = file) = [] :=
        List.filter_eq_nil_iff.2 fun a member => by simp [placed entry a member, own]
      obtain ⟨before, after, split⟩ := ih distinct
      refine ⟨sitesOf entry ++ before, after, ?_⟩
      rw [none, List.nil_append, List.append_assoc, List.append_assoc, ← List.append_assoc before,
        ← split]

/-! ## Texts in the order of their contributions -/

def mentionsOfTexts (vocabulary : Vocabulary) (texts : FileTexts) : List Mention :=
  texts.flatMap fun (file, text) => mentionsOfText vocabulary file (some text)

/-- The texts after an edit; a file with a new text comes last. -/
def editTexts (texts : OrderedMap Text Text) (file : Text) : Option Text → OrderedMap Text Text
  | none => texts.erase file
  | some text => (texts.erase file).insert file text

section EditTexts

variable (texts : OrderedMap Text Text) (file : Text) (text : Option Text)

theorem get?_editTexts (other : Text) :
    (editTexts texts file text).get? other = if other = file then text else texts.get? other := by
  cases text with
  | none => simp only [editTexts, OrderedMap.get?_erase, eq_comm]
  | some text =>
    simp only [editTexts, OrderedMap.get?_insert, OrderedMap.get?_erase]
    split
    next same => rw [if_pos same.symm]
    next different => rw [if_neg (Ne.symm different)]

theorem nodup_keys_editTexts {texts : OrderedMap Text Text} (distinct : texts.keys.Nodup) :
    (editTexts texts file text).keys.Nodup := by
  cases text with
  | none => exact OrderedMap.nodup_keys_erase distinct file
  | some text => exact OrderedMap.nodup_keys_insert (OrderedMap.nodup_keys_erase distinct file) _ _

theorem mentionsOfTexts_filter (vocabulary : Vocabulary) (entries : FileTexts)
    (keep : Text → Bool) :
    mentionsOfTexts vocabulary (entries.filter (keep ·.1)) =
      (mentionsOfTexts vocabulary entries).filter (keep ·.file) := by
  induction entries with
  | nil => rfl
  | cons entry rest ih =>
    obtain ⟨name, content⟩ := entry
    simp only [mentionsOfTexts, List.flatMap_cons, List.filter_append] at ih ⊢
    rw [filter_mentionsOfText]
    by_cases kept : keep name
    · rw [List.filter_cons_of_pos (by simpa using kept), List.flatMap_cons, ih, if_pos kept]
    · rw [List.filter_cons_of_neg (by simpa using kept), ih, if_neg kept, List.nil_append]

theorem mentionsOfTexts_editTexts (vocabulary : Vocabulary) :
    mentionsOfTexts vocabulary (editTexts texts file text).entries =
      (mentionsOfTexts vocabulary texts.entries).filter (·.file ≠ file) ++
        mentionsOfText vocabulary file text := by
  have erased : mentionsOfTexts vocabulary (texts.erase file).entries =
      (mentionsOfTexts vocabulary texts.entries).filter (·.file ≠ file) :=
    mentionsOfTexts_filter vocabulary texts.entries (· ≠ file)
  cases text with
  | none => rw [editTexts, erased, mentionsOfText, List.append_nil]
  | some text =>
    -- an erased file is new again, so that it comes last
    have absent : file ∉ (texts.erase file).keys := by simp [OrderedMap.keys_erase]
    rw [editTexts, OrderedMap.entries_insert_of_notMem absent, ← erased]
    simp [mentionsOfTexts]

end EditTexts

namespace IndexSnapshot

/-- The index of `texts`, whose sites stand in the order of the texts. -/
structure Arranged (vocabulary : Vocabulary) (snapshot : IndexSnapshot)
    (texts : OrderedMap Text Text) : Prop where
  distinct : texts.keys.Nodup
  gathers : snapshot.records.Gathers (mentionsOfTexts vocabulary texts.entries)
  indexed : ∀ file, snapshot.files.contains file = (texts.get? file).isSome

theorem arranged_empty (vocabulary : Vocabulary) : Arranged vocabulary {} ∅ :=
  ⟨List.nodup_nil, Records.gathers_nil, fun _ => rfl⟩

theorem arranged_ofTexts {vocabulary : Vocabulary} {texts : FileTexts}
    (distinct : (texts.map (·.1)).Nodup) :
    (ofTexts vocabulary texts).Arranged vocabulary ⟨texts⟩ where
  distinct := distinct
  gathers := gathers_ofTexts vocabulary texts
  indexed file := by
    rw [Bool.eq_iff_iff, List.contains_iff_mem, OrderedMap.isSome_get?_iff]
    exact mem_firstOccurrences

namespace Arranged

variable {vocabulary : Vocabulary} {snapshot : IndexSnapshot} {texts : OrderedMap Text Text}

theorem edit (arranged : snapshot.Arranged vocabulary texts) (file : Text) (text : Option Text) :
    (snapshot.edit vocabulary file text).Arranged vocabulary (editTexts texts file text) where
  distinct := nodup_keys_editTexts file text arranged.distinct
  gathers := by
    rw [mentionsOfTexts_editTexts]
    exact gathers_edit arranged.gathers file text
  indexed other := by
    rw [contains_files_edit, get?_editTexts, arranged.indexed]
    split <;> rfl

/-- Edits in a row give each edited file its text, and leave every other file the text it had. -/
theorem replay (arranged : snapshot.Arranged vocabulary texts)
    {edits : OrderedMap Text (Option Text)} (distinct : edits.keys.Nodup) :
    ∃ replayed : OrderedMap Text Text,
      (edits.entries.foldl (fun snapshot (file, text) => snapshot.edit vocabulary file text)
          snapshot).Arranged vocabulary replayed ∧
        ∀ file, replayed.get? file = (edits.get? file).getD (texts.get? file) := by
  obtain ⟨entries⟩ := edits
  induction entries generalizing snapshot texts with
  | nil => exact ⟨texts, arranged, fun _ => rfl⟩
  | cons entry rest ih =>
    obtain ⟨edited, text⟩ := entry
    obtain ⟨absent, distinct⟩ := List.nodup_cons.1 distinct
    obtain ⟨replayed, rearranged, texts_eq⟩ := ih (arranged.edit edited text) distinct
    refine ⟨replayed, rearranged, fun file => ?_⟩
    rw [texts_eq, get?_editTexts, OrderedMap.get?_cons]
    by_cases same : edited = file
    · subst same
      rw [OrderedMap.get?_eq_none_iff.2 absent]
      simp
    · simp [same, Ne.symm same]

theorem mentions_of_file (arranged : snapshot.Arranged vocabulary texts) (file : Text) :
    (mentionsOfTexts vocabulary texts.entries).filter (·.file = file) =
      mentionsOfText vocabulary file (texts.get? file) := by
  rw [← mentionsOfTexts_filter vocabulary texts.entries (· = file),
    OrderedMap.filter_entries_key arranged.distinct]
  cases texts.get? file <;> simp [mentionsOfTexts, mentionsOfText]

theorem share_eq (arranged : snapshot.Arranged vocabulary texts) (file : Text) :
    snapshot.share file = .ofText vocabulary file (texts.get? file) := by
  rw [share_of_gathers arranged.gathers, arranged.mentions_of_file, arranged.indexed,
    IndexShare.ofText_eq]

/-- The sites of a variable, in the order of the texts. -/
theorem sites_eq {α : Type} (name : Text) (pick : Mention → Option α) :
    ((mentionsOfTexts vocabulary texts.entries).filter (·.name = name)).filterMap pick =
      texts.entries.flatMap fun (file, text) =>
        ((mentionsOfText vocabulary file (some text)).filter (·.name = name)).filterMap pick := by
  simp only [mentionsOfTexts, List.filter_flatMap, List.filterMap_flatMap]

theorem file_of_mem_sites {α : Type} {name : Text} {pick : Mention → Option α}
    {fileOf : α → Text} (placed : ∀ {mention a}, pick mention = some a → fileOf a = mention.file)
    {file : Text} {text : Option Text} {a : α}
    (member : a ∈
      ((mentionsOfText vocabulary file text).filter (·.name = name)).filterMap pick) :
    fileOf a = file := by
  obtain ⟨mention, own, picked⟩ := List.mem_filterMap.1 member
  rw [placed picked, file_of_mem_mentionsOfText (List.mem_filter.1 own).1]

theorem contiguous_sites (arranged : snapshot.Arranged vocabulary texts) {α : Type} (name : Text)
    {pick : Mention → Option α} {fileOf : α → Text}
    (placed : ∀ {mention a}, pick mention = some a → fileOf a = mention.file) :
    Contiguous fileOf
      (((mentionsOfTexts vocabulary texts.entries).filter (·.name = name)).filterMap pick) := by
  rw [sites_eq]
  exact contiguous_flatMap (fun _ _ member => file_of_mem_sites placed member) arranged.distinct

theorem file_mem_of_mem_sites (arranged : snapshot.Arranged vocabulary texts) {α : Type}
    {name : Text} {pick : Mention → Option α} {fileOf : α → Text}
    (placed : ∀ {mention a}, pick mention = some a → fileOf a = mention.file) {a : α}
    (member : a ∈
      ((mentionsOfTexts vocabulary texts.entries).filter (·.name = name)).filterMap pick) :
    fileOf a ∈ snapshot.files := by
  rw [sites_eq] at member
  obtain ⟨⟨file, text⟩, entry, own⟩ := List.mem_flatMap.1 member
  rw [file_of_mem_sites placed own, ← List.contains_iff_mem, arranged.indexed,
    OrderedMap.isSome_get?_iff]
  exact List.mem_map_of_mem entry

end Arranged

/-! ## Without an order -/

/-- An index mirrors the texts of its files: each file has exactly what its text contributes
alone, the sites of a file stand together, and there are records for the variables with sites. -/
structure Mirrors (vocabulary : Vocabulary) (contents : Text → Option Text)
    (snapshot : IndexSnapshot) : Prop where
  share : ∀ file, snapshot.share file = .ofText vocabulary file (contents file)
  definitions_indexed : ∀ name, ∀ d ∈ snapshot.definitions name, d.file ∈ snapshot.files
  usages_indexed : ∀ name, ∀ u ∈ snapshot.usages name, u.file ∈ snapshot.files
  definitions_contiguous : ∀ name, Contiguous (·.file) (snapshot.definitions name)
  usages_contiguous : ∀ name, Contiguous (·.file) (snapshot.usages name)
  recorded : ∀ name, (snapshot.records.get? name).isSome ↔
    snapshot.definitions name ≠ [] ∨ snapshot.usages name ≠ []
  unmentioned : ∀ name,
    (∀ file, ∀ mention ∈ mentionsOfText vocabulary file (contents file), mention.name ≠ name) →
      snapshot.records.get? name = none

theorem isSome_get?_records_iff {snapshot : IndexSnapshot} {mentions : List Mention}
    (gathers : snapshot.records.Gathers mentions) (name : Text) :
    (snapshot.records.get? name).isSome ↔
      snapshot.definitions name ≠ [] ∨ snapshot.usages name ≠ [] := by
  rw [definitions_of_gathers gathers, usages_of_gathers gathers,
    ← Decidable.not_and_iff_not_or_not,
    ← Mention.eq_nil_iff, gathers.get?, VariableRecord.gathered?]
  split <;> simp [*]

theorem Arranged.mirrors {vocabulary : Vocabulary} {snapshot : IndexSnapshot}
    {texts : OrderedMap Text Text} (arranged : snapshot.Arranged vocabulary texts) :
    snapshot.Mirrors vocabulary texts.get? where
  share := arranged.share_eq
  definitions_indexed name := by
    rw [definitions_of_gathers arranged.gathers]
    exact fun _ => arranged.file_mem_of_mem_sites Mention.file_of_definition?
  usages_indexed name := by
    rw [usages_of_gathers arranged.gathers]
    exact fun _ => arranged.file_mem_of_mem_sites Mention.file_of_usage?
  definitions_contiguous name := by
    rw [definitions_of_gathers arranged.gathers]
    exact arranged.contiguous_sites name Mention.file_of_definition?
  usages_contiguous name := by
    rw [usages_of_gathers arranged.gathers]
    exact arranged.contiguous_sites name Mention.file_of_usage?
  recorded := isSome_get?_records_iff arranged.gathers
  unmentioned name silent := by
    have none_own : (mentionsOfTexts vocabulary texts.entries).filter (·.name = name) = [] := by
      refine List.filter_eq_nil_iff.2 fun mention member => ?_
      have own : mention ∈ mentionsOfText vocabulary mention.file (texts.get? mention.file) := by
        rw [← arranged.mentions_of_file]
        exact List.mem_filter.2 ⟨member, by simp⟩
      simpa using silent _ mention own
    simp [arranged.gathers.get?, VariableRecord.gathered?, none_own]

end IndexSnapshot

end SceneScript
