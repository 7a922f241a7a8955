import SceneScript.Index.Basic

/-! # Records gather mentions

Records are made by adding one mention after the other, and by taking the mentions of one file out.
Both are laws about one list of mentions.

* `VariableRecord.gathered?` — the record that a list of mentions makes up for a name;
* `Records.Gathers` — the records of a list of mentions, and no others;
* `Records.Gathers.addScript`, `Records.Gathers.withoutFile` — a file put in, and taken out.
-/

namespace SceneScript

namespace Mention

def file : Mention → Text
  | .definition d => d.file
  | .usage _ u => u.file

def definition? : Mention → Option VariableDefinition
  | .definition d => some d
  | .usage .. => none

def usage? : Mention → Option VariableUsage
  | .definition _ => none
  | .usage _ u => some u

theorem file_of_definition? {mention : Mention} {d : VariableDefinition}
    (defines : mention.definition? = some d) : d.file = mention.file := by
  cases mention with
  | definition => cases defines; rfl
  | usage => cases defines

theorem file_of_usage? {mention : Mention} {u : VariableUsage} (uses : mention.usage? = some u) :
    u.file = mention.file := by
  cases mention with
  | definition => cases uses
  | usage => cases uses; rfl

/-- What is picked from the mentions of some files is what those files have of all that is
picked. -/
theorem filterMap_filter_file {α : Type} {pick : Mention → Option α} {fileOf : α → Text}
    (placed : ∀ {mention a}, pick mention = some a → fileOf a = mention.file)
    (keep : Text → Bool) (mentions : List Mention) :
    (mentions.filter (keep ·.file)).filterMap pick =
      (mentions.filterMap pick).filter (keep <| fileOf ·) := by
  induction mentions with
  | nil => rfl
  | cons mention rest ih =>
    cases picked : pick mention with
    | none => by_cases kept : keep mention.file <;> simp [kept, picked, ih]
    | some a =>
      have same := placed picked
      by_cases kept : keep mention.file <;> simp [kept, picked, same, ih]

theorem filter_name_filter_file (name : Text) (keep : Text → Bool) (mentions : List Mention) :
    (mentions.filter (keep ·.file)).filter (·.name = name) =
      (mentions.filter (·.name = name)).filter (keep ·.file) := by
  simp only [List.filter_filter, Bool.and_comm]

theorem eq_nil_iff (mentions : List Mention) :
    mentions = [] ↔
      mentions.filterMap definition? = [] ∧ mentions.filterMap usage? = [] := by
  cases mentions with
  | nil => simp
  | cons mention rest => cases mention <;> simp [definition?, usage?]

end Mention

theorem Line.file_of_mem_mentions {file : Text} {line : Line} {mention : Mention}
    (member : mention ∈ line.mentions file) : mention.file = file := by
  simp only [Line.mentions, Line.conditionMentions, Line.assignmentMentions, List.mem_append,
    List.mem_map] at member
  rcases member with ⟨name, _, rfl⟩ | assigned
  · rfl
  · split at assigned
    · cases assigned
    · simp only [List.mem_cons, List.mem_map] at assigned
      rcases assigned with rfl | rfl | ⟨name, _, rfl⟩ <;> rfl

theorem Script.file_of_mem_mentions {file : Text} {script : Script} {mention : Mention}
    (member : mention ∈ script.mentions file) : mention.file = file := by
  obtain ⟨line, _, member⟩ := List.mem_flatMap.1 member
  exact Line.file_of_mem_mentions member

namespace VariableRecord

/-- The record that those mentions make up that are of `name`, if there are any. -/
def gathered? (name : Text) (mentions : List Mention) : Option VariableRecord :=
  let own := mentions.filter (·.name = name)
  if own = [] then none
  else some ⟨name, own.filterMap Mention.definition?, own.filterMap Mention.usage?⟩

theorem gathered?_append_singleton (name : Text) (mentions : List Mention) (mention : Mention) :
    gathered? name (mentions ++ [mention]) =
      if mention.name = name then
        some (((gathered? name mentions).getD { name }).add mention)
      else gathered? name mentions := by
  unfold gathered?
  by_cases own : mention.name = name
  · rw [List.filter_append, List.filter_cons_of_pos (by simpa using own), if_pos own]
    by_cases fresh : mentions.filter (·.name = name) = []
    · cases mention <;> simp [fresh, add, Mention.definition?, Mention.usage?]
    · cases mention <;> simp [fresh, add, Mention.definition?, Mention.usage?]
  · simp [List.filter_append, own]

/-- Without a file a record is what the other mentions make up; if there are none of these, it is
empty. -/
theorem gathered?_filter_file (name file : Text) (mentions : List Mention) :
    gathered? name (mentions.filter (·.file ≠ file)) =
      (gathered? name mentions).bind fun record =>
        let kept := record.withoutFile file
        if kept.isEmpty then none else some kept := by
  have commute := Mention.filter_name_filter_file name (· ≠ file) mentions
  unfold gathered?
  simp only [commute]
  generalize mentions.filter (·.name = name) = own
  by_cases unmentioned : own = []
  · simp [unmentioned]
  · have definitions := Mention.filterMap_filter_file Mention.file_of_definition? (· ≠ file) own
    have usages := Mention.filterMap_filter_file Mention.file_of_usage? (· ≠ file) own
    -- a record is empty exactly if no mention is left, since each is a definition or a usage
    have empty := Mention.eq_nil_iff (own.filter (·.file ≠ file))
    rw [definitions, usages] at empty
    simp only [definitions, usages, empty, unmentioned, ↓reduceIte, Option.bind_some, isEmpty,
      withoutFile, Bool.and_eq_true, List.isEmpty_iff]

end VariableRecord

namespace Records

/-- The records of these mentions: one for each variable that is mentioned. -/
structure Gathers (records : Records) (mentions : List Mention) : Prop where
  distinct : records.keys.Nodup
  get? : ∀ name, records.get? name = VariableRecord.gathered? name mentions

theorem gathers_nil : Gathers ∅ [] := ⟨List.nodup_nil, fun _ => rfl⟩

namespace Gathers

variable {records : Records} {mentions : List Mention}

theorem add (gathers : records.Gathers mentions) (mention : Mention) :
    (records.add mention).Gathers (mentions ++ [mention]) where
  distinct := OrderedMap.nodup_keys_insert gathers.distinct _ _
  get? name := by
    simp only [Records.add, OrderedMap.modifyD, OrderedMap.get?_insert,
      VariableRecord.gathered?_append_singleton, gathers.get?]
    split
    next own => rw [own]
    next => rfl

theorem foldl_add (gathers : records.Gathers mentions) (more : List Mention) :
    (more.foldl Records.add records).Gathers (mentions ++ more) := by
  induction more generalizing records mentions with
  | nil => simpa using gathers
  | cons mention more ih => simpa using ih (gathers.add mention)

theorem addScript (gathers : records.Gathers mentions) (file : Text) (script : Script) :
    (records.addScript file script).Gathers (mentions ++ script.mentions file) :=
  gathers.foldl_add _

theorem withoutFile (gathers : records.Gathers mentions) (file : Text) :
    (records.withoutFile file).Gathers (mentions.filter (·.file ≠ file)) where
  distinct := gathers.distinct.sublist (OrderedMap.keys_filterMap_sublist _ _)
  get? name := by
    rw [Records.withoutFile, OrderedMap.get?_filterMap gathers.distinct, gathers.get?,
      VariableRecord.gathered?_filter_file]

end Gathers

end Records

end SceneScript
