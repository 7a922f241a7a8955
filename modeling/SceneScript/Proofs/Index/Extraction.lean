import Mathlib.Data.List.Basic
import SceneScript.Proofs.Index.Share

/-! # The records of one script

The index reads a script for definitions and usages at once, and the definitions can also be
extracted by themselves. Both find the same assignments, and the usages stand in the order of the
lines and, on a line, in that of its parts.

* `Line.Assigns` — the line is an assignment, spelled out;
* `Line.usagesOf`, `Line.Names` — what a line uses a variable for, and whether it names it at all;
* `Line.filterMap_definition?_mentions`, `Line.filterMap_usage?_mentions` — the mentions of a line;
* `Records.addScript_empty` — the records of a script, for every variable.
-/

namespace SceneScript

/-! ## Mentions -/

section Mentions

variable (file name : Text) (kind : UsageKind) (line : Line) (d : VariableDefinition)

@[simp] theorem Mention.name_definition : (Mention.definition d).name = d.name := rfl

@[simp] theorem Mention.definition?_definition : (Mention.definition d).definition? = some d := rfl

@[simp] theorem Mention.usage?_definition : (Mention.definition d).usage? = none := rfl

@[simp] theorem Line.name_usage : (line.usage file kind name).name = name := rfl

@[simp] theorem Line.definition?_usage : (line.usage file kind name).definition? = none := rfl

@[simp] theorem Line.usage?_usage :
    (line.usage file kind name).usage? = some ⟨file, line.number, line.raw, kind⟩ := rfl

end Mentions

/-! ## Assignments -/

namespace Line

/-- The line sets a variable: its content has the name in front of the first equals sign and the
value behind it, and the name is not blank. -/
def Assigns (a : Assignment) (line : Line) : Prop :=
  ∃ before after, line.commandNamed? Command.setVar = some (before ++ '=' :: after) ∧
    '=' ∉ before ∧ a = ⟨Text.strip before, Text.strip after⟩ ∧ a.name ≠ []

theorem assignment?_eq_some {line : Line} {a : Assignment} :
    line.assignment? = some a ↔ line.Assigns a := by
  unfold assignment? Assigns
  rw [Option.bind_eq_some_iff]
  constructor
  · rintro ⟨content, named, read⟩
    unfold Assignment.ofText? at read
    cases marked : Text.breakAt? '=' content with
    | none => simp [marked] at read
    | some parts =>
      obtain ⟨before, after⟩ := parts
      obtain ⟨rfl, absent⟩ := Text.breakAt?_eq_some marked
      simp only [marked] at read
      split at read
      next => cases read
      next present =>
        obtain rfl := Option.some.inj read
        exact ⟨before, after, named, absent, rfl, present⟩
  · rintro ⟨before, after, named, absent, rfl, present⟩
    refine ⟨_, named, ?_⟩
    rw [Assignment.ofText?, Text.breakAt?_append absent]
    exact if_neg present

/-! ## One line -/

/-- The definition that is extracted from the line. -/
def definition? (file : Text) (line : Line) : Option VariableDefinition :=
  line.assignment?.map fun a => ⟨a.name, a.value, line.number, file⟩

/-- What the line uses the variable for: it is read in the condition, then it is set, then it is
read in the value that is assigned. -/
def usagesOf (file name : Text) (line : Line) : List VariableUsage :=
  let use (kind : UsageKind) : VariableUsage := ⟨file, line.number, line.raw, kind⟩
  let reads (expression : Text) : List VariableUsage :=
    List.replicate ((identifiers expression).count name) (use .read)
  reads (line.condition?.getD []) ++
    match line.assignment? with
    | none => []
    | some a => (if a.name = name then [use .write] else []) ++ reads a.value

example : ((Line.parse ["setVar"] "setVar:n=m+n -when=n>n" 0).usagesOf [] "n").map (·.kind) =
    [.read, .read, .write, .read] := by decide +kernel

/-- The variable is read in the condition, set, or read in the value that is assigned. -/
def Names (name : Text) (line : Line) : Prop :=
  name ∈ identifiers (line.condition?.getD []) ∨
    ∃ a, line.Assigns a ∧ (a.name = name ∨ name ∈ identifiers a.value)

theorem filter_name_map_usage (file : Text) (line : Line) (name : Text) (names : List Text) :
    (names.map (line.usage file .read)).filter (·.name = name) =
      List.replicate (names.count name) (line.usage file .read name) := by
  -- a mention has the name that it is made for, so the names themselves can be counted
  have own : names.filter ((fun mention : Mention => mention.name = name) ∘
      line.usage file .read) = names.filter (· == name) :=
    List.filter_congr fun _ _ => (Bool.beq_eq_decide_eq _ _).symm
  rw [List.filter_map, own, List.filter_beq, List.map_replicate]

theorem filterMap_usage?_mentions (file name : Text) (line : Line) :
    ((line.mentions file).filter (·.name = name)).filterMap Mention.usage? =
      line.usagesOf file name := by
  have reads (count : Nat) :
      (List.replicate count (line.usage file .read name)).filterMap Mention.usage? =
        List.replicate count ⟨file, line.number, line.raw, .read⟩ :=
    List.filterMap_replicate_of_some rfl
  unfold mentions conditionMentions assignmentMentions usagesOf
  rw [List.filter_append, List.filterMap_append, filter_name_map_usage, reads]
  cases line.assignment? with
  | none => rfl
  | some a =>
    by_cases own : a.name = name
    · simp [filter_name_map_usage, List.filterMap_cons, reads, own]
    · simp [filter_name_map_usage, reads, own]

theorem filterMap_definition?_mentions (file name : Text) (line : Line) :
    ((line.mentions file).filter (·.name = name)).filterMap Mention.definition? =
      (line.definition? file).toList.filter (·.name = name) := by
  have reads (count : Nat) :
      (List.replicate count (line.usage file .read name)).filterMap Mention.definition? = [] :=
    List.filterMap_replicate_of_none rfl
  unfold mentions conditionMentions assignmentMentions definition?
  rw [List.filter_append, List.filterMap_append, filter_name_map_usage, reads]
  cases line.assignment? with
  | none => rfl
  | some a =>
    by_cases own : a.name = name
    · simp [filter_name_map_usage, List.filterMap_cons, reads, own]
    · simp [filter_name_map_usage, reads, own]

theorem exists_mention_iff {file name : Text} {line : Line} :
    (∃ mention ∈ line.mentions file, mention.name = name) ↔ line.Names name := by
  unfold Names mentions conditionMentions assignmentMentions
  simp only [← assignment?_eq_some]
  cases line.assignment? with
  | none => simp
  | some a => simp [or_and_right, exists_or]

/-- The variable is written where it is defined. -/
theorem writes_usagesOf (file name : Text) (line : Line) :
    ((line.usagesOf file name).filter (·.kind = .write)).map (fun u => (u.file, u.number)) =
      ((line.definition? file).toList.filter (·.name = name)).map
        fun d => (d.file, d.number) := by
  have reads (count : Nat) :
      (List.replicate count (⟨file, line.number, line.raw, .read⟩ : VariableUsage)).filter
        (·.kind = .write) = [] :=
    List.filter_replicate_of_neg (of_decide_eq_false rfl)
  unfold usagesOf definition?
  cases line.assignment? with
  | none => simp [reads]
  | some a => by_cases own : a.name = name <;> simp [reads, own]

end Line

/-! ## A whole script -/

namespace Script

variable (file name : Text) (script : Script)

theorem variableDefinitions_eq :
    script.variableDefinitions file =
      script.flatMap fun line => (line.definition? file).toList :=
  List.filterMap_eq_flatMap_toList (Line.definition? file) script

theorem filterMap_definition?_mentions :
    ((script.mentions file).filter (·.name = name)).filterMap Mention.definition? =
      (script.variableDefinitions file).filter (·.name = name) := by
  rw [mentions, variableDefinitions_eq, List.filter_flatMap, List.filterMap_flatMap,
    List.filter_flatMap]
  simp only [Line.filterMap_definition?_mentions]

theorem filterMap_usage?_mentions :
    ((script.mentions file).filter (·.name = name)).filterMap Mention.usage? =
      script.flatMap (Line.usagesOf file name) := by
  rw [mentions, List.filter_flatMap, List.filterMap_flatMap]
  simp only [Line.filterMap_usage?_mentions]

theorem writes_usagesOf :
    ((script.flatMap (Line.usagesOf file name)).filter (·.kind = .write)).map
        (fun u => (u.file, u.number)) =
      ((script.variableDefinitions file).filter (·.name = name)).map
        fun d => (d.file, d.number) := by
  rw [variableDefinitions_eq, List.filter_flatMap, List.filter_flatMap, List.map_flatMap,
    List.map_flatMap]
  simp only [Line.writes_usagesOf]

theorem exists_mention_iff :
    (∃ mention ∈ script.mentions file, mention.name = name) ↔
      ∃ line ∈ script, line.Names name := by
  constructor
  · rintro ⟨mention, member, own⟩
    obtain ⟨line, inScript, member⟩ := List.mem_flatMap.mp member
    exact ⟨line, inScript, Line.exists_mention_iff.mp ⟨mention, member, own⟩⟩
  · rintro ⟨line, inScript, named⟩
    obtain ⟨mention, member, own⟩ := Line.exists_mention_iff.mpr named
    exact ⟨mention, List.mem_flatMap.mpr ⟨line, inScript, member⟩, own⟩

end Script

theorem VariableRecord.isSome_gathered?_iff {name : Text} {mentions : List Mention} :
    (gathered? name mentions).isSome ↔ ∃ mention ∈ mentions, mention.name = name := by
  have some : (gathered? name mentions).isSome ↔ mentions.filter (·.name = name) ≠ [] := by
    unfold gathered?
    by_cases none : mentions.filter (·.name = name) = [] <;> simp [none]
  rw [some, Ne, List.filter_eq_nil_iff]
  simp

/-- A variable has a record if some line names it: the definitions that are extracted, and what each
line uses it for, one line after the other. -/
theorem Records.addScript_empty (vocabulary : Vocabulary) (text file name : Text) :
    let script := Script.parse vocabulary text
    let index : IndexSnapshot := { records := Records.addScript file script ∅ }
    let definitions := (script.variableDefinitions file).filter (·.name = name)
    let writes := (index.usages name).filter (·.kind = .write)
    (∀ line a, Line.assignment? line = some a ↔ line.Assigns a) ∧
      index.definitions name = definitions ∧
      index.usages name = script.flatMap (Line.usagesOf file name) ∧
      writes.map (fun u => (u.file, u.number)) = definitions.map (fun d => (d.file, d.number)) ∧
      ((index.records.get? name).isSome ↔ ∃ line ∈ script, line.Names name) := by
  intro script index definitions writes
  -- what the index holds for a name is what the mentions of that name make up
  have gathers : index.records.Gathers (script.mentions file) :=
    Records.gathers_nil.addScript file script
  have usages : index.usages name = script.flatMap (Line.usagesOf file name) :=
    (IndexSnapshot.usages_of_gathers gathers name).trans
      (Script.filterMap_usage?_mentions file name script)
  refine ⟨fun _ _ => Line.assignment?_eq_some, ?_, usages, ?_, ?_⟩
  · rw [IndexSnapshot.definitions_of_gathers gathers]
    exact Script.filterMap_definition?_mentions file name script
  · unfold writes
    rw [usages]
    exact Script.writes_usagesOf file name script
  · rw [gathers.get?, VariableRecord.isSome_gathered?_iff]
    exact Script.exists_mention_iff file name script

end SceneScript
