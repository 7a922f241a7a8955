import SceneScript.Diagnostic.Check
import SceneScript.Proofs.Line.Boundary
import SceneScript.Proofs.Line.Inert
import SceneScript.Scene.Template

/-! # The start of a new scene file

The name of a new file is written into comments and into one line of narration. The first character
of a line decides that it is one of these, so that whatever follows it is not read as a command, and
only commands define something or are checked.

* `Text.lines_flatMap_feed` — the lines of a text that is written line by line;
* `Statement.silent_of_semicolon`, `Statement.silent_of_colon` — lines that are no commands, by
  their first character;
* `Script.commands`, `Checker.diagnoseScript_commands` — all of a script that counts;
* `sceneTemplate_clean` — what is found in a new file.
-/

namespace SceneScript

namespace Text

/-! ## Lines that are written one by one -/

theorem lines_append_feed {line : Text} (single : '\n' ∉ line) (rest : Text) :
    lines (line ++ '\n' :: rest) = line :: lines rest := by
  have uncut : ∀ c ∈ line, decide (c = '\n') = false := by
    intro c member
    simp only [decide_eq_false_iff_not]
    rintro rfl
    exact single member
  rw [lines, pieces, splitWhere_append_cons (by simp), splitWhere_of_forall_not uncut]
  rfl

theorem lines_flatMap_feed {written : List Text} (single : ∀ line ∈ written, '\n' ∉ line) :
    lines (written.flatMap (· ++ ['\n'])) = written ++ [[]] := by
  induction written with
  | nil => rfl
  | cons line rest ih =>
    obtain ⟨here, later⟩ := List.forall_mem_cons.mp single
    rw [List.flatMap_cons, List.append_assoc, List.singleton_append, lines_append_feed here,
      ih later, List.cons_append]

theorem mem_of_mem_splitWhere {cut : Char → Bool} {t piece : Text} {c : Char}
    (member : piece ∈ splitWhere cut t) (inside : c ∈ piece) : c ∈ t := by
  induction t generalizing piece with
  | nil =>
    rw [splitWhere, List.mem_singleton] at member
    exact member ▸ inside
  | cons d rest ih =>
    unfold splitWhere at member
    split at member
    · rcases List.mem_cons.mp member with rfl | later
      · cases inside
      · exact List.mem_cons_of_mem d (ih later inside)
    · cases pieces : splitWhere cut rest with
      | nil => exact absurd pieces (splitWhere_ne_nil cut rest)
      | cons first others =>
        rw [pieces] at member ih
        rcases List.mem_cons.mp member with rfl | later
        · rcases List.mem_cons.mp inside with rfl | further
          · exact List.mem_cons_self
          · exact List.mem_cons_of_mem d (ih List.mem_cons_self further)
        · exact List.mem_cons_of_mem d (ih (List.mem_cons_of_mem _ later) inside)

theorem isDigit_of_mem_padded {width n : Nat} {c : Char} (member : c ∈ padded 10 width n) :
    c.isDigit = true := by
  rcases List.mem_append.mp member with zero | digit
  · rw [List.eq_of_mem_replicate zero]
    rfl
  · exact Nat.isDigit_of_mem_toDigits (by decide) (Nat.le_refl 10) digit

/-! ## The first character of a line -/

/-- Ink at the start of a text stays where it is when the text is stripped. -/
theorem exists_strip_cons {c : Char} (ink : isBlank c = false) (t : Text) :
    ∃ rest, strip (c :: t) = c :: rest := by
  have filled : strip (c :: t) ≠ [] := by
    rw [ne_eq, strip_eq_nil_iff]
    intro blank
    exact Bool.false_ne_true (ink.symm.trans (blank c List.mem_cons_self))
  have first : (strip (c :: t)).head? = some c := by
    rw [← head?_stripStart filled, stripStart_eq_self (trimmedStart_cons.mpr ink), List.head?_cons]
  exact List.head?_eq_some_iff.mp first

end Text

namespace Statement

variable {vocabulary : Vocabulary}

theorem silent_of_semicolon {raw : Text} (first : raw.head? = some ';') :
    (ofText vocabulary raw).isCommand = false := by
  obtain ⟨t, rfl⟩ := List.head?_eq_some_iff.mp first
  obtain ⟨rest, stripped⟩ := Text.exists_strip_cons (by decide : isBlank ';' = false) t
  simp only [ofText, stripped]
  rfl

/-- The first argument begins behind the character that the line begins with. -/
theorem exists_splitArguments_cons {c : Char} (ink : isBlank c = false) (t : Text) :
    ∃ rest arguments, splitArguments (c :: t) = (c :: rest, arguments) := by
  unfold splitArguments
  cases found : Text.breakAtHyphen? (c :: t) with
  | none => exact ⟨t, ∅, rfl⟩
  | some parts =>
    obtain ⟨before, after⟩ := parts
    obtain ⟨boundary, blank, split, -⟩ := Text.breakAtHyphen?_eq_some found
    cases before with
    | nil =>
      obtain ⟨rfl, -⟩ := List.cons.inj split
      rw [ink] at blank
      cases blank
    | cons d before =>
      obtain ⟨rfl, -⟩ := List.cons.inj split
      obtain ⟨rest, stripped⟩ := Text.exists_strip_cons ink before
      exact ⟨rest, Arguments.ofSegments (Text.hyphenated (Text.stripEnd after)), by
        simp only [stripped]⟩

/-- A colon at the start leaves no room for the name of a command. -/
theorem silent_of_colon (nameless : [] ∉ vocabulary) {raw : Text} (first : raw.head? = some ':') :
    (ofText vocabulary raw).isCommand = false := by
  obtain ⟨t, rfl⟩ := List.head?_eq_some_iff.mp first
  have ink : isBlank ':' = false := by decide
  obtain ⟨trimmed, stripped⟩ := Text.exists_strip_cons ink t
  obtain ⟨body, shown⟩ := Text.exists_strip_cons ink (Text.beforeComment (':' = '\\') trimmed)
  obtain ⟨main, arguments, parts⟩ := exists_splitArguments_cons ink (Text.unescape body)
  have kept : Text.beforeComment false (':' :: trimmed) =
      ':' :: Text.beforeComment (':' = '\\') trimmed := by
    simp [Text.beforeComment]
  have unescaped : Text.unescape (':' :: body) = ':' :: Text.unescape body := by
    simp [Text.unescape]
  have narration : ofText vocabulary (':' :: t) = .dialogue none (Text.strip main) arguments := by
    rw [ofText_of_body (by simp [stripped]) (by simp [stripped]), stripped, kept, shown, unescaped,
      ofBody, parts]
    simp [Text.breakAt?, nameless, speakerOfHead]
  rw [narration]
  rfl

end Statement

/-! ## What counts of a script -/

namespace Script

variable {script : Script} {β : Type}

def commands (script : Script) : Script := script.filter (·.statement.isCommand)

/-- What finds something in commands only finds all of it in them. -/
theorem filterMap_commands {find : Line → Option β}
    (only : ∀ line, line.statement.isCommand = false → find line = none) :
    script.commands.filterMap find = script.filterMap find := by
  rw [commands, List.filterMap_filter]
  congr 1
  funext line
  cases command : line.statement.isCommand with
  | true => rfl
  | false => exact (only line command).symm

theorem any_commands {holds : Line → Bool}
    (only : ∀ line, line.statement.isCommand = false → holds line = false) :
    script.commands.any holds = script.any holds := by
  rw [commands, List.any_filter]
  congr 1
  funext line
  cases command : line.statement.isCommand with
  | true => rfl
  | false => exact (only line command).symm

theorem flatMap_commands {report : Line → List β}
    (only : ∀ line, line.statement.isCommand = false → report line = []) :
    script.commands.flatMap report = script.flatMap report := by
  induction script with
  | nil => rfl
  | cons line rest ih =>
    unfold commands at ih ⊢
    cases command : line.statement.isCommand with
    | true => simp only [List.filter_cons, command, if_true, List.flatMap_cons, ih]
    | false => simp [command, ih, only line command]

end Script

namespace Line

variable {line : Line} (silent : line.statement.isCommand = false)

include silent

theorem commandNamed?_of_silent (name : Text) : line.commandNamed? name = none := by
  unfold commandNamed?
  split
  next command => simp [command, Statement.isCommand] at silent
  next => rfl

theorem label?_of_silent : line.label? = none := by
  simp [label?, commandNamed?_of_silent silent]

theorem assignment?_of_silent : line.assignment? = none := by
  simp [assignment?, commandNamed?_of_silent silent]

theorem sceneReference?_of_silent : line.sceneReference? = none := by
  unfold sceneReference?
  split
  next command => simp [command, Statement.isCommand] at silent
  next => rfl

theorem refersToLabel_of_silent (name : Text) : line.refersToLabel name = false := by
  simp [refersToLabel, commandNamed?_of_silent silent]

end Line

namespace Script

theorem labels_commands (file : Text) (script : Script) :
    script.commands.labels file = script.labels file :=
  filterMap_commands fun _ silent => by rw [Line.label?_of_silent silent]; rfl

theorem variableDefinitions_commands (file : Text) (script : Script) :
    script.commands.variableDefinitions file = script.variableDefinitions file :=
  filterMap_commands fun _ silent => by rw [Line.assignment?_of_silent silent]; rfl

theorem sceneReferences_commands (script : Script) :
    script.commands.sceneReferences = script.sceneReferences :=
  filterMap_commands fun _ silent => Line.sceneReference?_of_silent silent

end Script

namespace Checker

theorem unusedLabels_commands (file : Text) (script : Script) :
    unusedLabels file script.commands = unusedLabels file script := by
  have referred (name : Text) :
      script.commands.any (Line.refersToLabel name) = script.any (Line.refersToLabel name) :=
    Script.any_commands fun _ silent => Line.refersToLabel_of_silent silent name
  simp only [unusedLabels, referred]
  exact Script.filterMap_commands fun _ silent => by rw [Line.label?_of_silent silent]; rfl

/-- The lines of a script that are no commands can be left out before it is checked. -/
theorem diagnoseScript_commands (checker : Checker) (validateResources : Bool) (file : Text)
    (script : Script) :
    checker.diagnoseScript validateResources file script.commands =
      checker.diagnoseScript validateResources file script := by
  simp only [diagnoseScript, Script.labels_commands, unusedLabels_commands]
  congr 1
  apply Script.flatMap_commands
  intro line silent
  unfold checkLine
  split
  next command => simp [command, Statement.isCommand] at silent
  next => rfl

/-- Nothing is found on a line without a condition that supplies what its command requires and leads
neither to a label nor to a file. -/
theorem checkCommand_eq_nil {checker : Checker} {line : Line} {command content : Text}
    (known : checker.commands.contains command = true)
    (supplied : checker.commands.requiredInContent command = [] ∨ Text.strip content ≠ [])
    (fileless : assetTypeOfCommand? command = none) (noJump : command ≠ Command.jumpLabel)
    (noChoice : command ≠ Command.choose) (unconditional : line.condition? = none)
    (validateResources : Bool) (labels : List Text) (file : Text) :
    checker.checkCommand validateResources labels file line command content = [] := by
  have parameter : checker.missingParameter? command content = none := by
    unfold missingParameter?
    rcases supplied with nothing | filled
    · rw [nothing]
    · split <;> simp [filled]
  have resource : checker.missingResource? validateResources command content = none := by
    simp [missingResource?, fileless]
  have jump : undefinedJump? labels command content = none := by simp [undefinedJump?, noJump]
  have targets : undefinedTargets labels command content = [] := by
    simp [undefinedTargets, noChoice]
  have condition : checker.undefinedCondition? line = none := by
    have unnamed : checker.undefinedVariables [] = [] := by
      unfold undefinedVariables
      split <;> rfl
    simp only [undefinedCondition?, unconditional, Option.getD_none, unnamed]
  simp [checkCommand, known, parameter, resource, jump, targets, condition]

end Checker

/-! ## The template -/

/-- The lines that are written into a new file. -/
def sceneTemplateLines (fileName : Text) (created : CalendarDate) : List Text :=
  ["; File: " ++ fileName, "; Description: " ++ sceneName fileName ++ " scene",
   "; Created: " ++ created.display, "; Note: Describe this scene here", [], "label:start;", [],
   ":Welcome to the " ++ sceneName fileName ++ " scene!;", [], "end;"]

/-- The two of these lines that are commands. -/
def sceneTemplateCommands : Script :=
  [⟨5, "label:start;", .command Command.label "start" ∅⟩, ⟨9, "end;", .command "end" [] ∅⟩]

theorem sceneTemplate_eq (fileName : Text) (created : CalendarDate) :
    sceneTemplate fileName created =
      (sceneTemplateLines fileName created).flatMap (· ++ ['\n']) := by
  unfold sceneTemplate sceneTemplateLines
  generalize sceneName fileName = name
  generalize created.display = day
  simp

theorem mem_of_mem_sceneName {fileName : Text} {c : Char} (member : c ∈ sceneName fileName) :
    c ∈ fileName := by
  have inName : c ∈ (Path.ofText fileName).name := by
    simp only [sceneName] at member
    split at member
    · exact List.mem_of_mem_take member
    · exact member
  cases last : (Path.ofText fileName).names.getLast? with
  | none => simp [Path.name, last] at inName
  | some name =>
    rw [Path.name, last, Option.getD_some] at inName
    obtain ⟨piece, -⟩ := List.mem_filter.mp (List.mem_of_getLast? last)
    exact Text.mem_of_mem_splitWhere piece inName

theorem notMem_display (created : CalendarDate) : '\n' ∉ created.display := by
  have digits {width n : Nat} : '\n' ∉ Text.padded 10 width n := by
    intro member
    exact absurd (Text.isDigit_of_mem_padded member) (by decide)
  simp [CalendarDate.display, digits]

theorem notMem_of_mem_sceneTemplateLines {fileName : Text} (single : '\n' ∉ fileName)
    (created : CalendarDate) : ∀ line ∈ sceneTemplateLines fileName created, '\n' ∉ line := by
  have name : '\n' ∉ sceneName fileName := fun member => single (mem_of_mem_sceneName member)
  simp [sceneTemplateLines, single, name, notMem_display]

/-- The name and the date are in none of the commands. -/
theorem commands_sceneTemplate {fileName : Text} (single : '\n' ∉ fileName)
    (created : CalendarDate) :
    (Script.parse .builtin (sceneTemplate fileName created)).commands = sceneTemplateCommands := by
  have nameless : [] ∉ Vocabulary.builtin := by
    rw [Vocabulary.builtin, names_builtin]
    decide
  have file : (Statement.ofText .builtin ("; File: " ++ fileName)).isCommand = false :=
    Statement.silent_of_semicolon rfl
  have about : (Statement.ofText .builtin
      ("; Description: " ++ sceneName fileName ++ " scene")).isCommand = false :=
    Statement.silent_of_semicolon rfl
  have day : (Statement.ofText .builtin ("; Created: " ++ created.display)).isCommand = false :=
    Statement.silent_of_semicolon rfl
  have note : (Statement.ofText .builtin "; Note: Describe this scene here").isCommand = false :=
    Statement.silent_of_semicolon rfl
  have welcome : (Statement.ofText .builtin
      (":Welcome to the " ++ sceneName fileName ++ " scene!;")).isCommand = false :=
    Statement.silent_of_colon nameless rfl
  have label : Statement.ofText .builtin "label:start;" = .command Command.label "start" ∅ := by
    decide +kernel
  have last : Statement.ofText .builtin "end;" = .command "end" [] ∅ := by decide +kernel
  have blank : (Statement.ofText .builtin []).isCommand = false := rfl
  rw [Script.parse, sceneTemplate_eq,
    Text.lines_flatMap_feed (notMem_of_mem_sceneTemplateLines single created)]
  simp only [sceneTemplateLines, List.cons_append, List.nil_append, List.mapIdx_cons,
    List.mapIdx_nil, Line.parse, Script.commands, List.filter_cons, List.filter_nil, file, about,
    day, note, welcome, blank, label, last]
  rfl

/-- The two commands have what they require. -/
theorem checkLine_sceneTemplateCommands {checker : Checker}
    (catalog : checker.commands = Catalog.builtin) (validateResources : Bool) (labels : List Text)
    (file : Text) :
    sceneTemplateCommands.flatMap (checker.checkLine validateResources labels file) = [] := by
  have known : Catalog.builtin.contains Command.label = true ∧
      Catalog.builtin.contains "end" = true := by decide +kernel
  have nothing : Catalog.builtin.requiredInContent "end" = [] := by decide +kernel
  have label (line : Line) (unconditional : line.condition? = none) :
      checker.checkCommand validateResources labels file line Command.label "start" = [] := by
    apply Checker.checkCommand_eq_nil (catalog ▸ known.1) (.inr (by decide)) (by decide)
      (by decide) (by decide) unconditional
  have last (line : Line) (unconditional : line.condition? = none) :
      checker.checkCommand validateResources labels file line "end" [] = [] := by
    apply Checker.checkCommand_eq_nil (catalog ▸ known.2) (.inl (catalog ▸ nothing)) (by decide)
      (by decide) (by decide) unconditional
  rw [sceneTemplateCommands, List.flatMap_cons, List.flatMap_singleton]
  simp only [Checker.checkLine]
  rw [label _ rfl, last _ rfl, List.append_nil]

theorem unusedLabels_sceneTemplateCommands (file : Text) :
    Checker.unusedLabels file sceneTemplateCommands =
      [{ number := 5, startColumn := 0, endColumn := 12, message := "label unused: start",
         severity := .hint, code := .unusedLabel, file }] := by
  rfl

/-- Whatever a new scene file is named, and whatever exists or is defined, all that is found in it
is that nothing leads to its label yet. The label is the only symbol of the file. -/
theorem sceneTemplate_clean {fileName : Text} (single : '\n' ∉ fileName) (created : CalendarDate)
    (file : Text) (validateResources : Bool) (assetExists : Option (Text → AssetType → Bool))
    (isDefined : Option (Text → Bool)) :
    let document := sceneTemplate fileName created
    let symbols := DocumentSymbols.ofText .builtin file document
    ({ assetExists, isDefined } : Checker).diagnose document file validateResources =
        [{ number := 5, startColumn := 0, endColumn := 12, message := "label unused: start",
           severity := .hint, code := .unusedLabel, file }] ∧
      symbols.labels = [⟨"start", 5, file⟩] ∧ symbols.definitions = [] ∧
      symbols.sceneReferences = [] := by
  have commands := commands_sceneTemplate single created
  have catalog : ({ assetExists, isDefined } : Checker).commands = Catalog.builtin := by
    rw [Checker.commands, Catalog.orBuiltin, size_builtin]
    rfl
  refine ⟨?_, ?_, ?_, ?_⟩
  · rw [Checker.diagnose, ← Checker.diagnoseScript_commands, commands, Checker.diagnoseScript,
      checkLine_sceneTemplateCommands catalog, unusedLabels_sceneTemplateCommands, List.nil_append]
  · rw [DocumentSymbols.ofText, ← Script.labels_commands, commands]
    rfl
  · rw [DocumentSymbols.ofText, ← Script.variableDefinitions_commands, commands]
    rfl
  · rw [DocumentSymbols.ofText, ← Script.sceneReferences_commands, commands]
    rfl

/-- A name that is full of what means something elsewhere. -/
theorem sceneTemplate_clean_marks :
    let fileName : Text := "a/;b: -setVar:x=1|\\\x7b0\x7dlabel:c;.txt"
    '\n' ∉ fileName ∧
      ({} : Checker).diagnose (sceneTemplate fileName ⟨2024, 2, 29⟩) =
        [⟨5, 0, 12, "label unused: start", .hint, .unusedLabel, []⟩] := by
  intro fileName
  have single : '\n' ∉ fileName := by decide
  exact ⟨single, (sceneTemplate_clean single ⟨2024, 2, 29⟩ [] true none none).1⟩

end SceneScript
