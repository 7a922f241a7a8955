import SceneScript.Catalog.Asset
import SceneScript.Catalog.Builtin
import SceneScript.Diagnostic.Basic
import SceneScript.Index.Basic

/-! # Checking a script

Every command line is checked against the catalog, the labels of its script, the assets and the
defined variables; then every label that nothing leads to is reported.

* `Checker` — what a script is checked against;
* `Checker.checkCommand` — the findings on one command line;
* `Checker.diagnose` — those of all lines in order, then the unused labels.
-/

namespace SceneScript

structure Checker where
  catalog : Catalog := .builtin
  vocabulary : Vocabulary := .builtin
  /-- Which assets exist; without it no asset is missed. -/
  assetExists : Option (Text → AssetType → Bool) := none
  /-- Which variables are defined; without it no variable is missed. -/
  isDefined : Option (Text → Bool) := none

namespace Checker

/-- The commands that count as known: a catalog that lists nothing stands for the built-in one. -/
def commands (checker : Checker) : Catalog := checker.catalog.orBuiltin

/-- The content that clears an asset slot instead of naming a file. -/
def emptySlot : Text := "none"

def undefinedVariables (checker : Checker) (expression : Text) : List Text :=
  match checker.isDefined with
  | none => []
  | some isDefined => (distinctIdentifiers expression).filter (!isDefined ·)

def missingParameter? (checker : Checker) (command content : Text) : Option Finding :=
  match checker.commands.requiredInContent command with
  | [] => none
  | parameter :: _ =>
    if Text.strip content = [] then some (.missingParameter parameter) else none

def missingResource? (checker : Checker) (validateResources : Bool) (command content : Text) :
    Option Finding :=
  match checker.assetExists, assetTypeOfCommand? command with
  | some stored, some type =>
    if validateResources && content ≠ [] && content ≠ emptySlot && !stored content type then
      some (.resourceNotFound content)
    else none
  | _, _ => none

def undefinedJump? (labels : List Text) (command content : Text) : Option Finding :=
  if command = Command.jumpLabel && content ≠ [] && !labels.contains content then
    some (.undefinedLabel content)
  else none

def undefinedTargets (labels : List Text) (command content : Text) : List Finding :=
  if command = Command.choose then
    (ChooseOption.ofContent content).filterMap fun option =>
      option.target.bind fun target =>
        if labels.contains target then none else some (.undefinedLabel target)
  else []

def undefinedCondition? (checker : Checker) (line : Line) : Option Finding :=
  match checker.undefinedVariables (line.condition?.getD []) with
  | [] => none
  | names => some (.undefinedVariables names)

def checkCommand (checker : Checker) (validateResources : Bool) (labels : List Text) (file : Text)
    (line : Line) (command content : Text) : List Diagnostic :=
  let whole := line.wholeSpan
  let inContent := line.contentSpan content.length
  if checker.commands.contains command then
    ((checker.missingParameter? command content).map (·.on file line whole)).toList ++
    ((checker.missingResource? validateResources command content).map
      (·.on file line inContent)).toList ++
    ((undefinedJump? labels command content).map (·.on file line inContent)).toList ++
    (undefinedTargets labels command content).map (·.on file line whole) ++
    ((checker.undefinedCondition? line).map (·.on file line whole)).toList
  else [(Finding.unknownCommand command).on file line (0, command.length)]

def checkLine (checker : Checker) (validateResources : Bool) (labels : List Text) (file : Text)
    (line : Line) : List Diagnostic :=
  match line.statement with
  | .command command content _ =>
    checker.checkCommand validateResources labels file line command content
  | _ => []

def unusedLabels (file : Text) (script : Script) : List Diagnostic :=
  script.filterMap fun line =>
    line.label?.bind fun name =>
      if script.any (Line.refersToLabel name) then none
      else some ((Finding.unusedLabel name).on file line line.wholeSpan)

def diagnoseScript (checker : Checker) (validateResources : Bool) (file : Text)
    (script : Script) : List Diagnostic :=
  let labels := (script.labels file).map (·.name)
  script.flatMap (checker.checkLine validateResources labels file) ++ unusedLabels file script

def diagnose (checker : Checker) (text : Text) (file : Text := [])
    (validateResources : Bool := true) : List Diagnostic :=
  checker.diagnoseScript validateResources file (Script.parse checker.vocabulary text)

end Checker

end SceneScript
