import SceneScript.Expression
import SceneScript.Line.Parser

/-! # Symbols of a script

What the lines of one script define and refer to.

* `ChooseOption.ofContent` — the options of a choice;
* `Script.labels`, `Script.variableDefinitions`, `Script.sceneReferences`, `Script.characters`;
* `Script.labelDefinitions`, `Script.labelReferences` — the sites of one label;
* `DocumentSymbols.ofText` — all of them from one reading.
-/

namespace SceneScript

/-! ## Choices -/

structure ChooseOption where
  text : Text
  target : Option Text
  deriving Repr, DecidableEq

namespace ChooseOption

/-- An option without a second segment, or with a blank one, leads nowhere. -/
def ofText (option : Text) : ChooseOption :=
  match Text.pieces ':' option with
  | text :: target :: _ =>
    let target := Text.strip target
    ⟨Text.strip text, if target = [] then none else some target⟩
  | text :: [] => ⟨Text.strip text, none⟩
  | [] => ⟨[], none⟩

def ofContent (content : Text) : List ChooseOption :=
  (Text.pieces '|' content).map ofText

end ChooseOption

/-! ## Definitions and references -/

structure Label where
  name : Text
  number : Int
  file : Text
  deriving Repr, DecidableEq

structure VariableDefinition where
  name : Text
  value : Text
  number : Int
  file : Text
  deriving Repr, DecidableEq

/-- How a scene is entered: for good, or until it ends. -/
inductive SceneEntry where
  | change
  | call
  deriving Repr, DecidableEq

structure SceneReference where
  scene : Text
  entry : SceneEntry
  number : Int
  condition : Option Text
  deriving Repr, DecidableEq

/-- The commands that define or refer to symbols. -/
def Command.label : Text := "label"
def Command.jumpLabel : Text := "jumpLabel"
def Command.choose : Text := "choose"
def Command.setVar : Text := "setVar"
def Command.changeScene : Text := "changeScene"
def Command.callScene : Text := "callScene"

def SceneEntry.command : SceneEntry → Text
  | .change => Command.changeScene
  | .call => Command.callScene

namespace Line

def label? (line : Line) : Option Text :=
  match line.commandNamed? Command.label with
  | some (c :: rest) => some (c :: rest)
  | _ => none

def assignment? (line : Line) : Option Assignment :=
  (line.commandNamed? Command.setVar).bind Assignment.ofText?

/-- Only a call keeps its condition. -/
def sceneReference? (line : Line) : Option SceneReference :=
  match line.statement with
  | .command name content arguments =>
    if content = [] then none
    else if name = Command.changeScene then some ⟨content, .change, line.number, none⟩
    else if name = Command.callScene then
      some ⟨content, .call, line.number, arguments.get? conditionKey⟩
    else none
  | _ => none

/-- A jump or an option of a choice leads to the label. -/
def refersToLabel (name : Text) (line : Line) : Bool :=
  line.commandNamed? Command.jumpLabel = some name ||
    ((line.commandNamed? Command.choose).map ChooseOption.ofContent |>.getD []).any
      (·.target = some name)

end Line

namespace Script

def labels (file : Text) (script : Script) : List Label :=
  script.filterMap fun line => line.label?.map (⟨·, line.number, file⟩)

def variableDefinitions (file : Text) (script : Script) : List VariableDefinition :=
  script.filterMap fun line =>
    line.assignment?.map fun a => ⟨a.name, a.value, line.number, file⟩

def sceneReferences (script : Script) : List SceneReference :=
  script.filterMap Line.sceneReference?

/-- The distinct names of those who speak. -/
def characters (script : Script) : List Text :=
  firstOccurrences (script.filterMap (·.statement.speaker?))

def labelDefinitions (file name : Text) (script : Script) : List Label :=
  (script.labels file).filter (·.name = name)

def labelReferences (name : Text) (script : Script) : Script :=
  script.filter (Line.refersToLabel name)

end Script

structure DocumentSymbols where
  file : Text
  lines : Script
  labels : List Label
  definitions : List VariableDefinition
  sceneReferences : List SceneReference
  characters : List Text
  deriving Repr, DecidableEq

namespace DocumentSymbols

def ofText (vocabulary : Vocabulary) (file document : Text) : DocumentSymbols :=
  let lines := Script.parse vocabulary document
  { file, lines
    labels := lines.labels file
    definitions := lines.variableDefinitions file
    sceneReferences := lines.sceneReferences
    characters := lines.characters }

def labelNames (symbols : DocumentSymbols) : List Text :=
  firstOccurrences (symbols.labels.map (·.name))

end DocumentSymbols

end SceneScript
