import SceneScript.Line.Arguments

/-! # Lines

A script is a list of lines, and every line is one statement: nothing, a comment, a command from
the vocabulary, or a piece of dialogue (narration when nobody speaks).

* `Statement`, `Line` — the records;
* `Line.commandNamed?` — the content of a line that is a given command;
* `Line.condition?` — the value of its `when` argument.
-/

namespace SceneScript

inductive Statement where
  | blank
  | comment (content : Text)
  | command (name content : Text) (arguments : Arguments)
  | dialogue (speaker : Option Text) (content : Text) (arguments : Arguments)
  deriving Repr, DecidableEq

/-- The first line of a script has number zero; a line on its own may have any number. -/
structure Line where
  number : Int
  raw : Text
  statement : Statement
  deriving Repr, DecidableEq

/-- The names that make a line a command. -/
abbrev Vocabulary := List Text

abbrev Script := List Line

namespace Statement

def arguments : Statement → Arguments
  | .command _ _ arguments => arguments
  | .dialogue _ _ arguments => arguments
  | _ => ∅

def isCommand : Statement → Bool
  | .command .. => true
  | _ => false

def speaker? : Statement → Option Text
  | .dialogue speaker _ _ => speaker
  | _ => none

end Statement

namespace Line

def arguments (line : Line) : Arguments := line.statement.arguments

/-- The content of `line` if it is the command `name`. -/
def commandNamed? (name : Text) (line : Line) : Option Text :=
  match line.statement with
  | .command command content _ => if command = name then some content else none
  | _ => none

/-- The key of the argument that holds a condition. -/
def conditionKey : Text := "when"

def condition? (line : Line) : Option Text := line.arguments.get? conditionKey

@[simp] theorem commandNamed?_command {number : Int} {raw name other content : Text}
    {arguments : Arguments} :
    commandNamed? name ⟨number, raw, .command other content arguments⟩ =
      if other = name then some content else none := rfl

end Line

end SceneScript
