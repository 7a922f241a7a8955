import SceneScript.Output.EmojiTable
import SceneScript.Text.Blank
import SceneScript.Text.Case

/-! # Emoji by name

A name between colons stands for an emoji. A hyphen and a word before the second colon ask for the
form that looks like text or for the one in color.

* `Emoji.named?` — the emoji of a name, in any letter case;
* `Emoji.expand` — a text with its emoji in place of their names.
-/

namespace SceneScript.Emoji

def pairs : List Text → List (Text × Text)
  | name :: characters :: rest => (name, characters) :: pairs rest
  | _ => []

def table : List (Text × Text) := pairs (Text.words namesAndCharacters.toList)

def named? (name : Text) : Option Text := table.lookup (Text.lower name)

/-- The words that ask for a form, each with the character that selects it. -/
def forms : List (Text × Char) := [("-emoji", '\ufe0f'), ("-text", '\ufe0e')]

/-- The emoji that stands for what is between two colons, if there is one. -/
def between? (inside : Text) : Option Text :=
  match forms.find? fun (suffix, _) => Text.endsWith suffix inside with
  | some (suffix, selector) =>
    (named? (Text.dropEnd suffix.length inside)).map (· ++ [selector])
  | none => named? inside

/-- What is between colons has no blank; `inside` is what stands since the last colon that may
open a name, last character first. -/
def expandFrom (inside : Option Text) : Text → Text
  | [] => inside.elim [] fun inside => ':' :: inside.reverse
  | c :: rest =>
    match inside with
    | none => if c = ':' then expandFrom (some []) rest else c :: expandFrom none rest
    | some inside =>
      if c = ':' then
        (between? inside.reverse).getD (':' :: inside.reverse ++ [':']) ++ expandFrom none rest
      else if isBlank c then ':' :: inside.reverse ++ c :: expandFrom none rest
      else expandFrom (some (c :: inside)) rest

def expand (t : Text) : Text := expandFrom none t

end SceneScript.Emoji
