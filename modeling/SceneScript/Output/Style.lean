import SceneScript.Output.ColorTable
import SceneScript.Text.Blank
import SceneScript.Text.Case
import SceneScript.Text.Numeral

/-! # Styles

A style is a list of words: emphases, a color, a background, and a link.

* `Style.isColor` — whether a word is a color;
* `Style.ofWords?` — the style of some words;
* `Style.canonicalName` — the one name of a style that has several.
-/

namespace SceneScript

structure Style where
  emphases : List (Text × Bool) := []
  color : Option Text := none
  background : Option Text := none
  link : Option Text := none

namespace Style

def emphasisNames : List (Text × Text) :=
  [("dim", "dim"), ("d", "dim"), ("bold", "bold"), ("b", "bold"), ("italic", "italic"),
   ("i", "italic"), ("underline", "underline"), ("u", "underline"), ("blink", "blink"),
   ("blink2", "blink2"), ("reverse", "reverse"), ("r", "reverse"), ("conceal", "conceal"),
   ("c", "conceal"), ("strike", "strike"), ("s", "strike"), ("underline2", "underline2"),
   ("uu", "underline2"), ("frame", "frame"), ("encircle", "encircle"), ("overline", "overline"),
   ("o", "overline")]

/-- The order in which the emphases of a style are named. -/
def emphasisOrder : List Text :=
  ["bold", "dim", "italic", "underline", "blink", "blink2", "reverse", "conceal", "strike",
   "underline2", "frame", "encircle", "overline"]

/-! ## Colors -/

/-- A part of a color that is given by numbers is no number. -/
structure Fault where
  part : Text
  cause : Text.IntegerFault
  deriving Repr, DecidableEq

def Fault.message (fault : Fault) : Text := fault.cause.message 10 fault.part

def colorNames : List Text := colorNameLines.flatMap fun line => Text.words line.toList

def strongest : Nat := 255

def isHexDigit (c : Char) : Bool := c.isDigit || ('a' ≤ c && c ≤ 'f')

/-- A color given by its red, green and blue parts. -/
def isMixture (parts : Text) : Except Fault Bool :=
  let isNumeral := parts.all fun c => c = ',' || (Text.plainNumeralChar c).isDigit
  match Text.pieces ',' parts with
  | [red, green, blue] =>
    if isNumeral && parts ≠ [] then do
      let values ← [red, green, blue].mapM fun part =>
        (Text.readInteger 10 part).mapError fun cause => ({ part, cause } : Fault)
      return values.all (· ≤ strongest)
    else .ok false
  | _ => .ok false

/-- What stands between an opening and a closing bracket behind a name. -/
def inBrackets? (name word : Text) : Option Text :=
  if Text.startsWith (name ++ ['(']) word && Text.endsWith [')'] word then
    some (Text.dropEnd 1 (word.drop (name.length + 1)))
  else none

def isColor (word : Text) : Except Fault Bool :=
  match inBrackets? "rgb" word with
  | some parts => isMixture parts
  | none =>
    match inBrackets? "color" word with
    | some index =>
      .ok (!index.isEmpty && index.length ≤ 3 && index.all Char.isDigit &&
        Text.numeralValue 10 index ≤ strongest)
    | none =>
      .ok (word = "default" || colorNames.contains word ||
        (Text.startsWith "#" word && word.length = 7 && (word.drop 1).all isHexDigit))

/-! ## Words -/

def ofWords? : List Text → Style → Except Fault (Option Style)
  | [], style => return some style
  | first :: rest, style => do
    let word := Text.lower first
    if word = "on" then
      match rest with
      | color :: rest =>
        let color := Text.lower color
        if ← isColor color then ofWords? rest { style with background := some color }
        else return none
      | [] => return none
    else if word = "not" then
      match rest with
      | name :: rest =>
        match emphasisNames.lookup name with
        | some emphasis =>
          ofWords? rest { style with emphases := (emphasis, false) :: style.emphases }
        | none => return none
      | [] => return none
    else if word = "link" then
      match rest with
      | target :: rest => ofWords? rest { style with link := some target }
      | [] => return none
    else
      match emphasisNames.lookup word with
      | some emphasis =>
        ofWords? rest { style with emphases := (emphasis, true) :: style.emphases }
      | none =>
        if ← isColor word then ofWords? rest { style with color := some word } else return none

def name (style : Style) : Text :=
  let emphases := emphasisOrder.filterMap fun emphasis =>
    (style.emphases.lookup emphasis).map fun isOn =>
      if isOn then emphasis else "not " ++ emphasis
  let words := emphases ++ style.color.toList ++
    (style.background.map fun color => ("on " ++ color : Text)).toList ++
    (style.link.map fun target => ("link " ++ target : Text)).toList
  if words = [] then "none" else Text.join " " words

/-- A style that is not known keeps its name, in lower case. -/
def canonicalName (name : Text) : Except Fault Text := do
  match Text.words name with
  | [] => return "none"
  | ["none"] => return "none"
  | words =>
    match ← ofWords? words {} with
    | some style => return style.name
    | none => return Text.lower (Text.strip name)

end Style

end SceneScript
