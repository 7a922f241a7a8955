import SceneScript.Text.Case
import SceneScript.Text.WidthTable

/-! # The width of a text on a character display

* `cellWidth` — the cells of a character that stands alone;
* `Text.width` — the cells of a text, in which characters may join and become emoji;
* `Text.graphemes` — the parts of a text that a display cannot separate;
* `Text.fit` — a text cut or padded to a number of cells.
-/

namespace SceneScript

def cellWidth (c : Char) : Nat :=
  if c.toNat < 0x20 then 0
  else if c.toNat < 0x7F then 1
  else if inRanges zeroWidthRanges c then 0
  else if inRanges wideRanges c then 2
  else 1

/-- Draws the character behind it into the cells of the one before it. -/
def joiner : Char := '\u200D'

/-- Chooses the emoji form of the character before it. -/
def emojiSelector : Char := '\uFE0F'

def hasEmojiForm (c : Char) : Bool := inRanges emojiFormRanges c

namespace Text

/-- The cells of a text whose first character may be `joined` to what stands before it, and where
`grows` tells whether an emoji selector adds a cell to that. -/
def widthFrom (joined grows : Bool) : Text → Nat
  | [] => 0
  | c :: rest =>
    if joined then widthFrom false grows rest
    else if c = joiner then widthFrom true grows rest
    else if c = emojiSelector then grows.toNat + widthFrom false false rest
    else if cellWidth c = 0 then widthFrom false grows rest
    else cellWidth c + widthFrom false (hasEmojiForm c) rest

def width (t : Text) : Nat := widthFrom false false t

def padRight (cells : Nat) (t : Text) : Text := t ++ List.replicate (cells - width t) ' '

/-- The text between blanks, of which the odd one stands on the right. -/
def center (cells : Nat) (t : Text) : Text :=
  let excess := cells - width t
  List.replicate (excess / 2) ' ' ++ t ++ List.replicate (excess - excess / 2) ' '

/-! ## Graphemes -/

/-- A character with the marks, selectors and joined characters behind it. -/
structure Grapheme where
  text : Text
  cells : Nat
  grows : Bool := false
  deriving Repr, DecidableEq

def Grapheme.ofChar (c : Char) : Grapheme :=
  { text := [c], cells := cellWidth c, grows := hasEmojiForm c }

/-- The grapheme with one more character that takes no cells of its own. -/
def Grapheme.extend (g : Grapheme) (c : Char) : Grapheme :=
  if c = emojiSelector ∧ g.grows then
    { text := g.text ++ [c], cells := g.cells + 1 }
  else { g with text := g.text ++ [c] }

/-- The graphemes of a text that stands behind the grapheme `current`. -/
def graphemesFrom (current : Grapheme) (joined : Bool) : Text → List Grapheme
  | [] => [current]
  | c :: rest =>
    if joined then graphemesFrom { current with text := current.text ++ [c] } false rest
    else if c = joiner then graphemesFrom (current.extend c) true rest
    else if cellWidth c = 0 then graphemesFrom (current.extend c) false rest
    else current :: graphemesFrom (.ofChar c) false rest

def graphemes : Text → List Grapheme
  | [] => []
  | c :: rest => graphemesFrom (.ofChar c) false rest

/-- The graphemes that find room, and a blank in place of half of a wide one. -/
def crop : Nat → List Grapheme → Text
  | _, [] => []
  | 0, _ => []
  | room + 1, g :: rest =>
    if g.cells ≤ room + 1 then g.text ++ crop (room + 1 - g.cells) rest else [' ']

def fit (cells : Nat) (t : Text) : Text :=
  if width t ≤ cells then padRight cells t else crop cells (graphemes t)

/-- Graphemes in lines of at most `cells` cells, of which the first has `used` cells already. -/
def chop (cells : Nat) (line : Text) (used : Nat) : List Grapheme → List Text
  | [] => [line]
  | g :: rest =>
    if used + g.cells ≤ cells then chop cells (line ++ g.text) (used + g.cells) rest
    else line :: chop cells g.text g.cells rest

end Text

end SceneScript
