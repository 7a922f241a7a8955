import SceneScript.Output.Markup
import SceneScript.Text.Width

/-! # Console lines

What a character display without styles shows of a marked-up text.

* `Console.expandTabs` — tabs become blanks up to the next multiple of eight;
* `Console.wrap` — lines of a given width, broken between words where possible;
* `Console.measure` — the width that a text asks for;
* `Console.lines` — the lines of a marked-up text.
-/

namespace SceneScript.Console

def tabSize : Nat := 8

/-- Parts between tabs, the first of which starts at a column. Each tab is at least one blank. -/
def expandTabsFrom (column : Nat) : List Text → Text
  | [] => []
  | [last] => last
  | part :: rest =>
    let part := part ++ [' ']
    let column := column + Text.width part
    let blanks := (tabSize - column % tabSize) % tabSize
    part ++ List.replicate blanks ' ' ++ expandTabsFrom (column + blanks) rest

def expandTabs (line : Text) : Text := expandTabsFrom 0 (Text.pieces '\t' line)

/-! ## Wrapping -/

/-- What becomes of a word that is wider than a line. -/
inductive Overflow where
  /-- The word goes on in further lines. -/
  | fold
  /-- The word is cut, and a mark shows it. -/
  | ellipsis
  deriving Repr, DecidableEq

/-- A line that is wider than it may be, cut. -/
def Overflow.crop (overflow : Overflow) (width : Nat) (line : Text) : Text :=
  if Text.width line ≤ width then line
  else
    match overflow with
    | .fold => Text.fit width line
    | .ellipsis => Text.fit (width - 1) line ++ ['…']

/-- A word with the blanks after it, and before it at the start of a line, and the rest. -/
def nextWord (t : Text) : Text × Text :=
  let blanks := t.takeWhile isBlank
  let t := t.dropWhile isBlank
  let word := t.takeWhile (!isBlank ·)
  let t := t.dropWhile (!isBlank ·)
  (blanks ++ word ++ t.takeWhile isBlank, t.dropWhile isBlank)

def wordsWithBlanks : Nat → Text → List Text
  | 0, _ => []
  | fuel + 1, t =>
    if t.all isBlank then if t = [] then [] else [t]
    else
      let (word, rest) := nextWord t
      word :: wordsWithBlanks fuel rest

/-- Adds words to a line of which `used` cells are taken, and to further lines. -/
def fill (overflow : Overflow) (width : Nat) (line : Text) (used : Nat) : List Text → List Text
  | [] => [line]
  | word :: rest =>
    let bare := Text.width (Text.stripEnd word)
    if used + bare ≤ width then
      fill overflow width (line ++ word) (used + Text.width word) rest
    else
      let finished := if line = [] then [] else [line]
      if width < bare ∧ overflow = .fold then
        let pieces := Text.chop width [] 0 (Text.graphemes word)
        let last := pieces.getLast?.getD []
        finished ++ pieces.dropLast ++ fill overflow width last (Text.width last) rest
      else finished ++ fill overflow width word (Text.width word) rest

/-- The line without those blanks at its end that make it longer than a number of characters. -/
def trimEnd (length : Nat) (line : Text) : Text :=
  let blanks := (line.reverse.takeWhile isBlank).length
  line.take (line.length - min blanks (line.length - length))

/-- The lines of a text, none wider than `width`. -/
def wrap (overflow : Overflow) (width : Nat) (t : Text) : List Text :=
  (Text.pieces '\n' t).flatMap fun line =>
    let line := expandTabs line
    (fill overflow width [] 0 (wordsWithBlanks (line.length + 1) line)).map fun line =>
      overflow.crop width (trimEnd width line)

/-- The width that a text asks for. A line ends at every line boundary here, and tabs take no
room. -/
def measure (t : Text) : Nat := ((Text.splitWhere isLineBoundary t).map Text.width).foldl max 0

/-! ## Lines of a display -/

def displayWidth : Nat := 4000

def lines (markup : Text) : Except Markup.Fault (List Text) :=
  (Markup.plain markup).map (wrap .fold displayWidth)

/-- The text as it is shown, each line ended. -/
def show? (markup : Text) : Except Markup.Fault Text :=
  (lines markup).map fun ls => ls.flatMap (· ++ ['\n'])

end SceneScript.Console
