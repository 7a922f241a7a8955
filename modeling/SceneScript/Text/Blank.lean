import SceneScript.Text.Basic

/-! # Blanks

The characters that count as white space in scripts, and the operations that trim or cut at them:

* `isBlank` — membership in the table `blankRanges`;
* `isLineBoundary` — the blanks that end a line;
* `Text.strip` — no blanks at either end;
* `Text.words` — the maximal runs of other characters.
-/

namespace SceneScript

/-- Inclusive ranges of code points: the controls that move the print position, the four
information separators, and the space separators of Unicode. -/
def blankRanges : List (Nat × Nat) :=
  [(0x0009, 0x000D), (0x001C, 0x0020), (0x0085, 0x0085), (0x00A0, 0x00A0), (0x1680, 0x1680),
   (0x2000, 0x200A), (0x2028, 0x2029), (0x202F, 0x202F), (0x205F, 0x205F), (0x3000, 0x3000)]

def isBlank (c : Char) : Bool :=
  blankRanges.any fun (low, high) => low ≤ c.toNat && c.toNat ≤ high

/-- Line feeds and page breaks, the separators of files, groups and records, and the separators of
lines and paragraphs. -/
def isLineBoundary (c : Char) : Bool :=
  ('\n' ≤ c && c ≤ '\r') || ('\x1c' ≤ c && c ≤ '\x1e') || c = '\u0085' || c = '\u2028' ||
    c = '\u2029'

namespace Text

def stripStart (t : Text) : Text := t.dropWhile isBlank

def stripEnd (t : Text) : Text := (t.reverse.dropWhile isBlank).reverse

def strip (t : Text) : Text := stripEnd (stripStart t)

def firstWord (t : Text) : Text := (stripStart t).takeWhile (!isBlank ·)

/-- The maximal runs of characters that are not blank. -/
def words (t : Text) : List Text := runs (!isBlank ·) t

@[simp] theorem strip_nil : strip [] = [] := rfl

end Text

end SceneScript
