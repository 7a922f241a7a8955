import SceneScript.Text.Basic

/-! # Halves of surrogate pairs

Escapes in configuration files can name one half of a surrogate pair, for which there is no
character. Such a half is kept as a character of its own in a plane that holds no characters.

* `surrogateRange` — the code points of the halves;
* `charOfUnit`, `unitOf` — from a code point to the character that stands for it, and back;
* `Text.isWhole` — whether a text holds characters only.
-/

namespace SceneScript

/-- First the halves that open a pair, then those that close it. -/
def surrogateRange : Nat × Nat := (0xD800, 0xDFFF)

/-- What is added to the code point of a half. -/
def surrogateShift : Nat := 0xD0000

def isSurrogate (n : Nat) : Bool := surrogateRange.1 ≤ n && n ≤ surrogateRange.2

def charOfUnit (n : Nat) : Char := Char.ofNat (if isSurrogate n then n + surrogateShift else n)

/-- Whether a character stands for a half. -/
def isHalf (c : Char) : Bool := isSurrogate (c.toNat - surrogateShift)

def unitOf (c : Char) : Nat := if isHalf c then c.toNat - surrogateShift else c.toNat

namespace Text

/-- A text without halves of pairs can be encoded. -/
def isWhole (t : Text) : Bool := !t.any isHalf

end Text

end SceneScript
