import SceneScript.Text.Case
import SceneScript.Text.PrintableTable
import SceneScript.Text.Surrogate

/-! # Quoted text

How a text is shown inside a message: in single quotes, or in double quotes if it holds a single
quote and no double one, with characters that have no glyph escaped.
-/

namespace SceneScript.Text

def isPrintable (c : Char) : Bool := !inRanges unprintableRanges c

def quoteOf (t : Text) : Char := if '\'' ∈ t ∧ '"' ∉ t then '"' else '\''

def escapeChar (quote c : Char) : Text :=
  if c = quote ∨ c = '\\' then ['\\', c]
  else if c = '\n' then "\\n"
  else if c = '\r' then "\\r"
  else if c = '\t' then "\\t"
  else if isHalf c then "\\u" ++ padded 16 4 (unitOf c)
  else if isPrintable c then [c]
  else if c.toNat < 0x100 then "\\x" ++ padded 16 2 c.toNat
  else if c.toNat < 0x10000 then "\\u" ++ padded 16 4 c.toNat
  else "\\U" ++ padded 16 8 c.toNat

def quoted (t : Text) : Text :=
  let quote := quoteOf t
  quote :: t.flatMap (escapeChar quote) ++ [quote]

end SceneScript.Text
