import SceneScript.Text.Case

/-! # Encodings of text

* `Encoding.named?` — the encoding that a name stands for;
* `Encoding.decode?` — the text of some bytes.
-/

namespace SceneScript

inductive Encoding where
  | utf8
  | latin1
  | ascii
  deriving Repr, DecidableEq

namespace Encoding

def names : List (Encoding × List Text) :=
  [(.utf8, ["utf_8", "utf8", "utf", "u8", "cp65001", "utf_8_sig"]),
   (.latin1, ["latin_1", "latin1", "latin", "l1", "iso_8859_1", "iso8859_1", "iso8859", "8859",
     "cp819", "ibm819"]),
   (.ascii, ["ascii", "us_ascii", "us", "646"])]

/-- In a name neither case nor the kind of separator counts. -/
def named? (name : Text) : Option Encoding :=
  let plain := (Text.lower name).map fun c => if c.isAlphanum then c else '_'
  (names.find? fun (_, known) => known.contains plain).map (·.1)

def decode? (encoding : Encoding) (bytes : List UInt8) : Option Text :=
  match encoding with
  | .utf8 => (String.fromUTF8? ⟨bytes.toArray⟩).map (·.toList)
  | .latin1 => some (bytes.map fun b => Char.ofNat b.toNat)
  | .ascii =>
    if bytes.all (· < 0x80) then some (bytes.map fun b => Char.ofNat b.toNat) else none

end Encoding

end SceneScript
