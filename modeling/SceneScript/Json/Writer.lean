import SceneScript.Datum.Basic
import SceneScript.Text.Surrogate

/-! # Writing JSON

Structured output is indented by two spaces and keeps to printable ASCII characters.

* `Json.quoted` — a text with everything else escaped;
* `Json.scalar`, `Json.key` — the scalars, as values and as keys;
* `Json.render`, `Json.compact` — a whole value, on many lines or on one.
-/

namespace SceneScript.Json

def escapedUnit (n : Nat) : Text := "\\u" ++ Text.padded 16 4 n

/-- A character beyond sixteen bits is escaped as a surrogate pair. -/
def escapedChar (c : Char) : Text :=
  match c with
  | '"' => "\\\""
  | '\\' => "\\\\"
  | '\n' => "\\n"
  | '\r' => "\\r"
  | '\t' => "\\t"
  | '\x08' => "\\b"
  | '\x0c' => "\\f"
  | _ =>
    let n := unitOf c
    if 0x20 ≤ n ∧ n < 0x7f then [c]
    else if n < 0x10000 then escapedUnit n
    else
      escapedUnit (0xD800 + (n - 0x10000) / 0x400) ++ escapedUnit (0xDC00 + (n - 0x10000) % 0x400)

def quoted (t : Text) : Text := '"' :: t.flatMap escapedChar ++ ['"']

def numerals : NumeralStyle := ⟨"Infinity", "NaN"⟩

def scalar : Scalar → Text
  | .null => "null"
  | .bool true => "true"
  | .bool false => "false"
  | .int n => Text.ofInt n
  | .float x => floatNumeral numerals x
  | .text t => quoted t
  | .date _ | .time _ | .timestamp _ _ _ | .bytes _ => "null"

/-- Keys are always texts. -/
def key : Scalar → Text
  | .text t => quoted t
  | other => quoted (scalar other)

def newline (depth : Nat) : Text := '\n' :: List.replicate (2 * depth) ' '

def bracketed (left right : Char) (depth : Nat) (parts : List Text) : Text :=
  if parts = [] then [left, right]
  else
    left :: newline (depth + 1) ++ Text.join (',' :: newline (depth + 1)) parts ++
      newline depth ++ [right]

mutual

def renderAt (depth : Nat) : Datum → Text
  | .scalar value => scalar value
  | .list items | .tuple items => bracketed '[' ']' depth (renderItems (depth + 1) items)
  | .mapping entries => bracketed '\x7b' '\x7d' depth (renderEntries (depth + 1) entries)
  | .set members => bracketed '[' ']' depth (members.map scalar)
  | .again _ => scalar .null

def renderItems (depth : Nat) : List Datum → List Text
  | [] => []
  | item :: rest => renderAt depth item :: renderItems depth rest

def renderEntries (depth : Nat) : List (Scalar × Datum) → List Text
  | [] => []
  | (k, value) :: rest => (key k ++ ": " ++ renderAt depth value) :: renderEntries depth rest

end

def render (value : Datum) : Text := renderAt 0 value

mutual

def compact : Datum → Text
  | .scalar value => scalar value
  | .list items | .tuple items => '[' :: Text.join ", " (compactItems items) ++ [']']
  | .mapping entries => '\x7b' :: Text.join ", " (compactEntries entries) ++ ['\x7d']
  | .set members => '[' :: Text.join ", " (members.map scalar) ++ [']']
  | .again _ => scalar .null

def compactItems : List Datum → List Text
  | [] => []
  | item :: rest => compact item :: compactItems rest

def compactEntries : List (Scalar × Datum) → List Text
  | [] => []
  | (k, value) :: rest => (key k ++ ": " ++ compact value) :: compactEntries rest

end

end SceneScript.Json
