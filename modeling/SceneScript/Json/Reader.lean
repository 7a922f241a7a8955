import SceneScript.Datum.Basic
import SceneScript.Text.Surrogate

/-! # Reading JSON

The reader accepts the JSON grammar and the three names `NaN`, `Infinity` and `-Infinity`. Of a
repeated key the last value counts.

* `Json.Fault` — why a document is refused; of several faults the first one counts;
* `Json.readNumber`, `Json.readString` — the scalars;
* `Json.parse` — a document with nothing after it but blanks.
-/

namespace SceneScript.Json

inductive Fault where
  | malformed
  | longNumeral (digits : Nat)
  | tooDeep (isMapping : Bool)
  deriving Repr, DecidableEq

def Fault.message : Fault → Text
  | .malformed => "The configuration is not valid JSON"
  | .longNumeral digits => Text.tooLongNumeral digits
  | .tooDeep isMapping =>
    "maximum recursion depth exceeded while decoding a JSON " ++
      (if isMapping then "object" else "array") ++ " from a unicode string"

abbrev Reader (α : Type) := Text → Except Fault (α × Text)

def isBlank (c : Char) : Bool := c = ' ' || c = '\t' || c = '\n' || c = '\r'

def skipBlanks (t : Text) : Text := t.dropWhile isBlank

/-! ## Numbers -/

/-- The integer part has no leading zero. -/
def readWhole : Reader Text := fun t =>
  match t with
  | '0' :: rest => .ok (['0'], rest)
  | _ =>
    match t.takeWhile Char.isDigit with
    | [] => .error .malformed
    | digits => .ok (digits, t.dropWhile Char.isDigit)

/-- The digits after a point, or none where no point is followed by a digit. -/
def readFraction : Text → Option Text × Text
  | '.' :: rest =>
    match rest.takeWhile Char.isDigit with
    | [] => (none, '.' :: rest)
    | digits => (some digits, rest.dropWhile Char.isDigit)
  | t => (none, t)

def readExponent (t : Text) : Option Int × Text :=
  match t with
  | c :: rest =>
    if c = 'e' ∨ c = 'E' then
      let (negative, tail) := Text.splitSign rest
      match Text.splitDigits tail with
      | ([], _) => (none, t)
      | (digits, tail) =>
        (some (Text.applySign negative (Text.numeralValue 10 digits)), tail)
    else (none, t)
  | [] => (none, [])

/-- A number with a fraction or an exponent is a float. -/
def readUnsigned (negative : Bool) : Reader Datum := fun t => do
  let (whole, t) ← readWhole t
  let (fraction, t) := readFraction t
  let (exponent, t) := readExponent t
  if fraction.isSome ∨ exponent.isSome then
    return (.float (floatOfParts negative whole (fraction.getD []) (exponent.getD 0)), t)
  else if Text.longestNumeral < whole.length then throw (.longNumeral whole.length)
  else return (.int (Text.applySign negative (Text.numeralValue 10 whole)), t)

/-- The rest of a text that starts with `word`. -/
def afterWord? (word t : Text) : Option Text :=
  if Text.startsWith word t then some (t.drop word.length) else none

def readNumber : Reader Datum := fun t =>
  match t with
  | '-' :: rest =>
    match afterWord? "Infinity" rest with
    | some rest => .ok (.float (-infinity), rest)
    | none => readUnsigned true rest
  | _ => readUnsigned false t

/-! ## Strings -/

/-- A number of exactly `count` hexadecimal digits. -/
def readHex (count : Nat) : Reader Nat := fun t =>
  let digits := t.take count
  if digits.length = count ∧ digits.all (isDigitOf 16) then
    .ok (Text.numeralValue 16 digits, t.drop count)
  else .error .malformed

def isHighSurrogate (n : Nat) : Bool := 0xD800 ≤ n && n < 0xDC00

def isLowSurrogate (n : Nat) : Bool := 0xDC00 ≤ n && n < 0xE000

/-- The character of one escaped unit, or of two that form a surrogate pair; half of a pair may
stand alone. -/
def readUnit : Reader Char := fun t => do
  let (high, rest) ← readHex 4 t
  let alone := charOfUnit high
  match isHighSurrogate high, rest with
  | true, '\\' :: 'u' :: after =>
    let (low, after) ← readHex 4 after
    if isLowSurrogate low then
      return (Char.ofNat (0x10000 + (high - 0xD800) * 0x400 + (low - 0xDC00)), after)
    else return (alone, rest)
  | _, _ => return (alone, rest)

def escapes : List (Char × Char) :=
  [('"', '"'), ('\\', '\\'), ('/', '/'), ('b', '\x08'), ('f', '\x0c'), ('n', '\n'), ('r', '\r'),
   ('t', '\t')]

/-- The characters up to the closing quote; control characters are refused. -/
def readString : Nat → Reader Text
  | 0, _ => .error .malformed
  | _ + 1, [] => .error .malformed
  | _ + 1, '"' :: rest => .ok ([], rest)
  | fuel + 1, '\\' :: 'u' :: rest => do
    let (c, rest) ← readUnit rest
    let (text, rest) ← readString fuel rest
    return (c :: text, rest)
  | fuel + 1, '\\' :: mark :: rest =>
    match escapes.lookup mark with
    | none => .error .malformed
    | some c => do
      let (text, rest) ← readString fuel rest
      return (c :: text, rest)
  | fuel + 1, c :: rest =>
    if c = '\\' ∨ c.toNat < 0x20 then .error .malformed
    else do
      let (text, rest) ← readString fuel rest
      return (c :: text, rest)

/-! ## Values -/

/-- How deep lists and mappings may stand in each other. -/
def deepestNesting : Nat := 985

/-- The rest after a closing mark that follows at once. -/
def afterMark? (mark : Char) (t : Text) : Option Text :=
  match skipBlanks t with
  | c :: rest => if c = mark then some rest else none
  | [] => none

mutual

/-- A value at the start of the text, inside `depth` lists and mappings. -/
def readValue : Nat → Nat → Reader Datum
  | 0, _, _ => .error .malformed
  | fuel + 1, depth, t =>
    match t with
    | '"' :: rest => do
      let (text, rest) ← readString (rest.length + 1) rest
      return (.text text, rest)
    | '[' :: rest =>
      if deepestNesting ≤ depth then .error (.tooDeep false)
      else
        match afterMark? ']' rest with
        | some rest => .ok (.list [], rest)
        | none => do
          let (items, rest) ← readItems fuel (depth + 1) (skipBlanks rest)
          return (.list items, rest)
    | '\x7b' :: rest =>
      if deepestNesting ≤ depth then .error (.tooDeep true)
      else
        match afterMark? '\x7d' rest with
        | some rest => .ok (.mapping [], rest)
        | none => do
          let (entries, rest) ← readEntries fuel (depth + 1) [] (skipBlanks rest)
          return (.mapping entries, rest)
    | _ =>
      match afterWord? "null" t, afterWord? "true" t, afterWord? "false" t,
        afterWord? "NaN" t, afterWord? "Infinity" t with
      | some rest, _, _, _, _ => .ok (.null, rest)
      | _, some rest, _, _, _ => .ok (.bool true, rest)
      | _, _, some rest, _, _ => .ok (.bool false, rest)
      | _, _, _, some rest, _ => .ok (.float notANumber, rest)
      | _, _, _, _, some rest => .ok (.float infinity, rest)
      | _, _, _, _, _ => readNumber t

/-- At least one item and the closing bracket. -/
def readItems : Nat → Nat → Reader (List Datum)
  | 0, _, _ => .error .malformed
  | fuel + 1, depth, t => do
    let (item, t) ← readValue fuel depth t
    match skipBlanks t with
    | ']' :: rest => return ([item], rest)
    | ',' :: rest =>
      let (items, rest) ← readItems fuel depth (skipBlanks rest)
      return (item :: items, rest)
    | _ => throw .malformed

/-- At least one entry and the closing brace, after the entries read so far. -/
def readEntries : Nat → Nat → List (Scalar × Datum) → Reader (List (Scalar × Datum))
  | 0, _, _, _ => .error .malformed
  | fuel + 1, depth, entries, t =>
    match t with
    | '"' :: t => do
      let (key, t) ← readString (t.length + 1) t
      match skipBlanks t with
      | ':' :: t =>
        let (value, t) ← readValue fuel depth (skipBlanks t)
        let entries := Scalar.putIn (.text key) value entries
        match skipBlanks t with
        | '\x7d' :: rest => return (entries, rest)
        | ',' :: rest => readEntries fuel depth entries (skipBlanks rest)
        | _ => throw .malformed
      | _ => throw .malformed
    | _ => .error .malformed

end

def parse (t : Text) : Except Fault Datum := do
  let (value, rest) ← readValue (2 * t.length + 2) 0 (skipBlanks t)
  if skipBlanks rest = [] then return value else throw .malformed

end SceneScript.Json
