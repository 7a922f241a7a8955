import SceneScript.Datum.Basic

/-! # TOML values

The values that stand on the right of an equals sign. Every reader returns what it read and the
rest of the text.

* `Toml.Fault` — why a document is refused; of several faults the first one counts;
* `Toml.readKey?` — a key, which may have several parts;
* `Toml.readNumber`, `Toml.readMoment?`, `Toml.readText?` — scalars;
* `Toml.insertAt?` — a value under a key of several parts;
* `Toml.readValue` — any value.
-/

namespace SceneScript.Toml

inductive Fault where
  | malformed
  | longNumeral (digits : Nat)
  | tooDeep
  deriving Repr, DecidableEq

def Fault.message : Fault → Text
  | .malformed => "The configuration is not valid TOML"
  | .longNumeral digits => Text.tooLongNumeral digits
  | .tooDeep => "maximum recursion depth exceeded"

/-- What cannot be read is malformed. -/
def orMalformed {α : Type} : Option α → Except Fault α
  | some a => .ok a
  | none => .error .malformed

abbrev Reader (α : Type) := Text → Option (α × Text)

/-- A reader that says what is wrong. -/
abbrev Checker (α : Type) := Text → Except Fault (α × Text)

abbrev Key := List Text

abbrev Entries := List (Scalar × Datum)

def isBlank (c : Char) : Bool := c = ' ' || c = '\t'

def skipBlanks (t : Text) : Text := t.dropWhile isBlank

def isControl (c : Char) : Bool := c.toNat < 0x20 || c.toNat = 0x7f

/-! ## Texts -/

def escapes : List (Char × Char) :=
  [('b', '\x08'), ('t', '\t'), ('n', '\n'), ('f', '\x0c'), ('r', '\r'), ('"', '"'), ('\\', '\\')]

def readScalarValue? (count : Nat) : Reader Char := fun t =>
  let digits := t.take count
  let code := Text.numeralValue 16 digits
  if digits.length = count ∧ digits.all (isDigitOf 16) ∧ code.isValidChar then
    some (Char.ofNat code, t.drop count)
  else none

/-- A backslash at the end of a line of a long text joins it to the next text that is not blank. -/
def joinLine? (t : Text) : Option Text :=
  match skipBlanks t with
  | '\n' :: rest => some (rest.dropWhile fun c => isBlank c || c = '\n')
  | [] => some []
  | _ => none

/-- What follows a backslash. -/
def readEscape? (long : Bool) : Reader Text
  | 'u' :: rest => (readScalarValue? 4 rest).map fun (c, rest) => ([c], rest)
  | 'U' :: rest => (readScalarValue? 8 rest).map fun (c, rest) => ([c], rest)
  | c :: rest =>
    match escapes.lookup c with
    | some escaped => some ([escaped], rest)
    | none =>
      if long && (isBlank c || c = '\n') then (joinLine? (c :: rest)).map ([], ·) else none
  | [] => none

/-- The characters that may stand for themselves in a text. -/
def isPlain (long : Bool) (c : Char) : Bool := !isControl c || c = '\t' || (long && c = '\n')

/-- A text up to the closing quote on the same line. -/
def readQuoted? : Nat → Reader Text
  | 0, _ => none
  | fuel + 1, t =>
    match t with
    | '"' :: rest => some ([], rest)
    | '\\' :: rest => do
      let (escaped, rest) ← readEscape? false rest
      let (text, rest) ← readQuoted? fuel rest
      return (escaped ++ text, rest)
    | c :: rest =>
      if isPlain false c then (readQuoted? fuel rest).map fun (text, rest) => (c :: text, rest)
      else none
    | [] => none

def readLiteral? : Reader Text
  | '\'' :: rest => some ([], rest)
  | c :: rest =>
    if isPlain false c then (readLiteral? rest).map fun (text, rest) => (c :: text, rest) else none
  | [] => none

/-- Up to two more quotes belong to a long text. -/
def closeLong (quote : Char) : Text → Text × Text
  | a :: b :: rest =>
    if a = quote then if b = quote then ([quote, quote], rest) else ([quote], b :: rest)
    else ([], a :: b :: rest)
  | [a] => if a = quote then ([quote], []) else ([], [a])
  | [] => ([], [])

def readLongQuoted? : Nat → Reader Text
  | 0, _ => none
  | fuel + 1, t =>
    match t with
    | '"' :: '"' :: '"' :: rest => some (closeLong '"' rest)
    | '\\' :: rest => do
      let (escaped, rest) ← readEscape? true rest
      let (text, rest) ← readLongQuoted? fuel rest
      return (escaped ++ text, rest)
    | c :: rest =>
      if isPlain true c then (readLongQuoted? fuel rest).map fun (text, rest) => (c :: text, rest)
      else none
    | [] => none

def readLongLiteral? : Reader Text
  | '\'' :: '\'' :: '\'' :: rest => some (closeLong '\'' rest)
  | c :: rest =>
    if isPlain true c then (readLongLiteral? rest).map fun (text, rest) => (c :: text, rest)
    else none
  | [] => none

/-- A line feed right after the opening quotes of a long text does not count. -/
def dropLineFeed : Text → Text
  | '\n' :: rest => rest
  | t => t

/-- A text in any of its four notations. -/
def readText? : Reader Text
  | '"' :: '"' :: '"' :: rest => readLongQuoted? (rest.length + 1) (dropLineFeed rest)
  | '\'' :: '\'' :: '\'' :: rest => readLongLiteral? (dropLineFeed rest)
  | '"' :: rest => readQuoted? (rest.length + 1) rest
  | '\'' :: rest => readLiteral? rest
  | _ => none

/-! ## Keys -/

def isBare (c : Char) : Bool := c.isAlphanum || c = '_' || c = '-'

def readKeyPart? : Reader Text
  | '"' :: rest => readQuoted? (rest.length + 1) rest
  | '\'' :: rest => readLiteral? rest
  | t =>
    match t.takeWhile isBare with
    | [] => none
    | bare => some (bare, t.dropWhile isBare)

/-- The parts of a key, and the rest without the blanks after the key. -/
def readKey? : Nat → Reader Key
  | 0, _ => none
  | fuel + 1, t => do
    let (part, t) ← readKeyPart? t
    match skipBlanks t with
    | '.' :: rest =>
      let (parts, rest) ← readKey? fuel (skipBlanks rest)
      return (part :: parts, rest)
    | rest => return ([part], rest)

/-! ## Numbers -/

/-- The digits in front of a text; one underscore may stand between two of them. -/
def splitGroups (isDigit : Char → Bool) : Text → Text × Text
  | [] => ([], [])
  | c :: rest =>
    if isDigit c || (c = '_' && rest.head?.any isDigit) then
      let (digits, rest) := splitGroups isDigit rest
      (if c = '_' then digits else c :: digits, rest)
    else ([], c :: rest)

/-- At least one digit, which stands first. -/
def readDigits? (isDigit : Char → Bool) : Reader Text := fun t =>
  if t.head?.any isDigit then some (splitGroups isDigit t) else none

def readInBase? (base : Nat) : Reader Nat := fun t =>
  (readDigits? (isDigitOf base) t).map fun (digits, rest) => (Text.numeralValue base digits, rest)

/-- The digits before the point; only zero itself starts with a zero. -/
def readWhole? : Reader Text
  | '0' :: rest => some (['0'], rest)
  | t => readDigits? Char.isDigit t

def readFraction (t : Text) : Option Text × Text :=
  match t with
  | '.' :: rest =>
    match readDigits? Char.isDigit rest with
    | some (digits, rest) => (some digits, rest)
    | none => (none, t)
  | _ => (none, t)

def readPower (t : Text) : Option Int × Text :=
  match t with
  | c :: rest =>
    if c = 'e' ∨ c = 'E' then
      let (negative, rest) := Text.splitSign rest
      match readDigits? Char.isDigit rest with
      | some (digits, rest) =>
        (some (Text.applySign negative (Text.numeralValue 10 digits)), rest)
      | none => (none, t)
    else (none, t)
  | [] => (none, t)

def readDecimal : Checker Scalar := fun t => do
  let (negative, t) := Text.splitSign t
  let (whole, t) ← orMalformed (readWhole? t)
  let (fraction, t) := readFraction t
  let (power, t) := readPower t
  if fraction.isSome ∨ power.isSome then
    return (.float (floatOfParts negative whole (fraction.getD []) (power.getD 0)), t)
  else if Text.longestNumeral < whole.length then throw (.longNumeral whole.length)
  else return (.int (Text.applySign negative (Text.numeralValue 10 whole)), t)

def readNumber : Checker Scalar := fun t =>
  let based :=
    match t with
    | '0' :: 'x' :: rest => readInBase? 16 rest
    | '0' :: 'o' :: rest => readInBase? 8 rest
    | '0' :: 'b' :: rest => readInBase? 2 rest
    | _ => none
  match based with
  | some (n, rest) => .ok (.int n, rest)
  | none => readDecimal t

/-- Infinity and the float that is not a number, with or without a sign. -/
def readSpecial? : Reader Scalar := fun t =>
  let (negative, unsigned) := Text.splitSign t
  match unsigned with
  | 'i' :: 'n' :: 'f' :: rest => some (.float (if negative then -infinity else infinity), rest)
  | 'n' :: 'a' :: 'n' :: rest => some (.float notANumber, rest)
  | _ => none

/-! ## Dates and times -/

/-- A number of exactly `count` digits between two bounds. -/
def readField? (count low high : Nat) : Reader Nat := fun t =>
  let digits := t.take count
  let n := Text.numeralValue 10 digits
  if digits.length = count ∧ digits.all Char.isDigit ∧ low ≤ n ∧ n ≤ high then
    some (n, t.drop count)
  else none

def readMark? (mark : Char) : Text → Option Text
  | c :: rest => if c = mark then some rest else none
  | [] => none

def readDate? : Reader (Nat × Nat × Nat) := fun t => do
  let (year, t) ← readField? 4 0 9999 t
  let t ← readMark? '-' t
  let (month, t) ← readField? 2 1 12 t
  let t ← readMark? '-' t
  let (day, t) ← readField? 2 1 31 t
  return ((year, month, day), t)

/-- Six digits after the point count. -/
def readMicroseconds (t : Text) : Nat × Text :=
  match t with
  | '.' :: rest =>
    match Text.splitDigits rest with
    | ([], _) => (0, t)
    | (digits, rest) =>
      let shown := digits.take 6
      (Text.numeralValue 10 (shown ++ List.replicate (6 - shown.length) '0'), rest)
  | _ => (0, t)

def readTime? : Reader ClockTime := fun t => do
  let (hour, t) ← readField? 2 0 23 t
  let t ← readMark? ':' t
  let (minute, t) ← readField? 2 0 59 t
  let t ← readMark? ':' t
  let (second, t) ← readField? 2 0 59 t
  let (microsecond, t) := readMicroseconds t
  return ({ hour, minute, second, microsecond }, t)

/-- An offset from universal time in seconds, or nothing. -/
def readOffset (t : Text) : Option Int × Text :=
  let signed (negative : Bool) (rest : Text) : Option (Int × Text) := do
    let (hours, rest) ← readField? 2 0 23 rest
    let rest ← readMark? ':' rest
    let (minutes, rest) ← readField? 2 0 59 rest
    return (Text.applySign negative (3600 * hours + 60 * minutes), rest)
  let found :=
    match t with
    | 'Z' :: rest | 'z' :: rest => some (0, rest)
    | '+' :: rest => signed false rest
    | '-' :: rest => signed true rest
    | _ => none
  match found with
  | some (offset, rest) => (some offset, rest)
  | none => (none, t)

/-- A date, a time or both; a day that the calendar lacks is refused. -/
def readMoment? : Reader (Option Scalar) := fun t =>
  match readDate? t with
  | some ((year, month, day), rest) =>
    let time :=
      match rest with
      | c :: after => if c = 'T' ∨ c = 't' ∨ c = ' ' then readTime? after else none
      | [] => none
    match CalendarDate.check year month day with
    | .error _ => some (none, rest)
    | .ok date =>
      match time with
      | none => some (some (.date date), rest)
      | some (time, rest) =>
        let (offset, rest) := readOffset rest
        some (some (.timestamp date time offset), rest)
  | none => (readTime? t).map fun (time, rest) => (some (.time time), rest)

/-! ## Tables -/

def find? (name : Text) (entries : Entries) : Option Datum := Datum.lookupIn? name entries

/-- Changes the last item of a list. -/
def changeLast? (change : Datum → Option Datum) : List Datum → Option (List Datum)
  | [] => none
  | [last] => (change last).map ([·])
  | item :: rest => (changeLast? change rest).map (item :: ·)

/-- Changes the table under a key, which is made if it is missing. With `throughLists` a list of
tables stands for its last one. -/
def changeTable? (throughLists : Bool) (change : Entries → Option Entries) :
    Key → Entries → Option Entries
  | [], entries => change entries
  | part :: parts, entries => do
    let inside (table : Datum) : Option Datum :=
      match table with
      | .mapping inner => (changeTable? throughLists change parts inner).map Datum.mapping
      | _ => none
    let changed ←
      match (find? part entries).getD (.mapping []) with
      | .list tables =>
        if throughLists then (changeLast? inside tables).map Datum.list else none
      | other => inside other
    return Scalar.putIn (.text part) changed entries

/-- No value replaces another one. -/
def insertAt? (throughLists : Bool) (key : Key) (value : Datum) (entries : Entries) :
    Option Entries :=
  match key.getLast? with
  | none => none
  | some name =>
    changeTable? throughLists
      (fun table =>
        if (find? name table).isSome then none else some (Scalar.putIn (.text name) value table))
      key.dropLast entries

def isTableOrList : Datum → Bool
  | .scalar _ => false
  | _ => true

/-! ## Values -/

/-- Skips blanks, line ends and comments, which may not hold control characters. -/
def skipLines? : Nat → Text → Option Text
  | 0, _ => none
  | fuel + 1, t =>
    match t.dropWhile fun c => isBlank c || c = '\n' with
    | '#' :: rest =>
      let comment := rest.takeWhile (· ≠ '\n')
      if comment.all (isPlain false) then skipLines? fuel (rest.dropWhile (· ≠ '\n')) else none
    | rest => some rest

/-- How deep lists and tables may stand in each other, where a table counts one and a half times as
much as a list. -/
def deepestNesting : Nat := 978

def listDepth : Nat := 2

def tableDepth : Nat := 3

/-- The depth inside one more list or table. -/
def deeper (step depth : Nat) : Except Fault Nat :=
  if deepestNesting < depth + step then .error .tooDeep else .ok (depth + step)

def afterWord? (word t : Text) : Option Text :=
  if Text.startsWith word t then some (t.drop word.length) else none

mutual

/-- A value at the start of a text, at some depth. -/
def readValue : Nat → Nat → Checker Datum
  | 0, _, _ => .error .malformed
  | fuel + 1, depth, t =>
    match t with
    | '"' :: _ | '\'' :: _ => do
      let (text, rest) ← orMalformed (readText? t)
      return (.text text, rest)
    | '[' :: rest => do
      let depth ← deeper listDepth depth
      let rest ← orMalformed (skipLines? (rest.length + 1) rest)
      match rest with
      | ']' :: rest => return (.list [], rest)
      | _ =>
        let (items, rest) ← readItems fuel depth rest
        return (.list items, rest)
    | '\x7b' :: rest => do
      let depth ← deeper tableDepth depth
      match skipBlanks rest with
      | '\x7d' :: rest => return (.mapping [], rest)
      | rest =>
        let (entries, rest) ← readInline fuel depth [] [] rest
        return (.mapping entries, rest)
    | _ =>
      match afterWord? "true" t, afterWord? "false" t with
      | some rest, _ => .ok (.bool true, rest)
      | _, some rest => .ok (.bool false, rest)
      | _, _ =>
        match readMoment? t with
        | some (moment, rest) => do return (.scalar (← orMalformed moment), rest)
        | none => do
          let (number, rest) ←
            match readNumber t with
            | .error .malformed => orMalformed (readSpecial? t)
            | found => found
          return (.scalar number, rest)

/-- At least one item and the closing bracket, before which a comma may stand. -/
def readItems : Nat → Nat → Checker (List Datum)
  | 0, _, _ => .error .malformed
  | fuel + 1, depth, t => do
    let (item, t) ← readValue fuel depth t
    let t ← orMalformed (skipLines? (t.length + 1) t)
    match t with
    | ']' :: rest => return ([item], rest)
    | ',' :: rest =>
      let rest ← orMalformed (skipLines? (rest.length + 1) rest)
      match rest with
      | ']' :: rest => return ([item], rest)
      | _ =>
        let (items, rest) ← readItems fuel depth rest
        return (item :: items, rest)
    | _ => throw .malformed

/-- At least one entry and the closing brace. Tables and lists that are complete are `closed`, and
nothing is added to them. -/
def readInline : Nat → Nat → List Key → Entries → Checker Entries
  | 0, _, _, _, _ => .error .malformed
  | fuel + 1, depth, closed, entries, t => do
    let (key, t) ← orMalformed (readKey? (t.length + 1) t)
    let t ← orMalformed (readMark? '=' t)
    let (value, t) ← readValue fuel depth (skipBlanks t)
    if closed.any (·.isPrefixOf key) then throw .malformed
    let entries ← orMalformed (insertAt? false key value entries)
    match skipBlanks t with
    | '\x7d' :: rest => return (entries, rest)
    | ',' :: rest =>
      readInline fuel depth (if isTableOrList value then key :: closed else closed) entries
        (skipBlanks rest)
    | _ => throw .malformed

end

end SceneScript.Toml
