import SceneScript.Yaml.Token

/-! # YAML tags

A tag says what a node stands for. A plain scalar that carries no tag gets one from its form.

* `Tag`, `Tag.ofName` — the tags, and how they are written in full;
* `Moment` — a date and a time as they are written;
* `Tag.ofPlain` — what a plain scalar stands for.
-/

namespace SceneScript.Yaml

inductive Tag where
  | null
  | bool
  | int
  | float
  | bytes
  | moment
  | text
  | sequence
  | mapping
  | set
  /-- A sequence of mappings with one entry each. -/
  | pairs
  | merge
  | value
  | other
  deriving Repr, DecidableEq

/-! ## Forms of plain scalars -/

/-- A text without the line feed at its end, if there is one. -/
def withoutLineFeed (t : Text) : Text := if t.getLast? = some '\n' then t.dropLast else t

/-- A word in lower case, with a capital in front, and in capitals. -/
def casings (word : Text) : List Text :=
  [word, word.modifyHead Char.toUpper, word.map Char.toUpper]

def flagWords : List (Text × Bool) :=
  [("yes", true), ("no", false), ("true", true), ("false", false), ("on", true), ("off", false)]

def flag? (t : Text) : Option Bool :=
  (flagWords.find? fun (word, _) => (casings word).contains t).map (·.2)

def isNull (t : Text) : Bool := t = [] || t = ['~'] || (casings "null").contains t

def isDigitOrGap (base : Nat) (c : Char) : Bool := isDigitOf base c || c = '_'

/-- Digits after a leading one that satisfies `first`, with gaps between them. -/
def isGrouped (first : Char → Bool) : Text → Bool
  | c :: rest => first c && rest.all (isDigitOrGap 10)
  | [] => false

def isNonzeroDigit (c : Char) : Bool := c.isDigit && c ≠ '0'

/-- A number of minutes or seconds. -/
def isSixtieth : Text → Bool
  | [a] => a.isDigit
  | [a, b] => isDigitOf 6 a && b.isDigit
  | _ => false

/-- Groups of sixty, between colons. -/
def isSexagesimal (first : Char → Bool) (t : Text) : Bool :=
  match Text.pieces ':' t with
  | whole :: part :: parts => isGrouped first whole && (part :: parts).all isSixtieth
  | _ => false

def isUnsignedInt (t : Text) : Bool :=
  match t with
  | ['0'] => true
  | '0' :: 'b' :: digits => digits ≠ [] && digits.all (isDigitOrGap 2)
  | '0' :: 'x' :: digits => digits ≠ [] && digits.all (isDigitOrGap 16)
  | '0' :: digits => digits.all (isDigitOrGap 8)
  | _ => isGrouped isNonzeroDigit t || isSexagesimal isNonzeroDigit t

def isInt (t : Text) : Bool := isUnsignedInt (Text.splitSign t).2

/-- The power of ten at the end of a float, which has a sign. -/
def isSignedPower : Text → Bool
  | [] => true
  | mark :: sign :: digits =>
    (mark = 'e' || mark = 'E') && (sign = '+' || sign = '-') && digits ≠ [] &&
      digits.all Char.isDigit
  | _ => false

def isFraction (t : Text) : Bool := isSignedPower (t.dropWhile (isDigitOrGap 10))

def infinities : List Text := [".inf", ".Inf", ".INF"]

def notNumbers : List Text := [".nan", ".NaN", ".NAN"]

def isFloat (t : Text) : Bool :=
  let unsigned := (Text.splitSign t).2
  let isPointed :=
    match Text.breakAt? '.' unsigned with
    | some (whole, fraction) =>
      (isGrouped Char.isDigit whole && isFraction fraction) ||
        (isSexagesimal Char.isDigit whole && fraction.all (isDigitOrGap 10))
    | none => false
  let startsWithPoint :=
    match t with
    | '.' :: c :: rest => c.isDigit && isFraction rest
    | _ => false
  isPointed || startsWithPoint || infinities.contains unsigned || notNumbers.contains t

/-! ## Dates and times -/

/-- A date and a time as they are written; nothing says that the calendar has them. -/
structure Moment where
  year : Text
  month : Text
  day : Text
  /-- Hour, minute, second and fraction. -/
  time : Option (Text × Text × Text × Text) := none
  /-- Sign, hours and minutes, or nothing for universal time. -/
  zone : Option (Option (Char × Text × Text)) := none

namespace Moment

abbrev Part (α : Type) := Text → Option (α × Text)

/-- Between `least` and `most` digits. -/
def digits (least most : Nat) : Part Text := fun t =>
  let found := (t.take most).takeWhile Char.isDigit
  if least ≤ found.length then some (found, t.drop found.length) else none

def mark (c : Char) : Text → Option Text
  | d :: rest => if c = d then some rest else none
  | [] => none

def isBlank (c : Char) : Bool := c = ' ' || c = '\t'

def fraction : Text → Text × Text
  | '.' :: rest => Text.splitDigits rest
  | t => ([], t)

def zoneOf? (t : Text) : Option (Option (Option (Char × Text × Text))) :=
  match t.dropWhile isBlank with
  | [] => if t = [] then some none else none
  | ['Z'] => some (some none)
  | sign :: rest =>
    if sign = '+' ∨ sign = '-' then do
      let (hours, rest) ← digits 1 2 rest
      match rest with
      | [] => some (some (some (sign, hours, [])))
      | _ =>
        match ← digits 2 2 (← mark ':' rest) with
        | (minutes, []) => some (some (some (sign, hours, minutes)))
        | _ => none
    else none

def read? (t : Text) : Option Moment := do
  let (year, t) ← digits 4 4 t
  let (month, t) ← digits 1 2 (← mark '-' t)
  let (day, t) ← digits 1 2 (← mark '-' t)
  match t with
  | [] => some { year, month, day }
  | c :: rest =>
    let t ←
      if c = 'T' ∨ c = 't' then some rest
      else if isBlank c then some (rest.dropWhile isBlank)
      else none
    let (hour, t) ← digits 1 2 t
    let (minute, t) ← digits 2 2 (← mark ':' t)
    let (second, t) ← digits 2 2 (← mark ':' t)
    let (part, t) := fraction t
    let zone ← zoneOf? t
    some { year, month, day, time := some (hour, minute, second, part), zone }

/-- A line break may follow. -/
def ofText? (t : Text) : Option Moment := (read? t).or (read? (withoutLineFeed t))

/-- A date alone is only one with two digits for the month and the day. -/
def isMoment (t : Text) : Bool :=
  match read? t with
  | none => false
  | some m => m.time.isSome || (m.month.length = 2 && m.day.length = 2)

end Moment

/-! ## Tags -/

namespace Tag

def ofForm (t : Text) : Tag :=
  if (flag? t).isSome then .bool
  else if isFloat t then .float
  else if isInt t then .int
  else if t = "<<".toList then .merge
  else if isNull t then .null
  else if Moment.isMoment t then .moment
  else if t = ['='] then .value
  else if t = ['!'] ∨ t = ['&'] ∨ t = ['*'] then .other
  else .text

/-- What a plain scalar without a tag stands for; a line feed at its end is no part of its form. -/
def ofPlain (t : Text) : Tag := if t = ['\n'] then .text else ofForm (withoutLineFeed t)

def family : Text := "tag:yaml.org,2002:"

def names : List (Text × Tag) :=
  [("null", .null), ("bool", .bool), ("int", .int), ("float", .float), ("binary", .bytes),
   ("timestamp", .moment), ("str", .text), ("seq", .sequence), ("map", .mapping),
   ("set", .set), ("omap", .pairs), ("pairs", .pairs), ("merge", .merge), ("value", .value)]

def ofName (t : Text) : Tag :=
  if Text.startsWith family t then (names.lookup (t.drop family.length)).getD .other else .other

/-- The tag of a node from the one that is written, if it says more than that there is one. -/
def ofWritten (written : Option Text) (default : Tag) : Tag :=
  match written with
  | none => default
  | some name => if name = ['!'] then default else ofName name

end Tag

end SceneScript.Yaml
