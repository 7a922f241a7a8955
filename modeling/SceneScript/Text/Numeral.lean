import SceneScript.Text.Blank
import SceneScript.Text.DigitTable
import SceneScript.Text.Quoted

/-! # Reading numerals

* `digitValue?` — the value of a digit in a base up to sixteen;
* `Text.numeralValue` — the number that a list of digits stands for;
* `Text.splitSign` — a sign in front of a numeral;
* `Text.splitDigits` — the digits in front of a text;
* `Text.plainNumeral` — a numeral in the digits of any script, in those of ASCII;
* `Text.readInteger` — an integer with blanks around it.
-/

namespace SceneScript

def hexValue? (c : Char) : Option Nat :=
  if c.isDigit then some (c.toNat - '0'.toNat)
  else if 'a' ≤ c ∧ c ≤ 'f' then some (c.toNat - 'a'.toNat + 10)
  else if 'A' ≤ c ∧ c ≤ 'F' then some (c.toNat - 'A'.toNat + 10)
  else none

def digitValue? (base : Nat) (c : Char) : Option Nat := (hexValue? c).filter (· < base)

def isDigitOf (base : Nat) (c : Char) : Bool := (digitValue? base c).isSome

namespace Text

def numeralValue (base : Nat) (digits : Text) : Nat :=
  digits.foldl (fun n c => base * n + (hexValue? c).getD 0) 0

/-- Whether a minus sign stands in front, and what follows the sign. -/
def splitSign : Text → Bool × Text
  | '-' :: rest => (true, rest)
  | '+' :: rest => (false, rest)
  | t => (false, t)

def splitDigits (t : Text) : Text × Text := (t.takeWhile Char.isDigit, t.dropWhile Char.isDigit)

def applySign (negative : Bool) (n : Nat) : Int := if negative then -n else n

/-! ## Numerals in any script -/

def isAscii (c : Char) : Bool := c.toNat < 0x80

/-- The ASCII form of a character of a numeral: a blank for a blank, and a digit for a digit. -/
def plainNumeralChar (c : Char) : Char :=
  if isAscii c then c
  else if isBlank c then ' '
  else
    match digitZeros.find? fun first => first ≤ c.toNat && c.toNat < first + 10 with
    | some first => Char.ofNat ('0'.toNat + (c.toNat - first))
    | none => c

def isNumeralBlank (c : Char) : Bool :=
  c = ' ' || (0x09 ≤ c.toNat && c.toNat ≤ 0x0d)

/-- A numeral in ASCII digits, without the blanks around it. -/
def plainNumeral (t : Text) : Text :=
  let form := t.map plainNumeralChar
  ((form.dropWhile isNumeralBlank).reverse.dropWhile isNumeralBlank).reverse

/-- Why a text is no integer. -/
inductive IntegerFault where
  | notNumeral
  | tooLong (digits : Nat)
  deriving Repr, DecidableEq

/-- How many digits a numeral may have, unless its base is a power of two. -/
def longestNumeral : Nat := 4300

/-- The letter that may stand between a zero and the digits in some bases. -/
def baseLetters : List (Nat × Char) := [(2, 'b'), (8, 'o'), (16, 'x')]

def dropBasePrefix (base : Nat) (t : Text) : Text :=
  match t with
  | '0' :: letter :: rest =>
    if baseLetters.lookup base = some letter.toLower then rest else t
  | _ => t

/-- An integer in some base: a sign, what may name the base, and at least one digit. -/
def readInteger (base : Nat) (t : Text) : Except IntegerFault Int :=
  let (negative, unsigned) := splitSign (plainNumeral t)
  let written := dropBasePrefix base unsigned
  let digits := written.takeWhile (isDigitOf base)
  if longestNumeral < digits.length ∧ (baseLetters.lookup base).isNone then
    .error (.tooLong digits.length)
  else if digits = [] ∨ digits.length < written.length then .error .notNumeral
  else .ok (applySign negative (numeralValue base digits))

def tooLongNumeralMessage : Text :=
  "Exceeds the limit (" ++ ofNat longestNumeral ++ " digits) for integer string conversion"

def tooLongNumeralAdvice : Text :=
  "; use sys.set_int_max_str_digits() to increase the limit"

/-- How a numeral that is too long is refused. -/
def tooLongNumeral (digits : Nat) : Text :=
  tooLongNumeralMessage ++ ": value has " ++ ofNat digits ++ " digits" ++ tooLongNumeralAdvice

/-- How much of a text shows when it is no integer. -/
def shownLength : Nat := 200

/-- How a text that should be an integer is refused. -/
def IntegerFault.message (base : Nat) (t : Text) : IntegerFault → Text
  | .notNumeral =>
    "invalid literal for int() with base " ++ ofNat base ++ ": " ++ (quoted t).take shownLength
  | .tooLong digits => tooLongNumeral digits

end Text

end SceneScript
