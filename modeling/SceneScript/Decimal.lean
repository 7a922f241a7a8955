import SceneScript.Text.Numeral

/-! # Decimal numerals of floating-point numbers

* `shortestDecimal` — the fewest digits that read back as a given positive double;
* `floatNumeral` — its written form: positional for exponents from -4 to 15, with at least one
  digit on either side of the point, and scientific otherwise;
* `Decimal.toFloat` — the double nearest to a decimal;
* `readFloat?` — the double that a numeral stands for;
* `readNumber?`, `readLooseNumber?` — numerals and the words for numbers that have no numeral.

A double is `m · 2 ^ q` and stands for all reals that are nearer to it than to its neighbours, the
ends included when `m` is even.
-/

namespace SceneScript

/-- The number `digits · 10 ^ exponent`. -/
structure Decimal where
  digits : Nat
  exponent : Int
  deriving Repr, DecidableEq

/-- The same number without zeros at the end of its digits. -/
def Decimal.trim (d : Decimal) : Decimal :=
  if h : d.digits ≠ 0 ∧ d.digits % 10 = 0 then
    Decimal.trim ⟨d.digits / 10, d.exponent + 1⟩
  else d
termination_by d.digits
decreasing_by omega

/-- A positive ratio of two natural numbers. -/
structure Ratio where
  numerator : Nat
  denominator : Nat
  deriving Repr, DecidableEq

namespace Ratio

def scaleBy (base : Nat) (r : Ratio) (exponent : Int) : Ratio :=
  if 0 ≤ exponent then { r with numerator := r.numerator * Nat.pow base exponent.toNat }
  else { r with denominator := r.denominator * Nat.pow base (-exponent).toNat }

def ble (a b : Ratio) : Bool := a.numerator * b.denominator ≤ b.numerator * a.denominator

def blt (a b : Ratio) : Bool := a.numerator * b.denominator < b.numerator * a.denominator

def floor (r : Ratio) : Nat := r.numerator / r.denominator

/-- The greatest `e` for which `10 ^ e` is at most the ratio. -/
def log10 (r : Ratio) : Int :=
  if r.denominator ≤ r.numerator then (Nat.toDigits 10 r.floor).length - 1
  else -(Nat.toDigits 10 ((r.denominator - 1) / r.numerator)).length

/-- The distance to a natural number, over the denominator of the ratio. -/
def distance (r : Ratio) (n : Nat) : Nat :=
  let scaled := n * r.denominator
  if scaled ≤ r.numerator then r.numerator - scaled else scaled - r.numerator

end Ratio

/-- A double as an odd or even multiple of a power of two, with the reals that round to it. -/
structure RoundingInterval where
  value : Ratio
  low : Ratio
  high : Ratio
  endsIncluded : Bool

namespace RoundingInterval

/-- The interval of `m · 2 ^ q`, where `atBinade` says that the lower neighbour is only half as
far away as the upper one. -/
def ofParts (m : Nat) (q : Int) (atBinade : Bool) : RoundingInterval :=
  let quarter (n : Nat) : Ratio := Ratio.scaleBy 2 ⟨n, 1⟩ (q - 2)
  { value := quarter (4 * m)
    low := quarter (if atBinade then 4 * m - 1 else 4 * m - 2)
    high := quarter (4 * m + 2)
    endsIncluded := m % 2 = 0 }

def contains (i : RoundingInterval) (r : Ratio) : Bool :=
  if i.endsIncluded then i.low.ble r && r.ble i.high else i.low.blt r && r.blt i.high

/-- The point of the grid of multiples of `10 ^ exponent` that is nearest to the value, among those
in the interval; of two equally near points the even one. -/
def onGrid? (i : RoundingInterval) (exponent : Int) : Option Decimal :=
  let scaled := i.value.scaleBy 10 (-exponent)
  let below := scaled.floor
  let inside (n : Nat) : Bool := i.contains ((Ratio.mk n 1).scaleBy 10 exponent)
  let nearer : Nat :=
    let d₁ := scaled.distance below
    let d₂ := scaled.distance (below + 1)
    if d₁ < d₂ then below
    else if d₂ < d₁ then below + 1
    else if below % 2 = 0 then below else below + 1
  let other := if nearer = below then below + 1 else below
  if inside nearer && nearer ≠ 0 then some ⟨nearer, exponent⟩
  else if inside other && other ≠ 0 then some ⟨other, exponent⟩
  else none

/-- Tries one digit, then two, and so on; seventeen always suffice for a double. -/
def shortest (i : RoundingInterval) : Decimal :=
  let top := i.value.log10
  (((List.range 17).findSome? fun (n : Nat) => i.onGrid? (top - n)).getD ⟨0, 0⟩).trim

end RoundingInterval

/-- The parts of a double: its sign, and for a finite one its mantissa and exponent. -/
inductive DoubleParts where
  | finite (negative : Bool) (mantissa : Nat) (exponent : Int)
  | infinite (negative : Bool)
  | notANumber
  deriving Repr, DecidableEq

def DoubleParts.ofFloat (x : Float) : DoubleParts :=
  let bits : Nat := x.toBits.toNat
  let negative : Bool := bits / Nat.pow 2 63 = 1
  let biased : Nat := bits / Nat.pow 2 52 % Nat.pow 2 11
  let fraction : Nat := bits % Nat.pow 2 52
  if biased = Nat.pow 2 11 - 1 then if fraction = 0 then .infinite negative else .notANumber
  else if biased = 0 then .finite negative fraction (-1074)
  else .finite negative (Nat.pow 2 52 + fraction) ((biased : Int) - 1075)

def shortestDecimal (mantissa : Nat) (exponent : Int) : Decimal :=
  let atBinade := mantissa = Nat.pow 2 52 && -1074 < exponent
  (RoundingInterval.ofParts mantissa exponent atBinade).shortest

/-! ## Written form -/

structure NumeralStyle where
  infinity : Text
  notANumber : Text

namespace Decimal

/-- The decimal exponents that are written positionally. -/
def positionalRange : Int × Int := (-4, 15)

def numeral (d : Decimal) : Text :=
  let digits := Text.ofNat d.digits
  let point : Int := digits.length + d.exponent
  let scientific := point - 1
  if positionalRange.1 ≤ scientific ∧ scientific ≤ positionalRange.2 then
    if point ≤ 0 then "0." ++ List.replicate (-point).toNat '0' ++ digits
    else
      let whole := digits.take point.toNat ++ List.replicate (point.toNat - digits.length) '0'
      let fraction := digits.drop point.toNat
      whole ++ "." ++ if fraction = [] then ['0'] else fraction
  else
    let fraction := digits.drop 1
    let power := Text.ofNat scientific.natAbs
    digits.take 1 ++ (if fraction = [] then [] else '.' :: fraction) ++ "e" ++
      (if scientific < 0 then "-" else "+") ++
      (if power.length < 2 then '0' :: power else power)

/-- Exponents beyond the range of doubles give zero or infinity. -/
def toFloat (d : Decimal) : Float :=
  let size : Int := (Text.ofNat d.digits).length
  if d.digits = 0 then 0.0
  else if 400 < size + d.exponent then 1.0 / 0.0
  else if size + d.exponent < -400 then 0.0
  else Float.ofScientific d.digits (d.exponent < 0) d.exponent.natAbs

end Decimal

def floatNumeral (style : NumeralStyle) (x : Float) : Text :=
  let signed (negative : Bool) (t : Text) : Text := if negative then '-' :: t else t
  match DoubleParts.ofFloat x with
  | .notANumber => style.notANumber
  | .infinite negative => signed negative style.infinity
  | .finite negative mantissa exponent =>
    signed negative
      (if mantissa = 0 then "0.0" else (shortestDecimal mantissa exponent).numeral)

/-! ## Reading -/

/-- The digits before and after the point, and the power of ten. -/
def floatOfParts (negative : Bool) (whole fraction : Text) (exponent : Int) : Float :=
  let digits := Text.numeralValue 10 (whole ++ fraction)
  let x := (Decimal.mk digits (exponent - fraction.length)).toFloat
  if negative then -x else x

/-- The power of ten at the end of a numeral; nothing else may follow. -/
def readPower? : Text → Option Int
  | [] => some 0
  | mark :: rest =>
    if mark = 'e' ∨ mark = 'E' then
      let (negative, digits) := Text.splitSign rest
      if digits ≠ [] ∧ digits.all Char.isDigit then
        some (Text.applySign negative (Text.numeralValue 10 digits))
      else none
    else none

/-- A numeral with an optional sign, point and power of ten, and at least one digit on one side of
the point. -/
def readFloat? (t : Text) : Option Float :=
  let (negative, t) := Text.splitSign t
  let (whole, t) := Text.splitDigits t
  let (fraction, t) :=
    match t with
    | '.' :: rest => Text.splitDigits rest
    | t => ([], t)
  if whole = [] ∧ fraction = [] then none
  else (readPower? t).map (floatOfParts negative whole fraction)

def infinity : Float := 1.0 / 0.0

def notANumber : Float := 0.0 / 0.0

/-- A numeral, or a word for infinity or for the float that is not a number. -/
def readNumber? (t : Text) : Option Float :=
  let (negative, word) := Text.splitSign (t.map Char.toLower)
  if word = "inf".toList ∨ word = "infinity".toList then
    some (if negative then -infinity else infinity)
  else if word = "nan".toList then some notANumber
  else readFloat? t

/-- A text without the underscores that stand between two digits; no other may be there. -/
def closeDigitGaps? : Text → Option Text
  | a :: '_' :: b :: rest =>
    if a.isDigit ∧ b.isDigit then (closeDigitGaps? (b :: rest)).map (a :: ·) else none
  | '_' :: _ => none
  | c :: rest => (closeDigitGaps? rest).map (c :: ·)
  | [] => some []

/-- A number in the digits of any script, with blanks around it and single underscores between
digits. -/
def readLooseNumber? (t : Text) : Option Float :=
  (closeDigitGaps? (Text.plainNumeral t)).bind readNumber?

/-- Infinity and the absence of a number in messages. -/
def NumeralStyle.plain : NumeralStyle := ⟨"inf", "nan"⟩

end SceneScript
