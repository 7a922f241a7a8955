import SceneScript.Datum.Display
import SceneScript.Text.Case
import SceneScript.Yaml.Tag

/-! # YAML scalars

What the text of a scalar stands for under a tag. Numbers may have underscores as gaps, and groups
of sixty between colons.

* `intOf`, `floatOf`, `Moment.toScalar`, `bytesOf` — the values of texts;
* `scalarOf` — the value of a text under a tag.
-/

namespace SceneScript.Yaml

/-! ## Numbers -/

def withoutGaps (t : Text) : Text := t.filter (· ≠ '_')

/-- Whether a number is negative, and what follows its sign; some character has to be there. -/
def unsignedOf (t : Text) : Except Fault (Bool × Text) :=
  if t = [] then .error .emptyNumber else .ok (Text.splitSign t)

def wholeOf (base : Nat) (t : Text) : Except Fault Int :=
  (Text.readInteger base t).mapError fun fault => .impossible (fault.message base t)

/-- A number in base two, eight, ten or sixteen, or in groups of sixty. -/
def unsignedIntOf (t : Text) : Except Fault Int :=
  match t with
  | [] => .error .emptyNumber
  | ['0'] => .ok 0
  | '0' :: 'b' :: digits => wholeOf 2 digits
  | '0' :: 'x' :: digits => wholeOf 16 digits
  | '0' :: _ => wholeOf 8 t
  | _ =>
    ((Text.pieces ':' t).mapM (wholeOf 10)).map fun parts =>
      parts.foldl (fun n part => 60 * n + part) 0

def intOf (t : Text) : Except Fault Int := do
  let (negative, unsigned) ← unsignedOf (withoutGaps t)
  let n ← unsignedIntOf unsigned
  return if negative then -n else n

def decimalOf (t : Text) : Except Fault Float :=
  match readLooseNumber? t with
  | some x => .ok x
  | none => .error (.impossible ("could not convert string to float: " ++ Text.quoted t))

/-- The last of the groups counts once, the one before it sixty times, and so on. -/
def sexagesimal (parts : List Float) : Except Fault Float :=
  (·.1) <$> parts.reverse.foldlM
    (fun (sum, base) part =>
      let factor := Float.ofNat base
      if factor.isInf then .error .hugeNumber else .ok (sum + part * factor, base * 60))
    (0.0, 1)

def unsignedFloatOf (t : Text) : Except Fault Float :=
  if t = ".inf".toList then .ok infinity
  else if t = ".nan".toList then .ok notANumber
  else if t.contains ':' then do sexagesimal (← (Text.pieces ':' t).mapM decimalOf)
  else decimalOf t

def floatOf (t : Text) : Except Fault Float := do
  let (negative, unsigned) ← unsignedOf (Text.lower (withoutGaps t))
  let x ← unsignedFloatOf unsigned
  return if negative then -x else x

/-- Whether a float is written with the word for what is not a number. -/
def isWrittenNaN (t : Text) : Bool :=
  (Text.splitSign (Text.lower (withoutGaps t))).2 = ".nan".toList

/-! ## Dates and times -/

def impossibleUnless (holds : Bool) (message : Text) : Except Fault Unit :=
  if holds then .ok () else .error (.impossible message)

def naturalOf (digits : Text) : Nat := Text.numeralValue 10 digits

/-- Six digits of the fraction of a second count. -/
def microsecondOf (digits : Text) : Nat :=
  let shown := digits.take 6
  naturalOf (shown ++ List.replicate (6 - shown.length) '0')

namespace Moment

def dateOf (m : Moment) : Except Fault CalendarDate :=
  (CalendarDate.check (naturalOf m.year) (naturalOf m.month) (naturalOf m.day)).mapError
    fun fault => .impossible fault.message

/-- The offset from universal time in seconds, if a zone is given; it is less than a day. -/
def offsetOf : Option (Option (Char × Text × Text)) → Except Fault (Option Int)
  | none => .ok none
  | some none => .ok (some 0)
  | some (some (sign, hours, minutes)) => do
    let offset := Text.applySign (sign = '-') (3600 * naturalOf hours + 60 * naturalOf minutes)
    impossibleUnless (offset.natAbs < secondsPerDay)
      ("offset must be a timedelta strictly between -timedelta(hours=24) and " ++
        "timedelta(hours=24), not " ++ quotedDuration offset ++ ".")
    return some offset

/-- The zone is checked first, then the date and the time. -/
def toScalar (m : Moment) : Except Fault Scalar := do
  match m.time with
  | none => return .date (← m.dateOf)
  | some (hour, minute, second, fraction) =>
    let offset ← offsetOf m.zone
    let date ← m.dateOf
    let time : ClockTime :=
      { hour := naturalOf hour
        minute := naturalOf minute
        second := naturalOf second
        microsecond := microsecondOf fraction }
    impossibleUnless (time.hour < 24) "hour must be in 0..23"
    impossibleUnless (time.minute < 60) "minute must be in 0..59"
    impossibleUnless (time.second < 60) "second must be in 0..59"
    return .timestamp date time offset

end Moment

/-! ## Bytes -/

/-- The value of a digit in base sixty-four. -/
def sextetOf? (c : Char) : Option Nat :=
  if 'A' ≤ c ∧ c ≤ 'Z' then some (c.toNat - 'A'.toNat)
  else if 'a' ≤ c ∧ c ≤ 'z' then some (c.toNat - 'a'.toNat + 26)
  else if c.isDigit then some (c.toNat - '0'.toNat + 52)
  else if c = '+' then some 62
  else if c = '/' then some 63
  else none

/-- Three bytes for every four digits; what is no digit is passed over, and equals signs fill up the
last four. -/
def bytesOfDigits : Text → List Nat → Nat → Except Fault (List UInt8)
  | [], sextets, _ => if sextets = [] then .ok [] else .error .malformed
  | c :: rest, sextets, padding =>
    if c = '=' then
      match sextets with
      | [a, b] =>
        if padding + 1 < 2 then bytesOfDigits rest sextets (padding + 1)
        else .ok [UInt8.ofNat (a * 4 + b / 16)]
      | [a, b, c] => .ok [UInt8.ofNat (a * 4 + b / 16), UInt8.ofNat (b * 16 + c / 4)]
      | _ => bytesOfDigits rest sextets (padding + 1)
    else
      match sextetOf? c, sextets with
      | none, _ => bytesOfDigits rest sextets padding
      | some last, [a, b, c] => do
        let bytes ← bytesOfDigits rest [] 0
        return UInt8.ofNat (a * 4 + b / 16) :: UInt8.ofNat (b * 16 + c / 4) ::
          UInt8.ofNat (c * 64 + last) :: bytes
      | some next, _ => bytesOfDigits rest (sextets ++ [next]) 0

def bytesOf (t : Text) : Except Fault (List UInt8) :=
  if t.all Text.isAscii then bytesOfDigits t [] 0 else .error .malformed

/-! ## Values -/

def scalarOf (tag : Tag) (t : Text) : Except Fault Scalar :=
  match tag with
  | .null => .ok .null
  | .bool =>
    match flagWords.lookup (Text.lower t) with
    | some flag => .ok (.bool flag)
    | none => .error (.unknownFlag (Text.lower t))
  | .int => .int <$> intOf t
  | .float => .float <$> floatOf t
  | .bytes => .bytes <$> bytesOf t
  | .moment =>
    match Moment.ofText? t with
    | some moment => moment.toScalar
    | none => .error .notMoment
  | .text => .ok (.text t)
  | _ => .error .malformed

end SceneScript.Yaml
