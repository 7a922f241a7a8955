import SceneScript.Datum.Basic
import SceneScript.Text.Quoted

/-! # Data in messages

* `Scalar.display`, `Datum.display` — a value on its own, where a text stands for itself;
* `Scalar.quoted`, `Datum.quoted` — a value inside another one, where a text is quoted;
* `Datum.kind` — what values of a kind are called.
-/

namespace SceneScript

def CalendarDate.display (d : CalendarDate) : Text :=
  Text.padded 10 4 d.year ++ "-" ++ Text.padded 10 2 d.month ++ "-" ++ Text.padded 10 2 d.day

def ClockTime.display (t : ClockTime) : Text :=
  Text.padded 10 2 t.hour ++ ":" ++ Text.padded 10 2 t.minute ++ ":" ++ Text.padded 10 2 t.second ++
    if t.microsecond = 0 then [] else '.' :: Text.padded 10 6 t.microsecond

/-- An offset from universal time, to the minute. -/
def offsetDisplay (seconds : Int) : Text :=
  let minutes := seconds.natAbs / 60
  (if seconds < 0 then "-" else "+") ++ Text.padded 10 2 (minutes / 60) ++ ":" ++
    Text.padded 10 2 (minutes % 60)

def numbers (ns : List Nat) : Text := Text.join ", " (ns.map Text.ofNat)

def ClockTime.fields (t : ClockTime) : List Nat :=
  if t.microsecond ≠ 0 then [t.hour, t.minute, t.second, t.microsecond]
  else if t.second ≠ 0 then [t.hour, t.minute, t.second]
  else [t.hour, t.minute]

/-- A byte of a quoted sequence of bytes. -/
def escapeByte (quote : Char) (b : UInt8) : Text :=
  let c := Char.ofNat b.toNat
  if c = quote ∨ c = '\\' then ['\\', c]
  else if c = '\n' then "\\n"
  else if c = '\r' then "\\r"
  else if c = '\t' then "\\t"
  else if 0x20 ≤ b.toNat ∧ b.toNat < 0x7f then [c]
  else "\\x" ++ Text.padded 16 2 b.toNat

def quotedBytes (bytes : List UInt8) : Text :=
  let quote := Text.quoteOf (bytes.map fun b => Char.ofNat b.toNat)
  'b' :: quote :: bytes.flatMap (escapeByte quote) ++ [quote]

/-- A number of seconds as whole days, which may be negative, and what is left. -/
def quotedDuration (seconds : Int) : Text :=
  let days := seconds / secondsPerDay
  let left := seconds % secondsPerDay
  let parts : List Text :=
    (if days = 0 then [] else ["days=" ++ Text.ofInt days]) ++
      (if left = 0 then [] else ["seconds=" ++ Text.ofInt left])
  "datetime.timedelta(" ++ Text.join ", " parts ++ ")"

/-- How an offset from universal time is written inside another value. -/
def quotedOffset (seconds : Int) : Text :=
  if seconds = 0 then "datetime.timezone.utc"
  else "datetime.timezone(" ++ quotedDuration seconds ++ ")"

namespace Scalar

def quoted : Scalar → Text
  | .null => "None"
  | .bool true => "True"
  | .bool false => "False"
  | .int n => Text.ofInt n
  | .float x => floatNumeral .plain x
  | .text t => Text.quoted t
  | .date d => "datetime.date(" ++ numbers [d.year, d.month, d.day] ++ ")"
  | .time t => "datetime.time(" ++ numbers t.fields ++ ")"
  | .timestamp d t offset =>
    "datetime.datetime(" ++ numbers ([d.year, d.month, d.day] ++ t.fields) ++
      (match offset with
        | none => []
        | some seconds => ", tzinfo=" ++ quotedOffset seconds) ++ ")"
  | .bytes b => quotedBytes b

def display : Scalar → Text
  | .text t => t
  | .date d => d.display
  | .time t => t.display
  | .timestamp d t offset =>
    d.display ++ " " ++ t.display ++ (match offset with | none => [] | some s => offsetDisplay s)
  | other => quoted other

end Scalar

namespace Datum

mutual

def quoted : Datum → Text
  | .scalar value => value.quoted
  | .list items => '[' :: Text.join ", " (quotedItems items) ++ [']']
  | .mapping entries => '\x7b' :: Text.join ", " (quotedEntries entries) ++ ['\x7d']
  | .tuple items =>
    '(' :: Text.join ", " (quotedItems items) ++ (if items.length = 1 then ",)" else ")")
  | .set [] => "set()"
  | .set members => '\x7b' :: Text.join ", " (members.map Scalar.quoted) ++ ['\x7d']
  | .again true => "\x7b...\x7d"
  | .again false => "[...]"

def quotedItems : List Datum → List Text
  | [] => []
  | item :: rest => quoted item :: quotedItems rest

def quotedEntries : List (Scalar × Datum) → List Text
  | [] => []
  | (key, value) :: rest => (key.quoted ++ ": " ++ quoted value) :: quotedEntries rest

end

def display : Datum → Text
  | .scalar value => value.display
  | other => quoted other

def kind : Datum → Text
  | .scalar .null => "NoneType"
  | .scalar (.bool _) => "bool"
  | .scalar (.int _) => "int"
  | .scalar (.float _) => "float"
  | .scalar (.text _) => "str"
  | .scalar (.date _) => "date"
  | .scalar (.time _) => "time"
  | .scalar (.timestamp ..) => "datetime"
  | .scalar (.bytes _) => "bytes"
  | .list _ | .again false => "list"
  | .mapping _ | .again true => "dict"
  | .tuple _ => "tuple"
  | .set _ => "set"

/-- The kinds of moments are named with the family that they belong to. -/
def qualifiedKind (value : Datum) : Text :=
  match value with
  | .scalar (.date _) | .scalar (.time _) | .scalar (.timestamp ..) => "datetime." ++ value.kind
  | _ => value.kind

end Datum

end SceneScript
