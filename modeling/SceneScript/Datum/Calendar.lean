import SceneScript.Text.Basic

/-! # Dates and times of day

* `CalendarDate`, `ClockTime` — a date, and a time of day;
* `CalendarDate.check` — which dates there are;
* `CalendarDate.ordinal`, `instant` — dates and times in a row.
-/

namespace SceneScript

structure CalendarDate where
  year : Nat
  month : Nat
  day : Nat
  deriving Repr, DecidableEq

/-- A time of day, to the microsecond. -/
structure ClockTime where
  hour : Nat
  minute : Nat
  second : Nat
  microsecond : Nat := 0
  deriving Repr, DecidableEq

inductive DateFault where
  /-- A number needs more than thirty-two bits. -/
  | tooLarge
  | year (number : Int)
  | month
  | day
  deriving Repr, DecidableEq

def DateFault.message : DateFault → Text
  | .tooLarge => "signed integer is out of range"
  | .year number => "year " ++ Text.ofInt number ++ " is out of range"
  | .month => "month must be in 1..12"
  | .day => "day is out of range for month"

def isLeapYear (year : Nat) : Bool :=
  year % 4 = 0 && (year % 100 ≠ 0 || year % 400 = 0)

def daysInMonth (year month : Nat) : Nat :=
  if month = 2 then if isLeapYear year then 29 else 28
  else if month = 4 ∨ month = 6 ∨ month = 9 ∨ month = 11 then 30
  else 31

/-- Whether a number fits into thirty-two bits. -/
def isWord (n : Int) : Bool := -0x80000000 ≤ n && n < 0x80000000

/-- The dates of the years 1 to 9999. -/
def CalendarDate.check (year month day : Int) : Except DateFault CalendarDate :=
  if ¬ ([year, month, day].all isWord) then .error .tooLarge
  else if year < 1 ∨ 9999 < year then .error (.year year)
  else if month < 1 ∨ 12 < month then .error .month
  else if day < 1 ∨ daysInMonth year.toNat month.toNat < day then .error .day
  else .ok ⟨year.toNat, month.toNat, day.toNat⟩

/-! ## Dates in a row -/

/-- The number of a day, where the first day of the year 1 has the number 1. -/
def CalendarDate.ordinal (d : CalendarDate) : Nat :=
  let past := d.year - 1
  365 * past + past / 4 - past / 100 + past / 400 +
    (List.range (d.month - 1)).foldl (fun days month => days + daysInMonth d.year (month + 1)) 0 +
    d.day

def secondsPerDay : Nat := 86400

/-- The microsecond at which a moment falls in universal time, given the offset in seconds. -/
def instant (date : CalendarDate) (time : ClockTime) (offset : Int) : Int :=
  1000000 * (secondsPerDay * date.ordinal + 3600 * time.hour + 60 * time.minute + time.second -
    offset) + time.microsecond

end SceneScript
