import SceneScript.Datum.Calendar
import SceneScript.Decimal
import SceneScript.Text.Blank

/-! # Data

The values that configuration files and structured output are made of.

* `Scalar`, `Datum` — the values;
* `Scalar.sameKey`, `Scalar.putIn` — which keys of a mapping are one;
* `Datum.lookup?` — the value of a key that is a text;
* `Datum.isEmpty` — the values that count as nothing.
-/

namespace SceneScript

inductive Scalar where
  | null
  | bool (value : Bool)
  | int (value : Int)
  | float (value : Float)
  | text (value : Text)
  | date (value : CalendarDate)
  | time (value : ClockTime)
  | timestamp (date : CalendarDate) (time : ClockTime) (offset : Option Int)
  | bytes (value : List UInt8)
  deriving Repr, BEq

/-- What configuration files and structured output hold. -/
inductive Datum where
  | scalar (value : Scalar)
  | list (items : List Datum)
  | mapping (entries : List (Scalar × Datum))
  /-- A fixed number of values in a row. -/
  | tuple (items : List Datum)
  | set (members : List Scalar)
  /-- A list or a mapping inside itself. -/
  | again (isMapping : Bool)
  deriving Repr, BEq

instance : Inhabited Datum := ⟨.scalar .null⟩

namespace Datum

@[match_pattern] abbrev null : Datum := .scalar .null
@[match_pattern] abbrev bool (value : Bool) : Datum := .scalar (.bool value)
@[match_pattern] abbrev int (value : Int) : Datum := .scalar (.int value)
@[match_pattern] abbrev float (value : Float) : Datum := .scalar (.float value)
@[match_pattern] abbrev text (value : Text) : Datum := .scalar (.text value)

/-- A mapping whose keys are texts. -/
def object (entries : List (Text × Datum)) : Datum :=
  .mapping (entries.map fun (key, value) => (.text key, value))

def texts (items : List Text) : Datum := .list (items.map .text)

end Datum

/-! ## Keys -/

/-- Whether a float is the given integer. -/
def isInteger (n : Int) (x : Float) : Bool :=
  match DoubleParts.ofFloat x with
  | .finite negative mantissa exponent =>
    if 0 ≤ exponent then n = Text.applySign negative (mantissa * Nat.pow 2 exponent.toNat)
    else n * (Nat.pow 2 (-exponent).toNat : Nat) = Text.applySign negative mantissa
  | _ => false

namespace Scalar

/-- The number that a key counts as; flags count as zero and one. -/
def integer? : Scalar → Option Int
  | .bool b => some (if b then 1 else 0)
  | .int n => some n
  | _ => none

/-- Two keys are the same if they are equal as numbers, as moments or as they are. -/
def sameKey (a b : Scalar) : Bool :=
  match a, b with
  | .float x, .float y => x == y
  | .float x, other | other, .float x => other.integer?.any fun n => isInteger n x
  | .timestamp d₁ t₁ o₁, .timestamp d₂ t₂ o₂ =>
    match o₁, o₂ with
    | some o₁, some o₂ => instant d₁ t₁ o₁ = instant d₂ t₂ o₂
    | none, none => d₁ = d₂ && t₁ = t₂
    | _, _ => false
  | _, _ =>
    match a.integer?, b.integer? with
    | some m, some n => m = n
    | none, none => a == b
    | _, _ => false

/-- Writes a key: a key that is present keeps its place. -/
def putIn (key : Scalar) (value : Datum) : List (Scalar × Datum) → List (Scalar × Datum)
  | [] => [(key, value)]
  | (k, v) :: rest =>
    if k.sameKey key then (k, value) :: rest else (k, v) :: putIn key value rest

end Scalar

def Datum.lookupIn? (key : Text) : List (Scalar × Datum) → Option Datum
  | [] => none
  | (.text k, v) :: rest => if k = key then some v else lookupIn? key rest
  | _ :: rest => lookupIn? key rest

def Datum.lookup? (key : Text) : Datum → Option Datum
  | .mapping entries => lookupIn? key entries
  | _ => none

/-! ## Nothing -/

def Scalar.isEmpty : Scalar → Bool
  | .null | .bool false | .int 0 | .text [] | .bytes [] => true
  | .float x => x == 0.0
  | _ => false

/-- Null, false, zero, and what has no parts. -/
def Datum.isEmpty : Datum → Bool
  | .scalar value => value.isEmpty
  | .list [] | .mapping [] | .tuple [] | .set [] => true
  | _ => false

end SceneScript
