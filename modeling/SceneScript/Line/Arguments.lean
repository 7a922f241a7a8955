import SceneScript.OrderedMap
import SceneScript.Text.Blank

/-! # Arguments of a line

A line ends in arguments, written as a blank, a hyphen, a key and, after an equals sign, a value.

* `Text.breakAtHyphen?` — the first blank that a hyphen follows;
* `Text.hyphenated` — the segments after each such blank;
* `Argument.ofSegment?` — the key and the value of one segment, if it names any;
* `splitArguments` — the main part of a line and its arguments.
-/

namespace SceneScript

abbrev Arguments := OrderedMap Text Text

/-- The text before the first blank that a hyphen follows, and the text after that hyphen. -/
def Text.breakAtHyphen? : Text → Option (Text × Text)
  | [] => none
  | [_] => none
  | c :: d :: rest =>
    if isBlank c ∧ d = '-' then some ([], rest)
    else (Text.breakAtHyphen? (d :: rest)).map fun (before, after) => (c :: before, after)

theorem Text.length_of_breakAtHyphen? {t before after : Text}
    (found : Text.breakAtHyphen? t = some (before, after)) : after.length < t.length := by
  fun_induction Text.breakAtHyphen? t generalizing before after with
  | case1 => simp at found
  | case2 => simp at found
  | case3 c d rest here =>
    obtain ⟨rfl, rfl⟩ := Prod.mk.inj (Option.some.inj found)
    simp only [List.length_cons]
    omega
  | case4 c d rest _ ih =>
    obtain ⟨⟨b, a⟩, inner, same⟩ := Option.map_eq_some_iff.1 found
    obtain ⟨rfl, rfl⟩ := Prod.mk.inj same
    have := ih inner
    simp only [List.length_cons] at this ⊢
    omega

/-- The text up to the first hyphen after a blank, and one segment for every such hyphen. -/
def Text.hyphenated (t : Text) : List Text :=
  match h : Text.breakAtHyphen? t with
  | none => [t]
  | some (before, after) =>
    have := Text.length_of_breakAtHyphen? h
    before :: Text.hyphenated after
termination_by t.length

/-- The value of an argument that is written without one. -/
def Argument.flagValue : Text := "true"

def Argument.ofSegment? (segment : Text) : Option (Text × Text) :=
  let segment := Text.strip segment
  match Text.breakAt? '=' segment with
  | some (key, value) =>
    let key := Text.strip key
    if key = [] then none else some (key, Text.strip value)
  | none => if segment = [] then none else some (Text.firstWord segment, Argument.flagValue)

def Arguments.ofSegments (segments : List Text) : Arguments :=
  OrderedMap.ofList (segments.filterMap Argument.ofSegment?)

/-- A body without arguments is left as it stands; otherwise the part before them is stripped. -/
def splitArguments (body : Text) : Text × Arguments :=
  match Text.breakAtHyphen? body with
  | none => (body, ∅)
  | some (main, tail) =>
    (Text.strip main, Arguments.ofSegments (Text.hyphenated (Text.stripEnd tail)))

@[simp] theorem splitArguments_of_none {body : Text}
    (unmarked : Text.breakAtHyphen? body = none) : splitArguments body = (body, ∅) := by
  simp [splitArguments, unmarked]

end SceneScript
