import SceneScript.Text.Basic
import SceneScript.Text.CaseTable

/-! # Lower, upper and title case

* `Text.lower`, `Text.upper` — every character in one case;
* `Text.title` — a letter after another letter in lower case, any other in title case.
-/

namespace SceneScript

def inRanges (ranges : List (Nat × Nat)) (c : Char) : Bool :=
  ranges.any fun (low, high) => low ≤ c.toNat && c.toNat ≤ high

namespace CaseRun

def contains (run : CaseRun) (code : Nat) : Bool :=
  run.first ≤ code && code ≤ run.last && (code - run.first) % run.step = 0

def moveChar (runs : List CaseRun) (c : Char) : Char :=
  match runs.find? (·.contains c.toNat) with
  | some run => Char.ofNat (c.toNat + run.distance).toNat
  | none => c

end CaseRun

def isCased (c : Char) : Bool := inRanges casedRanges c

def isCaseIgnorable (c : Char) : Bool := inRanges caseIgnorableRanges c

namespace Text

def mapCase (sequences : List (Nat × List Nat)) (other : Char → Text) (c : Char) : Text :=
  match sequences.lookup c.toNat with
  | some codes => codes.map Char.ofNat
  | none => other c

def lowerChar : Char → Text :=
  mapCase lowerSequences fun c => [CaseRun.moveChar lowerRuns c]

def upperChar : Char → Text :=
  mapCase upperSequences fun c => [CaseRun.moveChar upperRuns c]

def titleChar : Char → Text := mapCase titleSequences upperChar

def sigma : Char := '\u03a3'
def finalSigma : Char := '\u03c2'

/-- Whether the first character that counts has a case. -/
def startsCased (t : Text) : Bool := (t.dropWhile isCaseIgnorable).head?.any isCased

/-- Whether the last character that counts has a case, after one more character. -/
def casedAfter (cased : Bool) (c : Char) : Bool :=
  if isCaseIgnorable c then cased else isCased c

/-- The lower case of a character between others. A capital sigma that ends a word becomes a final
sigma. -/
def lowerBetween (cased : Bool) (c : Char) (rest : Text) : Text :=
  if c = sigma ∧ cased ∧ !startsCased rest then [finalSigma] else lowerChar c

/-- `cased` says whether a word is under way. -/
def lowerAfter (cased : Bool) : Text → Text
  | [] => []
  | c :: rest => lowerBetween cased c rest ++ lowerAfter (casedAfter cased c) rest

def lower (t : Text) : Text := lowerAfter false t

def upper (t : Text) : Text := t.flatMap upperChar

/-- `isLater` says whether the character before has a case. -/
def titleAfter (isLater cased : Bool) : Text → Text
  | [] => []
  | c :: rest =>
    (if isLater then lowerBetween cased c rest else titleChar c) ++
      titleAfter (isCased c) (casedAfter cased c) rest

def title (t : Text) : Text := titleAfter false false t

end Text

end SceneScript
