/-! # Text

Script text is handled as the list of its characters, so every offset and length counts characters.
This module holds the operations that need no character table:

* `Text.startsWith`, `Text.endsWith`, `Text.dropEnd` — the two ends of a text;
* `Text.find?`, `Text.breakAt?` — the first occurrence of a character;
* `Text.splitWhere`, `Text.pieces`, `Text.runs`, `Text.join` — cutting at characters, and joining;
* `Text.replace` — one text for another, left to right;
* `Text.ofNat`, `Text.ofInt`, `Text.padded` — numerals;
* `Text.ble`, `Text.sort` — the order of texts.
-/

namespace SceneScript

abbrev Text := List Char

instance : Coe String Text := ⟨String.toList⟩

/-- Whether a list is a start of another one, or smaller where they first differ. -/
def lexLe {α : Type} [DecidableEq α] (lt : α → α → Bool) : List α → List α → Bool
  | [], _ => true
  | _ :: _, [] => false
  | a :: as, b :: bs => lt a b || (a = b && lexLe lt as bs)

theorem lexLe_total {α : Type} [DecidableEq α] {lt : α → α → Bool}
    (connected : ∀ a b, lt a b ∨ a = b ∨ lt b a) (as bs : List α) :
    lexLe lt as bs || lexLe lt bs as := by
  induction as generalizing bs with
  | nil => simp [lexLe]
  | cons a as ih =>
    cases bs with
    | nil => simp [lexLe]
    | cons b bs =>
      rcases connected a b with below | rfl | above
      · simp [lexLe, below]
      · simp only [lexLe, Bool.or_eq_true, Bool.and_eq_true, decide_eq_true_eq] at *
        rcases ih bs with before | after
        · exact .inl (.inr ⟨trivial, before⟩)
        · exact .inr (.inr ⟨trivial, after⟩)
      · simp [lexLe, above]

theorem lexLe_trans {α : Type} [DecidableEq α] {lt : α → α → Bool}
    (trans : ∀ a b c, lt a b → lt b c → lt a c) {as bs cs : List α}
    (first : lexLe lt as bs) (second : lexLe lt bs cs) : lexLe lt as cs := by
  induction as generalizing bs cs with
  | nil => simp [lexLe]
  | cons a as ih =>
    cases bs with
    | nil => simp [lexLe] at first
    | cons b bs =>
      cases cs with
      | nil => simp [lexLe] at second
      | cons c cs =>
        simp only [lexLe, Bool.or_eq_true, Bool.and_eq_true, decide_eq_true_eq] at *
        rcases first with below | ⟨rfl, first⟩
        · rcases second with above | ⟨rfl, _⟩
          · exact .inl (trans a b c below above)
          · exact .inl below
        · rcases second with above | ⟨rfl, second⟩
          · exact .inl above
          · exact .inr ⟨rfl, ih first second⟩

namespace Text

def toString (t : Text) : String := String.ofList t

def ofNat (n : Nat) : Text := Nat.toDigits 10 n

def ofInt : Int → Text
  | .ofNat n => ofNat n
  | .negSucc n => '-' :: ofNat (n + 1)

/-- A numeral in some base, with zeros in front up to `width` digits. -/
def padded (base width n : Nat) : Text :=
  let digits := Nat.toDigits base n
  List.replicate (width - digits.length) '0' ++ digits

/-- The order of texts is that of their code points. -/
def ble : Text → Text → Bool := lexLe fun c d => decide (c.toNat < d.toNat)

def blt (a b : Text) : Bool := !ble b a

def sort (ts : List Text) : List Text := ts.mergeSort ble

theorem ble_total (a b : Text) : ble a b || ble b a := by
  refine lexLe_total (fun c d => ?_) a b
  have same : c = d ↔ c.toNat = d.toNat :=
    ⟨fun h => h ▸ rfl, fun h => Char.ext (UInt32.toNat_inj.1 h)⟩
  simp only [decide_eq_true_eq, same]
  omega

theorem ble_trans {a b c : Text} : ble a b → ble b c → ble a c := by
  refine lexLe_trans fun x y z => ?_
  simp only [decide_eq_true_eq]
  omega

/-! ## The two ends -/

def startsWith (start : Text) (t : Text) : Bool := start.isPrefixOf t

def endsWith (ending : Text) (t : Text) : Bool := ending.isSuffixOf t

def dropEnd (count : Nat) (t : Text) : Text := t.take (t.length - count)

/-! ## The first occurrence of a character -/

/-- The text before and after the first `mark`. -/
def breakAt? (mark : Char) : Text → Option (Text × Text)
  | [] => none
  | c :: rest =>
    if c = mark then some ([], rest)
    else (breakAt? mark rest).map fun (before, after) => (c :: before, after)

def find? (mark : Char) (t : Text) : Option Nat :=
  (breakAt? mark t).map (·.1.length)

@[simp] theorem breakAt?_nil {mark : Char} : breakAt? mark [] = none := rfl

theorem breakAt?_eq_some {mark : Char} {t before after : Text}
    (found : breakAt? mark t = some (before, after)) :
    t = before ++ mark :: after ∧ mark ∉ before := by
  induction t generalizing before after with
  | nil => simp at found
  | cons c rest ih =>
    unfold breakAt? at found
    split at found
    · simp_all
    · obtain ⟨⟨b, a⟩, inner, same⟩ := Option.map_eq_some_iff.1 found
      obtain ⟨rfl, rfl⟩ := Prod.mk.inj same
      obtain ⟨rfl, absent⟩ := ih inner
      simp_all [eq_comm]

theorem breakAt?_eq_none {mark : Char} {t : Text} : breakAt? mark t = none ↔ mark ∉ t := by
  induction t with
  | nil => simp
  | cons c rest ih =>
    unfold breakAt?
    by_cases here : c = mark
    · simp [here]
    · simp [here, ih, Ne.symm here]

theorem breakAt?_append {mark : Char} {before : Text} (absent : mark ∉ before) (after : Text) :
    breakAt? mark (before ++ mark :: after) = some (before, after) := by
  induction before with
  | nil => simp [breakAt?]
  | cons c rest ih =>
    simp only [List.mem_cons, not_or] at absent
    simp [breakAt?, Ne.symm absent.1, ih absent.2]

/-! ## Pieces -/

/-- The texts between the characters that satisfy `cut`; there is always at least one. -/
def splitWhere (cut : Char → Bool) : Text → List Text
  | [] => [[]]
  | c :: rest =>
    if cut c then [] :: splitWhere cut rest
    else (splitWhere cut rest).modifyHead (c :: ·)

def pieces (mark : Char) (t : Text) : List Text := splitWhere (· = mark) t

/-- The maximal runs of characters that satisfy `keep`. -/
def runs (keep : Char → Bool) (t : Text) : List Text :=
  (splitWhere (!keep ·) t).filter (· ≠ [])

def join (separator : Text) (parts : List Text) : Text :=
  List.intercalate separator parts

def lines (document : Text) : List Text := pieces '\n' document

theorem splitWhere_ne_nil (cut : Char → Bool) (t : Text) : splitWhere cut t ≠ [] := by
  induction t with
  | nil => simp [splitWhere]
  | cons c rest ih =>
    unfold splitWhere
    split
    · simp
    · cases h : splitWhere cut rest <;> simp_all

@[simp] theorem pieces_nil {mark : Char} : pieces mark [] = [[]] := rfl

@[simp] theorem pieces_mark {mark : Char} {rest : Text} :
    pieces mark (mark :: rest) = [] :: pieces mark rest := by
  simp [pieces, splitWhere]

theorem splitWhere_of_forall_not {cut : Char → Bool} {t : Text}
    (uncut : ∀ c ∈ t, cut c = false) : splitWhere cut t = [t] := by
  induction t with
  | nil => rfl
  | cons c rest ih =>
    simp only [List.mem_cons, forall_eq_or_imp] at uncut
    simp [splitWhere, uncut.1, ih uncut.2]

theorem splitWhere_append_cons {cut : Char → Bool} {c : Char} (cuts : cut c) (a b : Text) :
    splitWhere cut (a ++ c :: b) = splitWhere cut a ++ splitWhere cut b := by
  induction a with
  | nil => simp [splitWhere, cuts]
  | cons d rest ih =>
    simp only [List.cons_append, splitWhere, ih]
    split
    · simp
    · cases h : splitWhere cut rest with
      | nil => exact absurd h (splitWhere_ne_nil cut rest)
      | cons first others => simp

/-! ## Replacement -/

/-- Every occurrence of `old`, found from the left without overlap, becomes `new`. -/
def replace (old new : Text) (t : Text) : Text :=
  match t with
  | [] => []
  | c :: rest =>
    if old ≠ [] ∧ startsWith old (c :: rest) then
      new ++ replace old new (rest.drop (old.length - 1))
    else c :: replace old new rest
termination_by t.length
decreasing_by
  all_goals simp only [List.length_cons, List.length_drop]; omega

end Text

end SceneScript
