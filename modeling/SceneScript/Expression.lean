import SceneScript.Text.Blank

/-! # Expressions

Conditions and assigned values are never evaluated; only the variables that they name matter.

* `identifiers` — every variable named in an expression, in order, with repetitions;
* `distinctIdentifiers` — each of them once, where it first appears;
* `Assignment.ofText?` — a name and a value, cut at the first equals sign.
-/

namespace SceneScript

def isWordChar (c : Char) : Bool := c.isAlphanum || c = '_'

/-- Words of the expression language that name no variable: literals and operators. -/
def reservedWords : List Text :=
  ["true", "false", "null", "undefined", "and", "or", "not", "Infinity"]

/-- A run of word characters names a variable unless it starts with a digit or is reserved. -/
def isIdentifier : Text → Bool
  | [] => false
  | c :: rest => !c.isDigit && !(reservedWords.contains (c :: rest))

def identifiers (expression : Text) : List Text :=
  (Text.runs isWordChar expression).filter isIdentifier

/-- Each element of a list once, where it first appears. -/
def firstOccurrences {α : Type} [DecidableEq α] : List α → List α
  | [] => []
  | a :: rest => a :: (firstOccurrences rest).filter (· ≠ a)

def distinctIdentifiers (expression : Text) : List Text :=
  firstOccurrences (identifiers expression)

structure Assignment where
  name : Text
  value : Text
  deriving Repr, DecidableEq

def Assignment.ofText? (expression : Text) : Option Assignment :=
  match Text.breakAt? '=' expression with
  | none => none
  | some (name, value) =>
    let name := Text.strip name
    if name = [] then none else some ⟨name, Text.strip value⟩

theorem mem_firstOccurrences {α : Type} [DecidableEq α] {a : α} {xs : List α} :
    a ∈ firstOccurrences xs ↔ a ∈ xs := by
  induction xs with
  | nil => simp [firstOccurrences]
  | cons x rest ih =>
    by_cases same : a = x <;> simp [firstOccurrences, ih, same]

theorem nodup_firstOccurrences {α : Type} [DecidableEq α] (xs : List α) :
    (firstOccurrences xs).Nodup := by
  induction xs with
  | nil => simp [firstOccurrences]
  | cons x rest ih =>
    simp only [firstOccurrences, List.nodup_cons, List.mem_filter]
    exact ⟨by simp, ih.filter _⟩

theorem firstOccurrences_of_nodup {α : Type} [DecidableEq α] {xs : List α} (distinct : xs.Nodup) :
    firstOccurrences xs = xs := by
  induction xs with
  | nil => rfl
  | cons x rest ih =>
    obtain ⟨absent, distinct⟩ := List.nodup_cons.1 distinct
    have kept : rest.filter (· ≠ x) = rest := by
      rw [List.filter_eq_self]
      intro a member
      simp only [ne_eq, decide_eq_true_eq]
      rintro rfl
      exact absent member
    rw [firstOccurrences, ih distinct, kept]

theorem firstOccurrences_concat {α : Type} [DecidableEq α] (xs : List α) (a : α) :
    firstOccurrences (xs ++ [a]) =
      if a ∈ xs then firstOccurrences xs else firstOccurrences xs ++ [a] := by
  induction xs with
  | nil => rfl
  | cons x rest ih =>
    rw [List.cons_append, firstOccurrences, ih]
    by_cases here : a ∈ rest
    · simp [here, firstOccurrences]
    · by_cases same : a = x
      · subst same
        simp [here, firstOccurrences]
      · simp [here, same, firstOccurrences]

/-- The first occurrences stand in the order in which they occur first. -/
theorem pairwise_idxOf_firstOccurrences {α : Type} [DecidableEq α] [BEq α] [LawfulBEq α]
    (xs : List α) :
    (firstOccurrences xs).Pairwise fun a b => xs.idxOf a < xs.idxOf b := by
  induction xs with
  | nil => exact .nil
  | cons x rest ih =>
    have shifted {a : α} (kept : a ∈ (firstOccurrences rest).filter (· ≠ x)) :
        (x :: rest).idxOf a = rest.idxOf a + 1 := by
      have other : x ≠ a := Ne.symm (of_decide_eq_true (List.mem_filter.mp kept).2)
      simp [List.idxOf_cons, beq_false_of_ne other]
    refine List.pairwise_cons.mpr ⟨fun a kept => ?_, ?_⟩
    · rw [List.idxOf_cons_self, shifted kept]
      exact Nat.succ_pos _
    · refine (ih.filter _).imp_of_mem fun keptA keptB before => ?_
      rw [shifted keptA, shifted keptB]
      exact Nat.succ_lt_succ before

end SceneScript
