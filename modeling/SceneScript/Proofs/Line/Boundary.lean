import SceneScript.Line.Arguments
import SceneScript.Proofs.Text.Trimmed

/-! # The boundary of an argument

An argument begins at a blank that a hyphen follows directly. Texts without such a place are what
the parts of a line are made of, and a text falls apart exactly at these places.

* `Text.Unbroken`, `Text.Clean` — no boundary inside, and no blank at either end;
* `Text.breakAtHyphen?_eq_none`, `Text.breakAtHyphen?_eq_some` — what the search finds;
* `Text.hyphenated_append`, `Text.unbroken_of_mem_hyphenated` — the segments of a text.
-/

namespace SceneScript.Text

/-- No blank is directly followed by a hyphen. -/
def Unbroken (t : Text) : Prop :=
  ∀ before c after, t = before ++ c :: '-' :: after → isBlank c = false

/-- A text that can stand in a line as one of its parts. -/
structure Clean (t : Text) : Prop where
  trimmed : t.Trimmed
  unbroken : t.Unbroken

variable {a b t : Text} {c d : Char}

/-! ## Unbroken texts -/

@[simp] theorem unbroken_nil : Unbroken [] := by
  intro before c after same
  simp at same

@[simp] theorem unbroken_singleton : Unbroken [c] := by
  intro before d after same
  cases before <;> simp at same

theorem unbroken_cons_cons :
    Unbroken (c :: d :: t) ↔ (d = '-' → isBlank c = false) ∧ Unbroken (d :: t) := by
  constructor
  · intro unbroken
    refine ⟨?_, fun before e after same => unbroken (c :: before) e after (by rw [same]; rfl)⟩
    rintro rfl
    exact unbroken [] c t rfl
  · rintro ⟨here, later⟩ before e after same
    cases before with
    | nil =>
      obtain ⟨rfl, rfl, _⟩ : c = e ∧ d = '-' ∧ t = after := by simpa using same
      exact here rfl
    | cons f rest =>
      exact later rest e after (List.cons.inj same).2

theorem Unbroken.of_isInfix (unbroken : t.Unbroken) (inside : a <:+: t) : a.Unbroken := by
  rintro before c after rfl
  obtain ⟨front, back, rfl⟩ := inside
  exact unbroken (front ++ before) c (after ++ back) (by simp)

theorem unbroken_of_no_blank (ink : t.any isBlank = false) : t.Unbroken := by
  rintro before c after rfl
  exact not_blank_of_mem ink (by simp)

/-- A character that is neither a blank nor a hyphen can stand between two texts. -/
theorem Unbroken.append_cons (before : a.Unbroken) (after : b.Unbroken) (ink : isBlank c = false)
    (letter : c ≠ '-') : (a ++ c :: b).Unbroken := by
  have rest : Unbroken (c :: b) := by
    cases b with
    | nil => exact unbroken_singleton
    | cons d b => exact unbroken_cons_cons.2 ⟨fun _ => ink, after⟩
  induction a with
  | nil => exact rest
  | cons e a ih =>
    cases a with
    | nil => exact unbroken_cons_cons.2 ⟨fun same => absurd same letter, rest⟩
    | cons f a =>
      obtain ⟨here, later⟩ := unbroken_cons_cons.1 before
      exact unbroken_cons_cons.2 ⟨here, ih later⟩

theorem Clean.append_cons (before : a.Clean) (after : b.Clean) (ink : isBlank c = false)
    (letter : c ≠ '-') : (a ++ c :: b).Clean := by
  refine ⟨?_, before.unbroken.append_cons after.unbroken ink letter⟩
  have mark : Trimmed [c] := trimmed_of_no_blank (by simp [ink])
  exact before.trimmed.append (mark.append after.trimmed)

theorem clean_of_no_blank (ink : t.any isBlank = false) : t.Clean :=
  ⟨trimmed_of_no_blank ink, unbroken_of_no_blank ink⟩

theorem clean_strip (unbroken : t.Unbroken) : (strip t).Clean :=
  ⟨trimmed_strip t, unbroken.of_isInfix (strip_isInfix t)⟩

/-! ## The first boundary -/

theorem breakAtHyphen?_append (unbroken : a.Unbroken) (blank : isBlank c) :
    breakAtHyphen? (a ++ c :: '-' :: b) = some (a, b) := by
  induction a with
  | nil => simp [breakAtHyphen?, blank]
  | cons d a ih =>
    cases a with
    | nil =>
      -- the blank is no hyphen, so that the search does not end one character too early
      have letter : c ≠ '-' := by
        rintro rfl
        exact absurd blank (by decide)
      simp [breakAtHyphen?, letter, blank]
    | cons e a =>
      obtain ⟨here, later⟩ := unbroken_cons_cons.1 unbroken
      have passed : ¬(isBlank d ∧ e = '-') := by
        rintro ⟨isBlank_d, hyphen⟩
        rw [here hyphen] at isBlank_d
        cases isBlank_d
      have found := ih later
      simp only [List.cons_append] at found
      simp only [List.cons_append, breakAtHyphen?, if_neg passed, found, Option.map_some]

theorem breakAtHyphen?_eq_none : breakAtHyphen? t = none ↔ t.Unbroken := by
  fun_induction breakAtHyphen? t with
  | case1 => simp
  | case2 => simp
  | case3 c d rest here =>
    simp [unbroken_cons_cons, here]
  | case4 c d rest passed ih =>
    rw [Option.map_eq_none_iff, ih, unbroken_cons_cons]
    grind

/-- What is found is the first boundary of the text. -/
theorem breakAtHyphen?_eq_some (found : breakAtHyphen? t = some (a, b)) :
    ∃ c, isBlank c ∧ t = a ++ c :: '-' :: b ∧ a.Unbroken := by
  fun_induction breakAtHyphen? t generalizing a b with
  | case1 => cases found
  | case2 => cases found
  | case3 c d rest here =>
    obtain ⟨blank, rfl⟩ := here
    cases found
    exact ⟨c, blank, rfl, unbroken_nil⟩
  | case4 c d rest passed ih =>
    obtain ⟨⟨before, after⟩, inner, same⟩ := Option.map_eq_some_iff.1 found
    cases same
    obtain ⟨e, blank, rest_eq, unbroken⟩ := ih inner
    refine ⟨e, blank, by rw [rest_eq]; rfl, ?_⟩
    cases before with
    | nil => exact unbroken_singleton
    | cons f before =>
      cases rest_eq
      exact unbroken_cons_cons.2 ⟨by grind, unbroken⟩

/-! ## Segments -/

theorem hyphenated_of_unbroken (unbroken : t.Unbroken) : hyphenated t = [t] := by
  rw [hyphenated]
  split
  next => rfl
  next found => rw [breakAtHyphen?_eq_none.2 unbroken] at found; cases found

theorem hyphenated_append (unbroken : a.Unbroken) (blank : isBlank c) :
    hyphenated (a ++ c :: '-' :: b) = a :: hyphenated b := by
  rw [hyphenated]
  split
  next found => rw [breakAtHyphen?_append unbroken blank] at found; cases found
  next found =>
    rw [breakAtHyphen?_append unbroken blank] at found
    cases found
    rfl

theorem unbroken_of_mem_hyphenated {segment : Text} (member : segment ∈ hyphenated t) :
    segment.Unbroken := by
  fun_induction hyphenated t with
  | case1 t found =>
    obtain rfl := List.mem_singleton.1 member
    exact breakAtHyphen?_eq_none.1 found
  | case2 t before after found _ ih =>
    obtain ⟨_, _, _, unbroken⟩ := breakAtHyphen?_eq_some found
    rcases List.mem_cons.1 member with rfl | later
    · exact unbroken
    · exact ih later

end SceneScript.Text
