import Mathlib.Data.List.TakeWhile
import SceneScript.Proofs.Text.Trimmed

/-! # Margins

Stripping takes the blanks off both ends of a text. So a text is its stripped form between two
margins of blanks, and blanks that are added to the margins are taken off as well.

* `Text.Blank` — nothing but blanks;
* `Text.exists_blank_append`, `Text.exists_append_blank`, `Text.exists_margins` — the two margins of
  a text;
* `Text.strip_append_blanks` — wider margins;
* `Text.stripStart_isPrefix` — what a text begins with behind its margin.
-/

namespace SceneScript.Text

def Blank (t : Text) : Prop := ∀ c ∈ t, isBlank c = true

instance (t : Text) : Decidable t.Blank := List.decidableBAll (isBlank · = true) t

variable {a b t before after : Text}

/-! ## Texts without ink -/

theorem stripStart_eq_nil_iff : stripStart t = [] ↔ t.Blank := List.dropWhile_eq_nil_iff

theorem strip_eq_nil_iff : strip t = [] ↔ t.Blank := by
  constructor
  · intro none
    have reversed : (stripStart t).reverse.dropWhile isBlank = [] := List.reverse_eq_nil_iff.mp none
    have blank : (stripStart t).Blank := by
      intro c member
      exact List.dropWhile_eq_nil_iff.mp reversed c (List.mem_reverse.mpr member)
    -- what is left behind the first blanks starts with ink, unless it is empty
    have empty : stripStart (stripStart t) = [] := stripStart_eq_nil_iff.mpr blank
    rw [stripStart_eq_self (trimmedStart_stripStart t)] at empty
    exact stripStart_eq_nil_iff.mp empty
  · intro blank
    rw [strip, stripStart_eq_nil_iff.mpr blank]
    rfl

/-! ## Margins -/

theorem exists_blank_append (t : Text) : ∃ margin, Blank margin ∧ t = margin ++ stripStart t := by
  refine ⟨t.takeWhile isBlank, ?_, List.takeWhile_append_dropWhile.symm⟩
  intro c member
  exact List.mem_takeWhile_imp member

theorem exists_append_blank (t : Text) : ∃ margin, Blank margin ∧ t = stripEnd t ++ margin := by
  obtain ⟨margin, blank, split⟩ := exists_blank_append t.reverse
  refine ⟨margin.reverse, ?_, ?_⟩
  · intro c member
    exact blank c (List.mem_reverse.mp member)
  · have reversed := congrArg List.reverse split
    rw [List.reverse_reverse, List.reverse_append] at reversed
    exact reversed

/-- A text is its stripped form between its two margins. -/
theorem exists_margins (t : Text) :
    ∃ before after, Blank before ∧ Blank after ∧ t = before ++ strip t ++ after := by
  obtain ⟨before, blankBefore, start⟩ := exists_blank_append t
  obtain ⟨after, blankAfter, finish⟩ := exists_append_blank (stripStart t)
  refine ⟨before, after, blankBefore, blankAfter, ?_⟩
  rw [List.append_assoc]
  exact start.trans (congrArg (before ++ ·) finish)

theorem stripStart_blank_append (blank : before.Blank) (t : Text) :
    stripStart (before ++ t) = stripStart t :=
  List.dropWhile_append_of_pos blank

theorem stripEnd_append_blank (blank : after.Blank) (t : Text) :
    stripEnd (t ++ after) = stripEnd t := by
  have reversed : ∀ c ∈ after.reverse, isBlank c = true := by
    intro c member
    exact blank c (List.mem_reverse.mp member)
  rw [stripEnd, List.reverse_append, List.dropWhile_append_of_pos reversed]
  rfl

/-- Behind some ink nothing more is taken off the start. -/
theorem stripStart_append (ink : ¬ a.Blank) (b : Text) :
    stripStart (a ++ b) = stripStart a ++ b := by
  have filled : (a.dropWhile isBlank).isEmpty = false :=
    List.isEmpty_eq_false_iff.mpr (mt stripStart_eq_nil_iff.mp ink)
  rw [stripStart, List.dropWhile_append, filled]
  rfl

/-- Blanks around a text are stripped with it. -/
theorem strip_append_blanks (blankBefore : before.Blank) (blankAfter : after.Blank) (t : Text) :
    strip (before ++ t ++ after) = strip t := by
  rw [strip, List.append_assoc, stripStart_blank_append blankBefore]
  by_cases ink : t.Blank
  · have blank : (t ++ after).Blank := List.forall_mem_append.mpr ⟨ink, blankAfter⟩
    rw [stripStart_eq_nil_iff.mpr blank, strip_eq_nil_iff.mpr ink]
    rfl
  · rw [stripStart_append ink, stripEnd_append_blank blankAfter, strip]

theorem stripStart_isPrefix (inside : a <+: b) : stripStart a <+: stripStart b := by
  obtain ⟨rest, rfl⟩ := inside
  by_cases blank : a.Blank
  · rw [stripStart_eq_nil_iff.mpr blank]
    exact List.nil_prefix
  · rw [stripStart_append blank]
    exact List.prefix_append _ rest

theorem strip_isPrefix (t : Text) : strip t <+: stripStart t := stripEnd_isPrefix _

theorem head?_stripStart (filled : strip t ≠ []) : (stripStart t).head? = (strip t).head? := by
  obtain ⟨rest, split⟩ := strip_isPrefix t
  obtain ⟨c, more, first⟩ := List.exists_cons_of_ne_nil filled
  rw [← split, first]
  rfl

end SceneScript.Text
