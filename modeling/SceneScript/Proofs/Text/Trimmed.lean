import SceneScript.Text.Blank

/-! # Trimmed texts

A text is trimmed if it has no blank at either end; stripping makes a text so and leaves such a text
as it is.

* `Text.TrimmedStart`, `Text.TrimmedEnd`, `Text.Trimmed` — no blank at the start, at the end, at
  either end;
* `Text.trimmed_strip`, `Text.strip_eq_self` — what stripping does;
* `Text.strip_isInfix` — what is left lies in one piece in the text.
-/

namespace SceneScript.Text

def TrimmedStart (t : Text) : Prop := ∀ c ∈ t.head?, isBlank c = false

instance (t : Text) : Decidable t.TrimmedStart := Option.decidableForallMem t.head?

def TrimmedEnd (t : Text) : Prop := ∀ c ∈ t.getLast?, isBlank c = false

structure Trimmed (t : Text) : Prop where
  start : t.TrimmedStart
  finish : t.TrimmedEnd

variable {a b t : Text}

/-! ## Trimmed texts side by side -/

@[simp] theorem trimmedStart_nil : TrimmedStart [] := by simp [TrimmedStart]

@[simp] theorem trimmedEnd_nil : TrimmedEnd [] := by simp [TrimmedEnd]

@[simp] theorem trimmedStart_cons {c : Char} :
    TrimmedStart (c :: t) ↔ isBlank c = false := by
  simp [TrimmedStart]

theorem trimmedEnd_append (before : a.TrimmedEnd) (after : b.TrimmedEnd) :
    (a ++ b).TrimmedEnd := by
  intro c last
  rw [List.getLast?_append] at last
  cases ends : b.getLast? with
  | none =>
    rw [ends] at last
    exact before c last
  | some d =>
    rw [ends] at last
    exact after c (by rw [ends]; exact last)

theorem trimmedStart_append (before : a.TrimmedStart) (after : a = [] → b.TrimmedStart) :
    (a ++ b).TrimmedStart := by
  cases a with
  | nil => exact after rfl
  | cons c rest => exact before

theorem Trimmed.append (before : a.Trimmed) (after : b.Trimmed) : (a ++ b).Trimmed :=
  ⟨trimmedStart_append before.start fun _ => after.start,
    trimmedEnd_append before.finish after.finish⟩

theorem not_blank_of_mem (ink : t.any isBlank = false) {c : Char} (member : c ∈ t) :
    isBlank c = false := by
  simpa using List.any_eq_false.1 ink c member

theorem trimmed_of_no_blank (ink : t.any isBlank = false) : t.Trimmed :=
  ⟨fun _ first => not_blank_of_mem ink (List.mem_of_mem_head? first),
    fun _ last => not_blank_of_mem ink (List.mem_of_mem_getLast? last)⟩

/-! ## Stripping -/

theorem trimmedStart_reverse : TrimmedStart t.reverse ↔ t.TrimmedEnd := by
  simp [TrimmedStart, TrimmedEnd]

theorem stripStart_eq_self (trimmed : t.TrimmedStart) : stripStart t = t := by
  cases t with
  | nil => rfl
  | cons c rest => simp [stripStart, trimmedStart_cons.1 trimmed]

theorem stripEnd_eq_self (trimmed : t.TrimmedEnd) : stripEnd t = t := by
  have start := stripStart_eq_self (trimmedStart_reverse.2 trimmed)
  rw [stripStart] at start
  rw [stripEnd, start, List.reverse_reverse]

theorem strip_eq_self (trimmed : t.Trimmed) : strip t = t := by
  rw [strip, stripStart_eq_self trimmed.start, stripEnd_eq_self trimmed.finish]

theorem trimmedStart_stripStart (t : Text) : (stripStart t).TrimmedStart := by
  induction t with
  | nil => exact trimmedStart_nil
  | cons c rest ih =>
    by_cases blank : isBlank c
    · simpa [stripStart, blank] using ih
    · simp [stripStart, blank]

theorem trimmedEnd_stripEnd (t : Text) : (stripEnd t).TrimmedEnd := by
  rw [← trimmedStart_reverse, stripEnd, List.reverse_reverse]
  exact trimmedStart_stripStart t.reverse

theorem stripEnd_isPrefix (t : Text) : stripEnd t <+: t := by
  rw [← List.reverse_suffix, stripEnd, List.reverse_reverse]
  exact List.dropWhile_suffix _

theorem strip_isInfix (t : Text) : strip t <:+: t :=
  (stripEnd_isPrefix _).isInfix.trans (List.dropWhile_suffix _).isInfix

theorem trimmed_strip (t : Text) : (strip t).Trimmed := by
  refine ⟨?_, trimmedEnd_stripEnd _⟩
  obtain ⟨rest, same⟩ := stripEnd_isPrefix (stripStart t)
  have start := trimmedStart_stripStart t
  rw [← same] at start
  cases first : strip t with
  | nil => exact trimmedStart_nil
  | cons c _ =>
    rw [strip] at first
    rw [first] at start
    exact start

theorem firstWord_isInfix (t : Text) : firstWord t <:+: t := by
  have word : firstWord t <+: stripStart t := List.takeWhile_prefix _
  exact word.isInfix.trans (List.dropWhile_suffix _).isInfix

end SceneScript.Text
