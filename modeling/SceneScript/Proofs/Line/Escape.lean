import SceneScript.Line.Parser
import SceneScript.Line.Printer
import SceneScript.Proofs.Text.Trimmed

/-! # Escaped semicolons

A text whose semicolons are escaped holds no comment, and its semicolons come back when it is read.

* `Text.beforeComment_escapeSemicolons` — no escaped semicolon begins a comment;
* `Text.unescape_escapeSemicolons` — escaping is undone;
* `Text.Trimmed.unescape`, `Text.Trimmed.escapeSemicolons` — neither changes the ends of a text;
* `Statement.ofText_escapeSemicolons` — an escaped text is read as the text itself.
-/

namespace SceneScript

namespace Text

variable {t : Text}

/-! ## Escaping -/

theorem escapeSemicolons_append (a b : Text) :
    escapeSemicolons (a ++ b) = escapeSemicolons a ++ escapeSemicolons b := by
  induction a with
  | nil => rfl
  | cons c rest ih =>
    simp only [List.cons_append, escapeSemicolons, ih]
    split <;> rfl

theorem head?_escapeSemicolons (t : Text) : (escapeSemicolons t).head? ≠ some ';' := by
  fun_cases escapeSemicolons t with
  | case1 => simp
  | case2 => simp
  | case3 c rest other => simpa using other

theorem unescape_cons {rest : Text} (plain : rest.head? ≠ some ';') (c : Char) :
    unescape (c :: rest) = c :: unescape rest := by
  rw [unescape]
  rintro others rfl rfl
  exact plain rfl

theorem unescape_escapeSemicolons (t : Text) : unescape (escapeSemicolons t) = t := by
  induction t with
  | nil => rfl
  | cons c rest ih =>
    by_cases mark : c = ';'
    · simp [escapeSemicolons, unescape, mark, ih]
    · -- a backslash of the text itself escapes nothing, since no bare semicolon follows it
      rw [escapeSemicolons, if_neg mark, unescape_cons (head?_escapeSemicolons rest), ih]

theorem beforeComment_escapeSemicolons (escaped : Bool) (t : Text) :
    beforeComment escaped (escapeSemicolons t) = escapeSemicolons t := by
  induction t generalizing escaped with
  | nil => rfl
  | cons c rest ih =>
    by_cases mark : c = ';'
    · simp [escapeSemicolons, beforeComment, mark, ih]
    · simp [escapeSemicolons, beforeComment, mark, ih]

/-! ## The ends of a text -/

theorem getLast?_unescape (t : Text) : (unescape t).getLast? = t.getLast? := by
  fun_induction unescape t with
  | case1 => rfl
  | case2 rest ih => simp [List.getLast?_cons, ih]
  | case3 c rest _ ih => simp [List.getLast?_cons, ih]

theorem getLast?_escapeSemicolons (t : Text) :
    (escapeSemicolons t).getLast? = t.getLast? := by
  rw [← getLast?_unescape, unescape_escapeSemicolons]

theorem Trimmed.unescape (trimmed : t.Trimmed) : (Text.unescape t).Trimmed := by
  refine ⟨?_, fun c last => trimmed.finish c (by rwa [getLast?_unescape] at last)⟩
  have start := trimmed.start
  fun_cases Text.unescape t with
  | case1 => exact trimmedStart_nil
  | case2 rest => exact trimmedStart_cons.2 (by decide)
  | case3 c rest => exact start

theorem Trimmed.escapeSemicolons (trimmed : t.Trimmed) :
    (Text.escapeSemicolons t).Trimmed := by
  refine ⟨?_, fun c last => trimmed.finish c (by rwa [getLast?_escapeSemicolons] at last)⟩
  have start := trimmed.start
  fun_cases Text.escapeSemicolons t with
  | case1 => exact trimmedStart_nil
  | case2 rest => exact trimmedStart_cons.2 (by decide)
  | case3 c rest => exact start

end Text

namespace Statement

/-- A text that could not be a blank line is read as its body when its semicolons are escaped. -/
theorem ofText_escapeSemicolons {body : Text} (trimmed : body.Trimmed) (filled : body ≠ [])
    (vocabulary : Vocabulary) :
    ofText vocabulary (Text.escapeSemicolons body) = ofBody vocabulary body := by
  have raw := Text.strip_eq_self trimmed.escapeSemicolons
  have bare := Text.head?_escapeSemicolons body
  unfold ofText
  rw [raw]
  split
  next blank =>
    have emptied := congrArg Text.unescape blank
    rw [Text.unescape_escapeSemicolons] at emptied
    exact absurd emptied filled
  next comment =>
    rw [comment] at bare
    exact absurd rfl bare
  next =>
    rw [Text.beforeComment_escapeSemicolons, raw, Text.unescape_escapeSemicolons]

end Statement

end SceneScript
