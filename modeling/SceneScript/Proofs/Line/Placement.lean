import SceneScript.Proofs.Line.Columns
import SceneScript.Proofs.Text.Margin

/-! # Where the parts of a command stand

On a line without a backslash nothing is left out between two characters that are kept. So the name
of a command stands where the blanks at the start of the line end, and its content where the blanks
behind the first colon end.

* `Text.breakAt?_of_isPrefix` — the first colon behind a margin;
* `Statement.isPrefix_of_ofText` — the name and the content of a command;
* `Text.take_eq_iff` — what stands in front of a margin is not what stands behind it.
-/

namespace SceneScript

namespace Text

variable {a b t : Text}

/-! ## Starts of a text -/

theorem beforeComment_isPrefix (escaped : Bool) (t : Text) : beforeComment escaped t <+: t := by
  induction t generalizing escaped with
  | nil => exact List.prefix_rfl
  | cons c rest ih =>
    unfold beforeComment
    split
    next => exact List.nil_prefix
    next => exact List.prefix_cons_inj c |>.mpr (ih _)

theorem unescape_eq_self (plain : '\\' ∉ t) : unescape t = t := by
  fun_induction unescape t with
  | case1 => rfl
  | case2 rest ih => simp at plain
  | case3 c rest _ ih =>
    rw [ih]
    exact fun member => plain (List.mem_cons_of_mem c member)

/-- Stripping what a text begins with behind its margin leaves something that it begins with. -/
theorem strip_isPrefix_of_isPrefix (start : a <+: stripStart t) : strip a <+: stripStart t := by
  have again : stripStart (stripStart t) = stripStart t :=
    stripStart_eq_self (trimmedStart_stripStart t)
  have inside : stripStart a <+: stripStart t := by
    rw [← again]
    exact stripStart_isPrefix start
  exact (strip_isPrefix a).trans inside

/-- The first mark behind a margin of blanks is the first mark of the text. -/
theorem breakAt?_of_isPrefix {mark : Char} (ink : isBlank mark = false) {main before after : Text}
    (start : main <+: stripStart t) (found : breakAt? mark main = some (before, after)) :
    ∃ front back, breakAt? mark t = some (front, back) ∧ after <+: back := by
  obtain ⟨rfl, absent⟩ := breakAt?_eq_some found
  obtain ⟨margin, blank, split⟩ := exists_blank_append t
  obtain ⟨rest, same⟩ := start
  have unmarked : mark ∉ margin ++ before := by
    intro member
    rcases List.mem_append.mp member with inMargin | inBefore
    · exact absurd (blank mark inMargin) (by simp [ink])
    · exact absent inBefore
  have whole : t = (margin ++ before) ++ mark :: (after ++ rest) := by
    rw [split, ← same]
    simp
  refine ⟨margin ++ before, after ++ rest, ?_, List.prefix_append after rest⟩
  rw [whole]
  exact breakAt?_append unmarked _

/-- Something that is stripped stands at the start of a text only if the text has no margin
there. -/
theorem take_eq_iff (start : a <+: stripStart t) :
    t.take a.length = a ↔ t.TrimmedStart ∨ a = [] := by
  constructor
  · intro same
    cases a with
    | nil => exact .inr rfl
    | cons c rest =>
      left
      cases t with
      | nil => exact trimmedStart_nil
      | cons d more =>
        -- the first character is that of the stripped text
        have first : d = c := by simpa using (List.cons.inj same).1
        obtain ⟨others, whole⟩ := start
        have trimmed := trimmedStart_stripStart (d :: more)
        rw [← whole] at trimmed
        rw [first]
        exact trimmedStart_cons.mpr (trimmedStart_cons.mp trimmed)
  · intro none
    rcases none with trimmed | rfl
    · rw [stripStart_eq_self trimmed] at start
      exact (List.prefix_iff_eq_take.mp start).symm
    · rfl

end Text

/-! ## The parts of a command -/

theorem splitArguments_isPrefix {body t : Text} (start : body <+: Text.stripStart t) :
    (splitArguments body).1 <+: Text.stripStart t := by
  unfold splitArguments
  cases found : Text.breakAtHyphen? body with
  | none => exact start
  | some parts =>
    obtain ⟨before, after⟩ := parts
    obtain ⟨c, -, rfl, -⟩ := Text.breakAtHyphen?_eq_some found
    apply Text.strip_isPrefix_of_isPrefix
    exact (List.prefix_append before _).trans start

/-- The name of a command begins its line, and its content begins what is behind the first colon, if
blanks do not count. -/
theorem Statement.isPrefix_of_ofText {vocabulary : Vocabulary} {name content raw : Text}
    {arguments : Arguments} (plain : '\\' ∉ raw)
    (read : ofText vocabulary raw = .command name content arguments) :
    name <+: Text.stripStart raw ∧ (content = [] ∨
      ∃ front back, Text.breakAt? ':' raw = some (front, back) ∧
        content <+: Text.stripStart back) := by
  let body := Text.strip (Text.beforeComment false (Text.strip raw))
  have body_start : body <+: Text.stripStart raw := by
    apply Text.strip_isPrefix_of_isPrefix
    exact (Text.beforeComment_isPrefix false _).trans (Text.strip_isPrefix raw)
  have body_plain : '\\' ∉ body := by
    intro member
    have inside : body.Sublist raw := body_start.sublist.trans (List.dropWhile_sublist _)
    exact plain (inside.subset member)
  have body_read := body_of_ofText read
  rw [Text.unescape_eq_self body_plain] at body_read
  obtain ⟨-, main, split, parts⟩ := parts_of_ofBody body_read
  have main_start : main <+: Text.stripStart raw := by
    have start := splitArguments_isPrefix body_start
    rwa [split] at start
  rcases parts with ⟨before, after, marked, rfl, rfl⟩ | ⟨-, rfl, rfl⟩
  · obtain ⟨whole, -⟩ := Text.breakAt?_eq_some marked
    have before_start : before <+: Text.stripStart raw := by
      refine List.IsPrefix.trans ?_ main_start
      rw [whole]
      exact List.prefix_append before _
    obtain ⟨front, back, found, inside⟩ := Text.breakAt?_of_isPrefix (by decide) main_start marked
    refine ⟨Text.strip_isPrefix_of_isPrefix before_start, .inr ⟨front, back, found, ?_⟩⟩
    exact (Text.strip_isPrefix after).trans (Text.stripStart_isPrefix inside)
  · exact ⟨main_start, .inl rfl⟩

end SceneScript
