import SceneScript.Diagnostic.Basic
import SceneScript.Proofs.Line.Escape
import SceneScript.Proofs.Line.Boundary

/-! # Columns of a line

Reading a line only ever leaves characters out: blanks at its ends, a comment, the backslashes of
escaped semicolons, and the arguments. So the parts that are kept are no longer than the places in
the line that they are shown at.

* `Text.breakAt?_of_sublist` — leaving characters out brings no colon forward;
* `Statement.sublist_of_ofText` — the name and the content of a command lie in its line;
* `Line.span_le` — the columns that a command is reported at.
-/

namespace SceneScript

namespace Text

/-! ## What reading leaves out -/

theorem beforeComment_sublist (escaped : Bool) (t : Text) :
    (beforeComment escaped t).Sublist t := by
  induction t generalizing escaped with
  | nil => exact .slnil
  | cons c rest ih =>
    unfold beforeComment
    split
    next => exact List.nil_sublist _
    next => exact (ih _).cons_cons c

theorem unescape_sublist (t : Text) : (unescape t).Sublist t := by
  fun_induction unescape t with
  | case1 => exact .slnil
  | case2 rest ih => exact (ih.cons_cons ';').cons '\\'
  | case3 c rest _ ih => exact ih.cons_cons c

theorem strip_sublist (t : Text) : (strip t).Sublist t := (strip_isInfix t).sublist

/-- The first mark of a text lies behind nothing but what lies behind the first mark of a text that
it was cut from. -/
theorem breakAt?_of_sublist {mark : Char} {part whole before after : Text}
    (kept : part.Sublist whole) (found : breakAt? mark part = some (before, after)) :
    ∃ front back, breakAt? mark whole = some (front, back) ∧ after.Sublist back := by
  induction kept generalizing before after with
  | slnil => cases found
  | @cons part whole c kept ih =>
    -- a mark that was left out stands before all that is kept
    obtain ⟨front, back, marked, inside⟩ := ih found
    unfold breakAt?
    split
    next =>
      obtain ⟨rfl, -⟩ := breakAt?_eq_some marked
      have further : back.Sublist (front ++ mark :: back) :=
        (List.sublist_cons_self mark back).trans (List.sublist_append_right front _)
      exact ⟨[], _, rfl, inside.trans further⟩
    next => exact ⟨c :: front, back, by rw [marked]; rfl, inside⟩
  | @cons_cons part whole c kept ih =>
    unfold breakAt? at found ⊢
    split at found
    next here =>
      obtain ⟨rfl, rfl⟩ := Prod.mk.inj (Option.some.inj found)
      exact ⟨[], whole, if_pos here, kept⟩
    next other =>
      obtain ⟨⟨_, rest⟩, inner, same⟩ := Option.map_eq_some_iff.mp found
      obtain ⟨rfl, rfl⟩ := Prod.mk.inj same
      obtain ⟨front, back, marked, inside⟩ := ih inner
      exact ⟨c :: front, back, by rw [if_neg other, marked]; rfl, inside⟩

end Text

theorem splitArguments_sublist (body : Text) : (splitArguments body).1.Sublist body := by
  unfold splitArguments
  cases found : Text.breakAtHyphen? body with
  | none => exact .refl body
  | some parts =>
    obtain ⟨before, after⟩ := parts
    obtain ⟨c, -, rfl, -⟩ := Text.breakAtHyphen?_eq_some found
    exact (Text.strip_sublist before).trans (List.sublist_append_left before _)

/-! ## The parts of a command -/

namespace Statement

variable {vocabulary : Vocabulary} {name content : Text} {arguments : Arguments}

/-- A command is cut at the first colon of its main part; without a colon it has no content. -/
theorem parts_of_ofBody {body : Text}
    (read : ofBody vocabulary body = .command name content arguments) :
    name ∈ vocabulary ∧ ∃ main, splitArguments body = (main, arguments) ∧
      ((∃ before after, Text.breakAt? ':' main = some (before, after) ∧
          name = Text.strip before ∧ content = Text.strip after) ∨
        Text.breakAt? ':' main = none ∧ name = main ∧ content = []) := by
  unfold ofBody at read
  cases split : splitArguments body with
  | mk main rest =>
    simp only [split] at read
    cases marked : Text.breakAt? ':' main with
    | some parts =>
      obtain ⟨before, after⟩ := parts
      simp only [marked] at read
      split at read
      next known =>
        cases read
        exact ⟨known, main, rfl, .inl ⟨before, after, marked, rfl, rfl⟩⟩
      next => cases read
    | none =>
      simp only [marked] at read
      split at read
      next known =>
        cases read
        exact ⟨known, name, rfl, .inr ⟨marked, rfl, rfl⟩⟩
      next => cases read

theorem body_of_ofText {raw : Text}
    (read : ofText vocabulary raw = .command name content arguments) :
    ofBody vocabulary (Text.unescape (Text.strip (Text.beforeComment false (Text.strip raw)))) =
      .command name content arguments := by
  unfold ofText at read
  split at read
  next => cases read
  next => cases read
  next => exact read

theorem sublist_of_ofBody {body : Text}
    (read : ofBody vocabulary body = .command name content arguments) :
    name.Sublist body ∧ (content = [] ∨
      ∃ front back, Text.breakAt? ':' body = some (front, back) ∧ content.Sublist back) := by
  obtain ⟨-, main, split, parts⟩ := parts_of_ofBody read
  have kept : main.Sublist body := by
    have inside := splitArguments_sublist body
    rwa [split] at inside
  rcases parts with ⟨before, after, marked, rfl, rfl⟩ | ⟨-, rfl, rfl⟩
  · obtain ⟨rfl, -⟩ := Text.breakAt?_eq_some marked
    obtain ⟨front, back, found, inside⟩ := Text.breakAt?_of_sublist kept marked
    have named : (Text.strip before).Sublist (before ++ ':' :: after) :=
      (Text.strip_sublist before).trans (List.sublist_append_left before _)
    exact ⟨named.trans kept, .inr ⟨front, back, found, (Text.strip_sublist after).trans inside⟩⟩
  · exact ⟨kept, .inl rfl⟩

theorem sublist_of_ofText {raw : Text}
    (read : ofText vocabulary raw = .command name content arguments) :
    name.Sublist raw ∧ (content = [] ∨
      ∃ front back, Text.breakAt? ':' raw = some (front, back) ∧ content.Sublist back) := by
  obtain ⟨named, inContent⟩ := sublist_of_ofBody (body_of_ofText read)
  have kept : (Text.unescape (Text.strip (Text.beforeComment false (Text.strip raw)))).Sublist
      raw :=
    (Text.unescape_sublist _).trans ((Text.strip_sublist _).trans
      ((Text.beforeComment_sublist false _).trans (Text.strip_sublist raw)))
  refine ⟨named.trans kept, inContent.imp_right ?_⟩
  rintro ⟨front, back, marked, inside⟩
  obtain ⟨front, back', found, further⟩ := Text.breakAt?_of_sublist kept marked
  exact ⟨front, back', found, inside.trans further⟩

end Statement

/-- The columns of a command, of its content and of the whole line lie in the line. -/
theorem Line.span_le {line : Line} {vocabulary : Vocabulary} {name content : Text}
    {arguments : Arguments} (read : line.statement = .ofText vocabulary line.raw)
    (statement : line.statement = .command name content arguments) {span : Nat × Nat}
    (among : span ∈ [(0, name.length), line.wholeSpan, line.contentSpan content.length]) :
    span.1 ≤ span.2 ∧ span.2 ≤ line.raw.length := by
  obtain ⟨named, inContent⟩ := Statement.sublist_of_ofText (read.symm.trans statement)
  simp only [List.mem_cons, List.not_mem_nil, or_false] at among
  rcases among with rfl | rfl | rfl
  · exact ⟨Nat.zero_le _, named.length_le⟩
  · exact ⟨Nat.zero_le _, Nat.le_refl _⟩
  · refine ⟨Nat.le_add_right _ _, ?_⟩
    unfold contentSpan Text.find?
    cases marked : Text.breakAt? ':' line.raw with
    | none =>
      rw [marked] at inContent
      obtain rfl | ⟨_, _, absent, _⟩ := inContent
      · exact Nat.zero_le _
      · cases absent
    | some parts =>
      obtain ⟨front, back⟩ := parts
      have short : content.length ≤ back.length := by
        obtain rfl | ⟨front', back', found, inside⟩ := inContent
        · exact Nat.zero_le _
        · cases marked.symm.trans found
          exact inside.length_le
      have whole := congrArg List.length (Text.breakAt?_eq_some marked).1
      simp only [List.length_append, List.length_cons] at whole
      simp only [Option.map_some, Option.getD_some]
      omega

end SceneScript
