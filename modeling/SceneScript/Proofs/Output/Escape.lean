import SceneScript.Output.Console
import SceneScript.Output.Report

/-! # Escaped text

A text that has been escaped brings no tags with it, whatever stands behind it, as long as that does
not close a bracket which the text leaves open. So the tags of a report are those that its lines
are made with: each is closed, and a report can always be shown.

* `Markup.tagsAfter` — the tags of a text, without the plain text between them;
* `Markup.Inert` — what may stand behind an escaped text;
* `Markup.tagsAfter_escape` — an escaped text has no tags;
* `Report.exists_show?` — every report can be shown.
-/

namespace SceneScript.Markup

variable {t u more inside after : Text} {c : Char}

/-! ## Tags alone -/

/-- The insides of the tags that are not made plain by the backslashes before them, of which `count`
have just been passed. -/
def tagsAfter (count : Nat) (t : Text) : List Text :=
  match t with
  | [] => []
  | c :: rest =>
    if c = '\\' then tagsAfter (count + 1) rest
    else
      match h : tagAt? (c :: rest) with
      | some (inside, after) =>
        have := length_of_tagAt? h
        (if count % 2 = 1 then [] else [inside]) ++ tagsAfter 0 after
      | none => tagsAfter 0 rest
termination_by t.length
decreasing_by
  all_goals simp only [List.length_cons] at *
  all_goals omega

@[simp] theorem tagsAfter_nil (count : Nat) : tagsAfter count [] = [] := by
  rw [tagsAfter]

@[simp] theorem tagsAfter_backslash (count : Nat) (t : Text) :
    tagsAfter count ('\\' :: t) = tagsAfter (count + 1) t := by
  rw [tagsAfter, if_pos rfl]

theorem tagsAfter_of_tagAt? (found : tagAt? t = some (inside, after)) (count : Nat) :
    tagsAfter count t = (if count % 2 = 1 then [] else [inside]) ++ tagsAfter 0 after := by
  cases t with
  | nil => cases found
  | cons c rest =>
    have ne : c ≠ '\\' := by
      rintro rfl
      cases found
    rw [tagsAfter, if_neg ne]
    split
    next foundToo =>
      cases found.symm.trans foundToo
      rfl
    next absent => cases found.symm.trans absent

theorem tagsAfter_of_none (ne : c ≠ '\\') (absent : tagAt? (c :: t) = none) (count : Nat) :
    tagsAfter count (c :: t) = tagsAfter 0 t := by
  rw [tagsAfter, if_neg ne]
  split
  next found => cases absent.symm.trans found
  next => rfl

def Piece.tag? : Piece → Option Text
  | .plain _ => none
  | .tag _ inside => some inside

theorem filterMap_piecesFrom (position count : Nat) (run t : Text) :
    (piecesFrom position count run t).filterMap Piece.tag? = tagsAfter count t := by
  fun_induction piecesFrom position count run t with
  | case1 => simp [Piece.tag?]
  | case2 position count run rest ih => simpa using ih
  | case3 position count run c rest ne inside after found _ ih =>
    rw [tagsAfter_of_tagAt? found, ← ih]
    split
    next => rfl
    next => rfl
  | case4 position count run c rest ne absent kept ih =>
    rw [tagsAfter_of_none ne absent]
    exact ih

/-! ## Brackets -/

theorem untilBracket?_cons :
    untilBracket? (c :: t) = none ↔ c ≠ ']' ∧ (c = '[' ∨ untilBracket? t = none) := by
  rw [untilBracket?]
  by_cases closes : c = ']'
  · simp [closes]
  · by_cases opens : c = '['
    · simp [opens]
    · simp [closes, opens]

theorem untilBracket?_append (absent : ']' ∉ t) (open_ : untilBracket? more = none) :
    untilBracket? (t ++ more) = none := by
  induction t with
  | nil => exact open_
  | cons c rest ih =>
    simp only [List.mem_cons, not_or] at absent
    exact untilBracket?_cons.mpr ⟨Ne.symm absent.1, .inr (ih absent.2)⟩

theorem tagAt?_of_ne (ne : c ≠ '[') : tagAt? (c :: t) = none := by
  unfold tagAt?
  split
  next same => exact absurd (List.cons.inj same).1 ne
  next => rfl

theorem tagAt?_bracket (t : Text) :
    tagAt? ('[' :: t) = if t.head?.any startsTag then untilBracket? t else none := by
  cases t with
  | nil => rfl
  | cons c rest =>
    rw [tagAt?, List.head?_cons, Option.any_some]
    by_cases starts : startsTag c = true
    · have notClosing : c ≠ ']' := by
        rintro rfl
        exact absurd starts (by decide)
      have notOpening : c ≠ '[' := by
        rintro rfl
        exact absurd starts (by decide)
      rw [if_pos starts, if_pos starts, untilBracket?, if_neg notClosing, if_neg notOpening]
    · rw [if_neg starts, if_neg starts]

/-- What stands between the brackets of a tag. -/
def IsTag (inside : Text) : Prop :=
  inside.head?.any startsTag = true ∧ '[' ∉ inside ∧ ']' ∉ inside

instance (inside : Text) : Decidable (IsTag inside) := inferInstanceAs (Decidable (_ ∧ _ ∧ _))

theorem untilBracket?_eq_some :
    untilBracket? t = some (inside, after) ↔
      t = inside ++ ']' :: after ∧ '[' ∉ inside ∧ ']' ∉ inside := by
  induction t generalizing inside with
  | nil => simp [untilBracket?]
  | cons c rest ih =>
    rw [untilBracket?]
    by_cases closes : c = ']'
    · rw [if_pos closes]
      cases inside <;> grind
    · rw [if_neg closes]
      by_cases opens : c = '['
      · rw [if_pos opens]
        cases inside <;> grind
      · rw [if_neg opens]
        cases inside with
        | nil => simp [closes]
        | cons d others =>
          simp only [Option.map_eq_some_iff, Prod.exists, Prod.mk.injEq]
          grind

theorem head?_isTag (tag : IsTag inside) (more : Text) :
    (inside ++ more).head?.any startsTag = true := by
  cases inside with
  | nil => exact absurd tag.1 (by decide)
  | cons c rest => exact tag.1

theorem tagAt?_eq_some :
    tagAt? t = some (inside, after) ↔ t = '[' :: inside ++ ']' :: after ∧ IsTag inside := by
  constructor
  · intro found
    cases t with
    | nil => cases found
    | cons c rest =>
      by_cases opens : c = '['
      · rw [opens, tagAt?_bracket] at found
        split at found
        next starts =>
          obtain ⟨rfl, noOpening, noClosing⟩ := untilBracket?_eq_some.mp found
          refine ⟨by rw [opens]; rfl, ?_, noOpening, noClosing⟩
          cases inside with
          | nil => exact absurd (show startsTag ']' = true from starts) (by decide)
          | cons d others => exact starts
        next => cases found
      · rw [tagAt?_of_ne opens] at found
        cases found
  · rintro ⟨rfl, tag⟩
    rw [List.cons_append, tagAt?_bracket, if_pos (head?_isTag tag _)]
    exact untilBracket?_eq_some.mpr ⟨rfl, tag.2⟩

/-- A tag of a text with no backslash before it. -/
theorem tagsAfter_tag (tag : IsTag inside) (more : Text) :
    tagsAfter 0 ('[' :: inside ++ ']' :: more) = inside :: tagsAfter 0 more :=
  tagsAfter_of_tagAt? (tagAt?_eq_some.mpr ⟨rfl, tag⟩) 0

/-- Text without brackets and backslashes. -/
def IsPlain (t : Text) : Prop := ∀ c ∈ t, c ≠ '[' ∧ c ≠ ']' ∧ c ≠ '\\'

instance (t : Text) : Decidable (IsPlain t) := List.decidableBAll _ t

theorem IsPlain.append (first : IsPlain t) (second : IsPlain u) : IsPlain (t ++ u) :=
  List.forall_mem_append.mpr ⟨first, second⟩

theorem IsPlain.tagsAfter_append (plain : IsPlain t) (more : Text) :
    tagsAfter 0 (t ++ more) = tagsAfter 0 more := by
  induction t with
  | nil => rfl
  | cons c rest ih =>
    obtain ⟨⟨noBracket, -, noBackslash⟩, others⟩ := List.forall_mem_cons.mp plain
    rw [List.cons_append, tagsAfter_of_none noBackslash (tagAt?_of_ne noBracket), ih others]

theorem IsPlain.tagsAfter_tag (plain : IsPlain t) (tag : IsTag inside) (more : Text) :
    tagsAfter 0 (t ++ '[' :: (inside ++ ']' :: more)) = inside :: tagsAfter 0 more := by
  rw [plain.tagsAfter_append, ← List.cons_append, Markup.tagsAfter_tag tag]

/-! ## Escaping -/

theorem escapeTags_nil (count : Nat) : escapeTags count [] = List.replicate count '\\' := by
  rw [escapeTags]

theorem escapeTags_backslash (count : Nat) (t : Text) :
    escapeTags count ('\\' :: t) = escapeTags (count + 1) t := by
  rw [escapeTags, if_pos rfl]

theorem exists_escapeTags_succ (count : Nat) (t : Text) :
    ∃ rest, escapeTags (count + 1) t = '\\' :: rest := by
  induction t generalizing count with
  | nil => exact ⟨_, escapeTags_nil (count + 1)⟩
  | cons c rest ih =>
    by_cases backslash : c = '\\'
    · rw [backslash, escapeTags_backslash]
      exact ih (count + 1)
    · rw [escapeTags, if_neg backslash]
      split
      · exact ⟨_, rfl⟩
      · exact ⟨_, rfl⟩

/-- A text that is not empty starts as before, unless a backslash has come before its start. -/
theorem exists_escapeTags_cons (c : Char) (t : Text) :
    ∃ d rest, escapeTags 0 (c :: t) = d :: rest ∧ (d = c ∨ d = '\\') := by
  by_cases backslash : c = '\\'
  · obtain ⟨rest, escaped⟩ := exists_escapeTags_succ 0 t
    rw [backslash, escapeTags_backslash]
    exact ⟨'\\', rest, escaped, .inr rfl⟩
  · rw [escapeTags, if_neg backslash]
    split
    · exact ⟨'\\', _, rfl, .inr rfl⟩
    · exact ⟨c, _, rfl, .inl rfl⟩

theorem replicate_no_bracket (count : Nat) : ']' ∉ List.replicate count '\\' := by
  simp [List.mem_replicate]

/-- No bracket of a text that is left open is closed by escaping it. -/
theorem untilBracket?_escapeTags (unclosed : untilBracket? t = none)
    (after : untilBracket? more = none) (count : Nat) :
    untilBracket? (escapeTags count t ++ more) = none := by
  fun_induction escapeTags count t with
  | case1 count => exact untilBracket?_append (replicate_no_bracket count) after
  | case2 count rest ih =>
    exact ih ((untilBracket?_cons.mp unclosed).2.resolve_left (by decide))
  | case3 count c rest ne inside later found _ ih =>
    -- the bracket of the tag opens first, with more backslashes before it
    rw [List.append_assoc, List.append_assoc]
    exact untilBracket?_append (replicate_no_bracket _) (untilBracket?_cons.mpr (by simp))
  | case4 count c rest ne absent ih =>
    rw [List.append_assoc]
    obtain ⟨notClosing, opens | further⟩ := untilBracket?_cons.mp unclosed
    · exact untilBracket?_append (replicate_no_bracket _)
        (untilBracket?_cons.mpr ⟨notClosing, .inl opens⟩)
    · exact untilBracket?_append (replicate_no_bracket _)
        (untilBracket?_cons.mpr ⟨notClosing, .inr (ih further)⟩)

/-- What is no tag does not become one by escaping what follows. -/
theorem tagAt?_escapeTags (absent : tagAt? (c :: t) = none) (after : untilBracket? more = none) :
    tagAt? (c :: (escapeTags 0 t ++ more)) = none := by
  by_cases opens : c = '['
  · rw [opens, tagAt?_bracket] at absent ⊢
    cases t with
    | nil => simp [escapeTags_nil, after]
    | cons d rest =>
      rw [List.head?_cons, Option.any_some] at absent
      -- either the bracket is never closed, or what comes after it cannot start a tag
      by_cases starts : startsTag d = true
      · rw [if_pos starts] at absent
        rw [untilBracket?_escapeTags absent after, ite_self]
      · obtain ⟨first, others, escaped, same | backslash⟩ := exists_escapeTags_cons d rest
        · simp [escaped, same, starts]
        · simp [escaped, backslash, show startsTag '\\' = false by decide]
  · exact tagAt?_of_ne opens

/-- What may stand behind an escaped text. -/
structure Inert (more : Text) : Prop where
  /-- It does not close a bracket before it opens one. -/
  unclosed : untilBracket? more = none
  /-- Backslashes before it do not matter. -/
  apart : ∀ count, tagsAfter count more = tagsAfter 0 more

/-- Plain text with a bracket behind it that opens. -/
theorem IsPlain.inert (plain : IsPlain t) (nonempty : t ≠ []) (more : Text) :
    Inert (t ++ '[' :: more) := by
  have unclosed : untilBracket? (t ++ '[' :: more) = none :=
    untilBracket?_append (fun closing => (plain _ closing).2.1 rfl)
      (untilBracket?_cons.mpr ⟨by decide, .inl rfl⟩)
  cases t with
  | nil => exact absurd rfl nonempty
  | cons c rest =>
    obtain ⟨noBracket, -, noBackslash⟩ := plain c List.mem_cons_self
    refine ⟨unclosed, fun count => ?_⟩
    rw [List.cons_append, tagsAfter_of_none noBackslash (tagAt?_of_ne noBracket),
      tagsAfter_of_none noBackslash (tagAt?_of_ne noBracket)]

theorem Inert.backslash (inert : Inert more) : Inert ('\\' :: more) where
  unclosed := untilBracket?_cons.mpr ⟨by decide, .inr inert.unclosed⟩
  apart count := by rw [tagsAfter_backslash, tagsAfter_backslash, inert.apart, inert.apart (0 + 1)]

theorem tagsAfter_replicate (count before : Nat) (t : Text) :
    tagsAfter before (List.replicate count '\\' ++ t) = tagsAfter (before + count) t := by
  induction count generalizing before with
  | zero => rfl
  | succ count ih =>
    rw [List.replicate_succ, List.cons_append, tagsAfter_backslash, ih]
    congr 1
    omega

theorem tagsAfter_escapeTags (inert : Inert more) (count : Nat) (t : Text) :
    tagsAfter 0 (escapeTags count t ++ more) = tagsAfter 0 more := by
  fun_induction escapeTags count t with
  | case1 count => rw [tagsAfter_replicate, inert.apart]
  | case2 count rest ih => exact ih
  | case3 count c rest ne inside after found _ ih =>
    -- an odd number of backslashes makes the tag plain text
    have still : tagAt? ('[' :: inside ++ ']' :: (escapeTags 0 after ++ more)) =
        some (inside, escapeTags 0 after ++ more) :=
      tagAt?_eq_some.mpr ⟨rfl, (tagAt?_eq_some.mp found).2⟩
    simp only [List.append_assoc, List.cons_append] at still ⊢
    rw [tagsAfter_replicate, tagsAfter_of_tagAt? still, if_pos (by omega), List.nil_append]
    exact ih
  | case4 count c rest ne absent ih =>
    have still := tagAt?_escapeTags absent inert.unclosed
    rw [List.append_assoc, tagsAfter_replicate, List.cons_append, tagsAfter_of_none ne still]
    exact ih

theorem tagsAfter_escape (inert : Inert more) (t : Text) :
    tagsAfter 0 (escape t ++ more) = tagsAfter 0 more := by
  unfold escape
  dsimp only
  split
  next =>
    -- the backslash that is added at the end stands before the text that follows
    rw [List.append_assoc]
    exact (tagsAfter_escapeTags inert.backslash 0 t).trans
      ((tagsAfter_backslash 0 more).trans (inert.apart 1))
  next => exact tagsAfter_escapeTags inert 0 t

/-! ## Display -/

/-- How the open tags change from tag to tag where none has a fault. -/
inductive Opens : List OpenTag → List Text → List OpenTag → Prop where
  | nil (opened : List OpenTag) : Opens opened [] opened
  | cons {opened between later : List OpenTag} {inside : Text} {rest : List Text}
      (applied : ∀ position, applyTag position inside opened = .ok between)
      (further : Opens between rest later) : Opens opened (inside :: rest) later

theorem Opens.append {opened between later : List OpenTag} {tags further : List Text}
    (first : Opens opened tags between) (second : Opens between further later) :
    Opens opened (tags ++ further) later := by
  induction first with
  | nil => exact second
  | cons applied _ ih => exact .cons applied (ih second)

theorem Opens.exists_plainOf {pieces : List Piece} {opened later : List OpenTag}
    (opens : Opens opened (pieces.filterMap Piece.tag?) later) :
    ∃ text, plainOf opened pieces = .ok text := by
  induction pieces generalizing opened with
  | nil => exact ⟨[], rfl⟩
  | cons piece rest ih =>
    cases piece with
    | plain text =>
      obtain ⟨others, shown⟩ := ih opens
      refine ⟨Emoji.expand text ++ others, ?_⟩
      simp [plainOf, shown, bind, Except.bind, pure, Except.pure]
    | tag position inside =>
      cases opens with
      | cons applied further =>
        obtain ⟨text, shown⟩ := ih further
        exact ⟨text, by simp [plainOf, applied, shown, bind, Except.bind]⟩

/-- A text whose tags have no fault can be shown. -/
theorem Opens.exists_show? {later : List OpenTag} (opens : Opens [] (tagsAfter 0 t) later) :
    ∃ output, Console.show? t = .ok output := by
  rw [← filterMap_piecesFrom 0 0 []] at opens
  obtain ⟨text, shown⟩ := opens.exists_plainOf
  simp only [Console.show?, Console.lines, plain, pieces, shown, Except.map, Except.ok.injEq,
    exists_eq']

/-- A style that a tag and the closing tag after it name by its only name. -/
structure IsStyle (name : Text) : Prop where
  canonical : (canonicalStyle name).toOption = some name
  tag : IsTag name
  stripped : Text.strip name = name
  bare : '=' ∉ name ∧ '/' ∉ name

theorem IsStyle.canonicalStyle_eq {name : Text} (style : IsStyle name) :
    canonicalStyle name = .ok name := by
  have canonical := style.canonical
  cases named : canonicalStyle name with
  | error fault => simp [named, Except.toOption] at canonical
  | ok other =>
    rw [named] at canonical
    rw [Option.some.inj canonical]

theorem IsStyle.closing {name : Text} (style : IsStyle name) : IsTag ('/' :: name) := by
  have notIn := style.tag.2
  exact ⟨show startsTag '/' = true by decide, by simp [notIn.1], by simp [notIn.2]⟩

theorem IsStyle.opens {name : Text} (style : IsStyle name) (opened : List OpenTag) :
    Opens opened [name, '/' :: name] opened := by
  have nonempty : name ≠ [] := by
    rintro rfl
    exact absurd style.tag (by decide)
  have noMark : Text.breakAt? '=' name = none := Text.breakAt?_eq_none.mpr style.bare.1
  have noMarkToo : Text.breakAt? '=' ('/' :: name) = none :=
    Text.breakAt?_eq_none.mpr (by simp [style.bare.1])
  have opening : Text.startsWith ['/'] name = false := by
    cases name with
    | nil => exact absurd rfl nonempty
    | cons c rest =>
      have ne : '/' ≠ c := fun same => style.bare.2 (same ▸ List.mem_cons_self)
      simpa [Text.startsWith, List.isPrefixOf_cons_cons] using ne
  have closing : Text.startsWith ['/'] ('/' :: name) = true := by simp [Text.startsWith]
  have opens (position : Nat) :
      applyTag position name opened = .ok (⟨name, none⟩ :: opened) := by
    simp [applyTag, noMark, opening, style.canonicalStyle_eq, bind, Except.bind, pure, Except.pure]
  have closes (position : Nat) :
      applyTag position ('/' :: name) (⟨name, none⟩ :: opened) = .ok opened := by
    simp [applyTag, noMarkToo, closing, style.stripped, nonempty, style.canonicalStyle_eq, bind,
      Except.bind, pure, Except.pure, OpenTag.close, Functor.map, Except.map]
  exact .cons opens (.cons closes (.nil opened))

/-! ## Texts that close what they open -/

/-- Whatever is open before a text and follows it, its tags are well matched. -/
def Closed (t : Text) : Prop :=
  ∃ tags, (∀ more, tagsAfter 0 (t ++ more) = tags ++ tagsAfter 0 more) ∧
    ∀ opened, Opens opened tags opened

theorem IsPlain.closed (plain : IsPlain t) : Closed t :=
  ⟨[], plain.tagsAfter_append, .nil⟩

theorem Closed.append (first : Closed t) (second : Closed u) : Closed (t ++ u) := by
  obtain ⟨tags, spelled, opens⟩ := first
  obtain ⟨others, spelledToo, opensToo⟩ := second
  refine ⟨tags ++ others, fun more => ?_, fun opened => (opens opened).append (opensToo opened)⟩
  rw [List.append_assoc, spelled, spelledToo, List.append_assoc]

theorem Closed.join {separator : Text} (between : Closed separator) {parts : List Text}
    (each : ∀ part ∈ parts, Closed part) : Closed (Text.join separator parts) := by
  induction parts with
  | nil => exact (show IsPlain [] by decide).closed
  | cons part rest ih =>
    obtain ⟨first, others⟩ := List.forall_mem_cons.mp each
    cases rest with
    | nil => simpa [Text.join] using first
    | cons second more =>
      have joined : Text.join separator (part :: second :: more) =
          part ++ (separator ++ Text.join separator (second :: more)) := by
        simp [Text.join, List.intercalate_cons_cons]
      rw [joined]
      exact first.append (between.append (ih others))

theorem Closed.exists_show? (closed : Closed t) : ∃ output, Console.show? t = .ok output := by
  obtain ⟨tags, spelled, opens⟩ := closed
  have all := spelled []
  rw [List.append_nil, tagsAfter_nil, List.append_nil] at all
  exact (all ▸ opens []).exists_show?

end SceneScript.Markup

namespace SceneScript

open Markup

/-! ## Lines of a report -/

theorem isPlain_ofNat (n : Nat) : IsPlain (Text.ofNat n) := by
  intro c member
  have digit : c.isDigit = true := Nat.isDigit_of_mem_toDigits (by decide) (Nat.le_refl 10) member
  have ne {d : Char} (noDigit : d.isDigit = false) : c ≠ d := by
    rintro rfl
    exact Bool.false_ne_true (noDigit.symm.trans digit)
  exact ⟨ne rfl, ne rfl, ne rfl⟩

theorem isPlain_ofInt (n : Int) : IsPlain (Text.ofInt n) := by
  cases n with
  | ofNat n => exact isPlain_ofNat n
  | negSucc n => exact List.forall_mem_cons.mpr ⟨by decide, isPlain_ofNat (n + 1)⟩

theorem isStyle_dim : IsStyle "dim" :=
  ⟨rfl, by decide, rfl, by decide⟩

theorem isStyle_bold : IsStyle "bold" :=
  ⟨rfl, by decide, rfl, by decide⟩

theorem Severity.isStyle (severity : Severity) : IsStyle severity.style := by
  cases severity with
  | error => exact ⟨by decide +kernel, by decide, rfl, by decide⟩
  | warning => exact ⟨by decide +kernel, by decide, rfl, by decide⟩
  | hint => exact ⟨by decide +kernel, by decide, rfl, by decide⟩

theorem Severity.isPlain_name (severity : Severity) : IsPlain severity.name := by
  cases severity <;> decide

theorem DiagnosticCode.isPlain_name (code : DiagnosticCode) : IsPlain code.name := by
  cases code <;> decide

theorem Diagnostic.closed_markup (path : Text) (d : Diagnostic) : Closed (d.markup path) := by
  have style := d.severity.isStyle
  have colon : IsPlain ":" := by decide
  have blank : IsPlain " " := by decide
  let position : Text :=
    ":" ++ Text.ofInt (d.number + 1) ++ ":" ++ Text.ofInt (d.startColumn + 1) ++ " "
  have plainPosition : IsPlain position :=
    (((colon.append (isPlain_ofInt _)).append colon).append (isPlain_ofInt _)).append blank
  let code : Text := "(" ++ d.code.name ++ ")"
  have plainCode : IsPlain code :=
    ((show IsPlain "(" by decide).append d.code.isPlain_name).append (show IsPlain ")" by decide)
  refine ⟨[d.severity.style, '/' :: d.severity.style, "dim", "/dim"], fun more => ?_,
    fun opened => (style.opens opened).append (isStyle_dim.opens opened)⟩
  have layout : d.markup path ++ more =
      escape path ++ (position ++ '[' :: (d.severity.style ++ ']' ::
        (d.severity.name ++ '[' :: ('/' :: d.severity.style ++ ']' ::
          (" " ++ (escape d.message ++ (" " ++ '[' :: ("dim" ++ ']' ::
            (code ++ '[' :: ('/' :: "dim" ++ ']' :: more)))))))))) := by
    simp [Diagnostic.markup, position, code]
  rw [layout, tagsAfter_escape (plainPosition.inert (by simp [position]) _),
    plainPosition.tagsAfter_tag style.tag, d.severity.isPlain_name.tagsAfter_tag style.closing,
    blank.tagsAfter_append, tagsAfter_escape (blank.inert (by decide) _),
    blank.tagsAfter_tag isStyle_dim.tag, plainCode.tagsAfter_tag isStyle_dim.closing]
  rfl

theorem Report.closed_summaryMarkup (report : Report) : Closed report.summaryMarkup := by
  let title : Text := Text.ofNat report.size ++ " file(s) checked:"
  have plainTitle : IsPlain title := (isPlain_ofNat _).append (by decide)
  let count (severity : Severity) : Text :=
    Text.ofNat (report.diagnostics.countP (·.severity = severity))
  let counts : Text :=
    " " ++ (count .error ++ (" error(s), " ++ (count .warning ++ (" warning(s), " ++
      (count .hint ++ " hint(s)")))))
  have plainCounts : IsPlain counts := by
    have plainCount (severity : Severity) : IsPlain (count severity) := isPlain_ofNat _
    have blank : IsPlain " " := by decide
    have errors : IsPlain " error(s), " := by decide
    have warnings : IsPlain " warning(s), " := by decide
    have hints : IsPlain " hint(s)" := by decide
    exact blank.append ((plainCount _).append (errors.append ((plainCount _).append
      (warnings.append ((plainCount _).append hints)))))
  refine ⟨["bold", "/bold"], fun more => ?_, isStyle_bold.opens⟩
  have layout : report.summaryMarkup ++ more =
      '[' :: "bold" ++ ']' :: (title ++ '[' :: ('/' :: "bold" ++ ']' :: (counts ++ more))) := by
    have spelled : report.summaryMarkup = "[bold]" ++ Text.ofNat report.size ++
        " file(s) checked:[/bold] " ++ count .error ++ " error(s), " ++ count .warning ++
        " warning(s), " ++ count .hint ++ " hint(s)" := rfl
    rw [spelled]
    simp [title, counts]
  rw [layout, tagsAfter_tag isStyle_bold.tag, plainTitle.tagsAfter_tag isStyle_bold.closing,
    plainCounts.tagsAfter_append]
  rfl

theorem Report.exists_show? (report : Report) :
    ∃ output, Console.show? report.markup = .ok output := by
  have lineEnd : IsPlain "\n" := by decide
  refine Closed.exists_show? (Closed.join lineEnd.closed fun line member => ?_)
  rcases List.mem_append.mp member with ofEntry | last
  · obtain ⟨⟨path, ds⟩, -, ofDiagnostic⟩ := List.mem_flatMap.mp ofEntry
    obtain ⟨d, -, rfl⟩ := List.mem_map.mp ofDiagnostic
    exact d.closed_markup path
  · rw [List.mem_singleton.mp last]
    exact report.closed_summaryMarkup

end SceneScript
