import SceneScript.Path

/-! # Spellings of paths

A path that is read from a text has names that can stand in a path; written and read again it is the
same path. Joining two spellings is joining the paths that they spell.

* `Path.Plain` — a name that can be read from a path;
* `Path.plain_of_mem_namesOf`, `Path.namesOf_toText`, `Path.ofText_toText` — reading what was
  written;
* `Path.exists_toText_eq_append` — the last name of a path that is written;
* `Path.ofText_joinText` — joining before or after reading.
-/

namespace SceneScript

namespace Text

theorem notMem_of_mem_pieces {mark : Char} {t piece : Text} (member : piece ∈ pieces mark t) :
    mark ∉ piece := by
  induction t generalizing piece with
  | nil =>
    rw [pieces_nil, List.mem_singleton] at member
    simp [member]
  | cons c rest ih =>
    by_cases cuts : c = mark
    · subst cuts
      rw [pieces_mark] at member
      rcases List.mem_cons.mp member with rfl | later
      · exact List.not_mem_nil
      · exact ih later
    · have step : pieces mark (c :: rest) = (pieces mark rest).modifyHead (c :: ·) := by
        simp [pieces, splitWhere, cuts]
      rw [step] at member
      cases cut : pieces mark rest with
      | nil => simp [cut] at member
      | cons first others =>
        rw [cut] at ih
        rw [cut, List.modifyHead_cons] at member
        rcases List.mem_cons.mp member with rfl | later
        · have absent := ih List.mem_cons_self
          simp [Ne.symm cuts, absent]
        · exact ih (List.mem_cons_of_mem _ later)

end Text

namespace Path

/-! ## Names -/

/-- A name that can be read from a path; `..` is one. -/
structure Plain (name : Text) : Prop where
  ne_nil : name ≠ []
  ne_current : name ≠ currentName
  notMem : '/' ∉ name

theorem plain_iff {name : Text} :
    Plain name ↔ name ≠ [] ∧ name ≠ currentName ∧ '/' ∉ name :=
  ⟨fun plain => ⟨plain.ne_nil, plain.ne_current, plain.notMem⟩, fun ⟨ne, other, absent⟩ =>
    ⟨ne, other, absent⟩⟩

instance (name : Text) : Decidable (Plain name) := decidable_of_iff' _ plain_iff

theorem plain_of_mem_namesOf {t name : Text} (member : name ∈ namesOf t) : Plain name := by
  simp only [namesOf, List.mem_filter, decide_eq_true_eq] at member
  exact ⟨member.2.1, member.2.2, Text.notMem_of_mem_pieces member.1⟩

theorem namesOf_append_slash (a b : Text) : namesOf (a ++ '/' :: b) = namesOf a ++ namesOf b := by
  simp only [namesOf, Text.pieces]
  rw [Text.splitWhere_append_cons (by simp), List.filter_append]

theorem namesOf_slash (b : Text) : namesOf ('/' :: b) = namesOf b := namesOf_append_slash [] b

theorem namesOf_of_plain {name : Text} (plain : Plain name) : namesOf name = [name] := by
  have uncut : Text.pieces '/' name = [name] :=
    Text.splitWhere_of_forall_not fun c member => by
      simp only [decide_eq_false_iff_not]
      rintro rfl
      exact plain.notMem member
  simp [namesOf, uncut, plain.ne_nil, plain.ne_current]

theorem namesOf_join {names : List Text} (plain : ∀ name ∈ names, Plain name) :
    namesOf (Text.join ['/'] names) = names := by
  induction names with
  | nil => rfl
  | cons name rest ih =>
    obtain ⟨first, others⟩ := List.forall_mem_cons.mp plain
    cases rest with
    | nil => simpa [Text.join] using namesOf_of_plain first
    | cons second more =>
      have joined : Text.join ['/'] (name :: second :: more) =
          name ++ '/' :: Text.join ['/'] (second :: more) := by
        simp [Text.join, List.intercalate_cons_cons]
      rw [joined, namesOf_append_slash, namesOf_of_plain first, ih others]
      rfl

/-! ## Where a path starts -/

theorem isAbsolute_iff {p : Path} : p.isAbsolute = true ↔ p.anchor ≠ .relative := by
  simp [isAbsolute]

theorem isAbsolute_eq_false_iff {p : Path} : p.isAbsolute = false ↔ p.anchor = .relative := by
  simp [isAbsolute]

theorem anchorOf_eq_relative {t : Text} : anchorOf t = .relative ↔ ¬ ∃ rest, t = '/' :: rest := by
  unfold anchorOf
  split <;> simp_all

theorem anchorOf_slash {rest : Text} (start : ¬ ∃ more, rest = '/' :: more) :
    anchorOf ('/' :: rest) = .root := by
  rw [anchorOf]
  · exact fun more second => start ⟨_, second⟩
  · exact fun more second => start ⟨_, second⟩

theorem anchorOf_slash_slash {rest : Text} (start : ¬ ∃ more, rest = '/' :: more) :
    anchorOf ('/' :: '/' :: rest) = .doubleRoot := by
  rw [anchorOf]
  exact fun more third => start ⟨_, third⟩

theorem anchorOf_toText_append (anchor : Anchor) {rest : Text}
    (start : ¬ ∃ more, rest = '/' :: more) : anchorOf (anchor.toText ++ rest) = anchor := by
  cases anchor with
  | relative => exact anchorOf_eq_relative.mpr start
  | root => exact anchorOf_slash start
  | doubleRoot => exact anchorOf_slash_slash start

/-! ## Reading what was written -/

section ToText

variable {p : Path} (plain : ∀ name ∈ p.names, Plain name)

include plain

theorem join_names_start : ¬ ∃ more, Text.join ['/'] p.names = '/' :: more := by
  rintro ⟨more, joined⟩
  cases names : p.names with
  | nil => simp [names, Text.join] at joined
  | cons name rest =>
    have first := plain name (by simp [names])
    obtain ⟨c, others, spelled⟩ := List.exists_cons_of_ne_nil first.ne_nil
    have startsWithName : ∃ tail, Text.join ['/'] p.names = c :: tail := by
      cases rest <;> simp [names, Text.join, spelled, List.intercalate_cons_cons]
    obtain ⟨tail, spelledFirst⟩ := startsWithName
    rw [spelledFirst] at joined
    apply first.notMem
    rw [spelled, (List.cons.inj joined).1]
    exact List.mem_cons_self

/-- Only the path that names nothing has no text but a dot. -/
theorem toText_eq : (p.anchor = .relative ∧ p.names = [] ∧ p.toText = currentName) ∨
    p.toText = p.anchor.toText ++ Text.join ['/'] p.names := by
  by_cases empty : p.anchor.toText ++ Text.join ['/'] p.names = []
  · obtain ⟨noAnchor, noNames⟩ := List.append_eq_nil_iff.mp empty
    refine .inl ⟨?_, ?_, by simp [toText, empty]⟩
    · cases anchor : p.anchor with
      | relative => rfl
      | root | doubleRoot => simp [anchor, Anchor.toText] at noAnchor
    · rw [← namesOf_join plain, noNames]
      rfl
  · exact .inr (by simp only [toText, if_neg empty])

theorem namesOf_toText : namesOf p.toText = p.names := by
  have joined := namesOf_join plain
  rcases toText_eq plain with ⟨-, noNames, dot⟩ | written
  · rw [dot, noNames]
    rfl
  · rw [written]
    cases p.anchor with
    | relative => exact joined
    | root => exact (namesOf_slash _).trans joined
    | doubleRoot => exact ((namesOf_slash _).trans (namesOf_slash _)).trans joined

theorem ofText_toText : ofText p.toText = p := by
  have anchor : anchorOf p.toText = p.anchor := by
    rcases toText_eq plain with ⟨relative, -, dot⟩ | written
    · rw [dot, relative]
      rfl
    · rw [written]
      exact anchorOf_toText_append p.anchor (join_names_start plain)
  rw [ofText, anchor, namesOf_toText plain]

end ToText

/-- A relative path is written as its names. -/
theorem toText_relative {names : List Text} (plain : ∀ name ∈ names, Plain name)
    (nonempty : names ≠ []) : toText ⟨.relative, names⟩ = Text.join ['/'] names :=
  (toText_eq plain).resolve_left fun ⟨_, noNames, _⟩ => nonempty noNames

theorem toText_ne_nil (p : Path) : p.toText ≠ [] := by
  unfold toText
  by_cases empty : p.anchor.toText ++ Text.join ['/'] p.names = []
  · simp only [if_pos empty]
    decide
  · simpa only [if_neg empty] using empty

/-! ## The last name -/

/-- The last of some joined names stands at the end, behind a slash unless it is the only one. -/
theorem exists_join_eq_append (front : List Text) (name : Text) :
    ∃ before, Text.join ['/'] (front ++ [name]) = before ++ name ∧
      (before = [] ∨ ∃ more, before = more ++ ['/']) := by
  induction front with
  | nil => exact ⟨[], by simp [Text.join], .inl rfl⟩
  | cons first rest ih =>
    obtain ⟨before, joined, ends⟩ := ih
    have step : Text.join ['/'] (first :: rest ++ [name]) = first ++ '/' :: (before ++ name) := by
      rw [← joined]
      cases rest <;> simp [Text.join, List.intercalate_cons_cons]
    refine ⟨first ++ '/' :: before, by rw [step]; simp, .inr ?_⟩
    rcases ends with rfl | ⟨more, rfl⟩
    · exact ⟨first, rfl⟩
    · exact ⟨first ++ '/' :: more, by simp⟩

/-- A path is written with its last name at the end, behind a slash if anything stands before. -/
theorem exists_toText_eq_append {p : Path} {front : List Text} {name : Text}
    (last : p.names = front ++ [name]) (named : name ≠ []) :
    ∃ before, p.toText = before ++ name ∧ (before = [] ∨ ∃ more, before = more ++ ['/']) := by
  obtain ⟨before, joined, ends⟩ := exists_join_eq_append front name
  have written : p.toText = p.anchor.toText ++ (before ++ name) := by
    rw [toText, last, joined]
    simp [named]
  refine ⟨p.anchor.toText ++ before, by simp [written], ?_⟩
  rcases ends with rfl | ⟨more, rfl⟩
  · cases p.anchor with
    | relative => exact .inl rfl
    | root => exact .inr ⟨[], rfl⟩
    | doubleRoot => exact .inr ⟨['/'], rfl⟩
  · exact .inr ⟨p.anchor.toText ++ more, by simp⟩

theorem suffix_toText {p : Path} {front : List Text} {name : Text}
    (last : p.names = front ++ [name]) : name <:+ p.toText := by
  by_cases unnamed : name = []
  · rw [unnamed]
    exact List.nil_suffix
  · obtain ⟨before, written, -⟩ := exists_toText_eq_append last unnamed
    exact ⟨before, written.symm⟩

/-! ## Joining -/

theorem join_of_isAbsolute {p q : Path} (absolute : q.isAbsolute = true) : p.join q = q := by
  simp [join, absolute]

theorem join_of_relative {p q : Path} (relative : q.isAbsolute = false) :
    p.join q = ⟨p.anchor, p.names ++ q.names⟩ := by
  simp [join, relative]

theorem join_assoc (p q r : Path) : p.join (q.join r) = (p.join q).join r := by
  cases last : r.isAbsolute with
  | true => rw [join_of_isAbsolute last, join_of_isAbsolute last, join_of_isAbsolute last]
  | false =>
    rw [join_of_relative last, join_of_relative last]
    have sameKind : Path.isAbsolute ⟨q.anchor, q.names ++ r.names⟩ = q.isAbsolute := rfl
    cases middle : q.isAbsolute with
    | true => rw [join_of_isAbsolute middle, join_of_isAbsolute (sameKind.trans middle)]
    | false =>
      rw [join_of_relative middle, join_of_relative (sameKind.trans middle)]
      simp

theorem ne_slash_of_start {c : Char} (ne : c ≠ '/') (rest : Text) :
    ¬ ∃ more, c :: rest = '/' :: more := fun ⟨_, same⟩ => ne (List.cons.inj same).1

/-- The start of a spelling stays when more follows it, unless slashes would meet. -/
theorem anchorOf_append {a b : Text} (nonempty : a ≠ [])
    (apart : Text.endsWith ['/'] a = true → ¬ ∃ rest, b = '/' :: rest) :
    anchorOf (a ++ b) = anchorOf a := by
  cases a with
  | nil => exact absurd rfl nonempty
  | cons c rest =>
    -- Three slashes count as one, so the first three characters decide.
    by_cases first : c = '/'
    · subst first
      cases rest with
      | nil => exact anchorOf_slash (apart (by decide))
      | cons d rest =>
        by_cases second : d = '/'
        · subst second
          cases rest with
          | nil => exact anchorOf_slash_slash (apart (by decide))
          | cons e rest =>
            by_cases third : e = '/'
            · subst third
              rfl
            · have start := ne_slash_of_start third
              exact (anchorOf_slash_slash (start _)).trans (anchorOf_slash_slash (start _)).symm
        · have start := ne_slash_of_start second
          exact (anchorOf_slash (start _)).trans (anchorOf_slash (start _)).symm
    · have start := ne_slash_of_start first
      exact (anchorOf_eq_relative.mpr (start _)).trans (anchorOf_eq_relative.mpr (start _)).symm

theorem startsWith_slash {t : Text} :
    Text.startsWith ['/'] t = true ↔ ∃ rest, t = '/' :: rest := by
  cases t with
  | nil => simp [Text.startsWith]
  | cons c rest =>
    simp only [Text.startsWith, List.isPrefixOf_cons_cons, List.isPrefixOf_nil_left, Bool.and_true,
      beq_iff_eq, List.cons.injEq, exists_and_left, exists_eq', and_true]
    exact eq_comm

theorem isAbsolute_ofText {t : Text} : (ofText t).isAbsolute = Text.startsWith ['/'] t := by
  cases start : Text.startsWith ['/'] t with
  | true =>
    have absolute : anchorOf t ≠ .relative := fun relative =>
      anchorOf_eq_relative.mp relative (startsWith_slash.mp start)
    exact isAbsolute_iff.mpr absolute
  | false =>
    have relative : anchorOf t = .relative := anchorOf_eq_relative.mpr fun slash =>
      Bool.false_ne_true (start.symm.trans (startsWith_slash.mpr slash))
    exact isAbsolute_eq_false_iff.mpr relative

/-- Joining two spellings joins the paths, whether or not a slash has to be put between them. -/
theorem ofText_joinText (a b : Text) : ofText (joinText a b) = (ofText a).join (ofText b) := by
  cases absolute : Text.startsWith ['/'] b with
  | true => simp [joinText, absolute, join, isAbsolute_ofText]
  | false =>
    have start : ¬ ∃ rest, b = '/' :: rest := by
      rw [← startsWith_slash, absolute]
      exact Bool.false_ne_true
    have joined : (ofText a).join (ofText b) = ⟨anchorOf a, namesOf a ++ namesOf b⟩ := by
      rw [join, isAbsolute_ofText, absolute]
      rfl
    rw [joined]
    by_cases empty : a = []
    · subst empty
      have relative : anchorOf b = .relative := anchorOf_eq_relative.mpr start
      simp only [joinText, or_true, if_true, ofText, relative]
      rfl
    · cases ends : Text.endsWith ['/'] a with
      | true =>
        obtain ⟨front, rfl⟩ : ['/'] <:+ a := by simpa [Text.endsWith] using ends
        have names : namesOf (front ++ ['/']) = namesOf front := by
          rw [namesOf_append_slash]
          exact List.append_nil _
        have spelled : joinText (front ++ ['/']) b = front ++ ['/'] ++ b := by
          simp only [joinText, absolute, ends, empty]
          simp
        have namesJoined : namesOf (front ++ ['/'] ++ b) = namesOf front ++ namesOf b := by
          rw [List.append_assoc]
          exact namesOf_append_slash front b
        rw [spelled, ofText, anchorOf_append empty fun _ => start, namesJoined, names]
      | false =>
        have spelled : joinText a b = a ++ '/' :: b := by
          simp [joinText, absolute, ends, empty]
        have anchor : anchorOf (a ++ '/' :: b) = anchorOf a :=
          anchorOf_append empty fun met => nomatch met.symm.trans ends
        rw [spelled, ofText, anchor, namesOf_append_slash]

end Path

end SceneScript
