import SceneScript.Proofs.Path.Spelling

/-! # Collapsed paths

Names are collapsed from left to right onto a stack. In a collapsed path `..` stands at the front
only, so that names without `..` stay when they come after others.

* `Path.Stacked` — the shape of the stack: `..` lies only at the bottom;
* `Path.foldl_collapseStep_collapsed` — collapsing part of the way does not matter;
* `Path.collapse_collapse`, `Path.absolute_collapse` — what has been collapsed stays as it is, and
  stands for the same place;
* `Path.notMem_of_collapsed` — after a name no `..` is left;
* `Path.relativeTo_of_below` — the way from a directory down to what lies in it.
-/

namespace SceneScript.Path

/-! ## One name after another -/

section Step

variable {anchor : Anchor} {stack names : List Text} {name : Text}

theorem collapseStep_of_ne (ne : name ≠ parentName) :
    collapseStep anchor stack name = name :: stack := by
  simp [collapseStep, ne]

/-- A name and `..` after it cancel each other. -/
theorem collapseStep_cancel (ne : name ≠ parentName) :
    collapseStep anchor (name :: stack) parentName = stack := by
  simp [collapseStep, ne]

theorem foldl_collapseStep_of_notMem (absent : parentName ∉ names) (stack : List Text) :
    names.foldl (collapseStep anchor) stack = names.reverse ++ stack := by
  induction names generalizing stack with
  | nil => rfl
  | cons name rest ih =>
    simp only [List.mem_cons, not_or] at absent
    rw [List.foldl_cons, collapseStep_of_ne (Ne.symm absent.1), ih absent.2]
    simp

/-- Nothing but the names comes onto the stack. -/
theorem mem_of_mem_foldl_collapseStep {member : Text}
    (collapsed : member ∈ names.foldl (collapseStep anchor) stack) :
    member ∈ stack ∨ member ∈ names := by
  induction names generalizing stack with
  | nil => exact .inl collapsed
  | cons name rest ih =>
    rcases ih collapsed with onStack | later
    · unfold collapseStep at onStack
      grind
    · exact .inr (List.mem_cons_of_mem _ later)

end Step

/-! ## The shape of a stack -/

/-- The last name is the top of the stack, and `..` lies only at the bottom. -/
def Stacked (stack : List Text) : Prop :=
  ∃ names count, stack = names ++ List.replicate count parentName ∧ parentName ∉ names

theorem stacked_nil : Stacked [] := ⟨[], 0, rfl, List.not_mem_nil⟩

theorem Stacked.collapseStep {stack : List Text} (stacked : Stacked stack) (anchor : Anchor)
    (name : Text) : Stacked (collapseStep anchor stack name) := by
  obtain ⟨names, count, rfl, absent⟩ := stacked
  by_cases ne : name = parentName
  · subst ne
    cases names with
    | cons last rest =>
      simp only [List.mem_cons, not_or] at absent
      rw [List.cons_append, collapseStep_cancel (Ne.symm absent.1)]
      exact ⟨rest, count, rfl, absent.2⟩
    | nil =>
      cases count with
      | zero =>
        by_cases relative : anchor = .relative
        · exact ⟨[], 1, by simp [Path.collapseStep, relative], absent⟩
        · exact ⟨[], 0, by simp [Path.collapseStep, relative], absent⟩
      | succ count => exact ⟨[], count + 2, by simp [Path.collapseStep, List.replicate], absent⟩
  · rw [collapseStep_of_ne ne]
    exact ⟨name :: names, count, rfl, by simp [Ne.symm ne, absent]⟩

theorem Stacked.foldl_collapseStep {stack : List Text} (stacked : Stacked stack) (anchor : Anchor)
    (names : List Text) : Stacked (names.foldl (Path.collapseStep anchor) stack) := by
  induction names generalizing stack with
  | nil => exact stacked
  | cons name rest ih => exact ih (stacked.collapseStep anchor name)

/-- In a collapsed path no `..` comes after a name. -/
theorem notMem_of_collapsed {p : Path} (collapsed : p.collapse = p) {before after : List Text}
    {name : Text} (split : p.names = before ++ name :: after) (ne : name ≠ parentName) :
    parentName ∉ after := by
  have shape : Stacked (p.names.foldl (Path.collapseStep p.anchor) []) :=
    stacked_nil.foldl_collapseStep p.anchor p.names
  have reversed : p.names.reverse = p.names.foldl (Path.collapseStep p.anchor) [] := by
    conv => lhs; rw [← collapsed]
    simp [collapse]
  obtain ⟨names, count, stack, absent⟩ := shape
  -- The stack from its top is the path from its end, so `name` cuts it above the bottom.
  rw [← reversed, split, List.reverse_append, List.reverse_cons, List.append_assoc] at stack
  intro member
  rcases List.append_eq_append_iff.mp stack with ⟨more, inNames, -⟩ | ⟨more, inAfter, atBottom⟩
  · rw [inNames] at absent
    exact absent (List.mem_append_left _ (List.mem_reverse.mpr member))
  · have bottom : name ∈ List.replicate count parentName := by
      rw [atBottom]
      simp
    exact ne (List.eq_of_mem_replicate bottom)

/-! ## Collapsing twice -/

/-- Names may be collapsed by themselves before they are put on a stack. Those that start at the
root lose a `..` there, which counts where something is on the stack. -/
theorem foldl_collapseStep_collapsed {first anchor : Anchor} {bottom : List Text}
    (starts : first = .relative ∨ bottom = [] ∧ anchor ≠ .relative) (names stack : List Text) :
    (names.foldl (collapseStep first) stack).reverse.foldl (collapseStep anchor) bottom =
      names.foldl (collapseStep anchor) (stack.reverse.foldl (collapseStep anchor) bottom) := by
  induction names generalizing stack with
  | nil => rfl
  | cons name rest ih =>
    rw [List.foldl_cons, List.foldl_cons, ih]
    congr 1
    by_cases ne : name = parentName
    · subst ne
      cases stack with
      | nil =>
        -- `..` stays on the stack if the names are relative, and is lost at the root otherwise
        rcases starts with relative | ⟨empty, anchored⟩
        · simp [collapseStep, relative]
        · by_cases relative : first = .relative
          · simp [collapseStep, relative]
          · simp [collapseStep, relative, empty, anchored]
      | cons last rest =>
        by_cases same : last = parentName
        · simp [collapseStep, same]
        · rw [collapseStep_cancel same, List.reverse_cons, List.foldl_append, List.foldl_cons,
            List.foldl_nil, collapseStep_of_ne same, collapseStep_cancel same]
    · rw [collapseStep_of_ne ne]
      simp

theorem foldl_collapseStep_again (anchor : Anchor) (names : List Text) :
    (names.foldl (collapseStep anchor) []).reverse.foldl (collapseStep anchor) [] =
      names.foldl (collapseStep anchor) [] := by
  by_cases relative : anchor = .relative
  · exact foldl_collapseStep_collapsed (.inl relative) names []
  · exact foldl_collapseStep_collapsed (.inr ⟨rfl, relative⟩) names []

theorem collapse_collapse (p : Path) : p.collapse.collapse = p.collapse := by
  simp only [collapse, foldl_collapseStep_again]

/-! ## Places -/

section Places

variable {workingDirectory : List Text} {p : Path}

/-- Both kinds of roots lose a `..` that comes directly after them. -/
theorem collapseStep_of_anchored {anchor : Anchor} (anchored : anchor ≠ .relative) :
    collapseStep anchor = collapseStep .root := by
  funext stack name
  simp [collapseStep, anchored]

theorem absolute_of_isAbsolute (absolute : p.isAbsolute = true) :
    p.absolute workingDirectory = ⟨.root, (p.names.foldl (collapseStep .root) []).reverse⟩ := by
  simp [Path.absolute, join, absolute, collapse,
    collapseStep_of_anchored (isAbsolute_iff.mp absolute)]

theorem absolute_of_relative (relative : p.isAbsolute = false) :
    p.absolute workingDirectory =
      ⟨.root, (p.names.foldl (collapseStep .root)
        (workingDirectory.foldl (collapseStep .root) [])).reverse⟩ := by
  simp [Path.absolute, join, relative, collapse]

/-- A path stands for the same place after it has been collapsed. -/
theorem absolute_collapse (workingDirectory : List Text) (p : Path) :
    p.collapse.absolute workingDirectory = p.absolute workingDirectory := by
  have sameAnchor : p.collapse.isAbsolute = p.isAbsolute := rfl
  cases kind : p.isAbsolute with
  | true =>
    rw [absolute_of_isAbsolute kind, absolute_of_isAbsolute (sameAnchor.trans kind)]
    simp only [collapse, collapseStep_of_anchored (isAbsolute_iff.mp kind),
      foldl_collapseStep_again]
  | false =>
    rw [absolute_of_relative kind, absolute_of_relative (sameAnchor.trans kind)]
    simp only [collapse, isAbsolute_eq_false_iff.mp kind]
    rw [foldl_collapseStep_collapsed (.inl rfl)]
    rfl

/-- Names without `..` after those of a directory lead to what lies in it. -/
theorem names_absolute_append {directory : Path} {below : List Text}
    (sameKind : p.isAbsolute = directory.isAbsolute) (names : p.names = directory.names ++ below)
    (absent : parentName ∉ below) :
    (p.absolute workingDirectory).names =
      (directory.absolute workingDirectory).names ++ below := by
  cases kind : directory.isAbsolute with
  | true =>
    rw [absolute_of_isAbsolute kind, absolute_of_isAbsolute (sameKind.trans kind), names]
    simp [List.foldl_append, foldl_collapseStep_of_notMem absent]
  | false =>
    rw [absolute_of_relative kind, absolute_of_relative (sameKind.trans kind), names]
    simp [List.foldl_append, foldl_collapseStep_of_notMem absent]

end Places

/-! ## Names that can be read -/

theorem plain_parentName : Plain parentName := ⟨by decide, by decide, by decide⟩

theorem plain_join {p q : Path} (plain : ∀ name ∈ p.names, Plain name)
    (plainToo : ∀ name ∈ q.names, Plain name) : ∀ name ∈ (p.join q).names, Plain name := by
  unfold join
  split
  · exact plainToo
  · exact List.forall_mem_append.mpr ⟨plain, plainToo⟩

theorem plain_collapse {p : Path} (plain : ∀ name ∈ p.names, Plain name) :
    ∀ name ∈ p.collapse.names, Plain name := by
  intro name member
  rcases mem_of_mem_foldl_collapseStep (List.mem_reverse.mp member) with onStack | inNames
  · cases onStack
  · exact plain name inNames

theorem plain_absolute {workingDirectory : List Text} {p : Path}
    (working : ∀ name ∈ workingDirectory, Plain name) (plain : ∀ name ∈ p.names, Plain name) :
    ∀ name ∈ (p.absolute workingDirectory).names, Plain name :=
  plain_collapse (plain_join working plain)

theorem below?_absolute {workingDirectory : List Text} {directory p : Path} {below : List Text} :
    below? (directory.absolute workingDirectory) (p.absolute workingDirectory) = some below ↔
      (p.absolute workingDirectory).names =
        (directory.absolute workingDirectory).names ++ below := by
  have sameAnchor : (p.absolute workingDirectory).anchor =
    (directory.absolute workingDirectory).anchor := rfl
  unfold below?
  constructor
  · intro found
    split at found
    next lies =>
      obtain ⟨-, more, names⟩ := lies
      rw [← names, List.drop_left] at found
      rw [← names, Option.some.inj found]
    next => cases found
  · intro names
    rw [if_pos ⟨sameAnchor, below, names.symm⟩, names, List.drop_left]

/-! ## The way from a directory -/

theorem commonLength_append (names more : List Text) :
    commonLength names (names ++ more) = names.length := by
  induction names with
  | nil => simp [commonLength]
  | cons name rest ih => simp [commonLength, ih]

/-- Down to what lies in a directory the way is that of the names. -/
theorem relativeTo_of_below {workingDirectory : List Text} {directory p : Path}
    {below : List Text}
    (within : (p.absolute workingDirectory).names =
      (directory.absolute workingDirectory).names ++ below) :
    relativeTo workingDirectory directory p = ⟨.relative, below⟩ := by
  simp [relativeTo, within, commonLength_append]

theorem plain_relativeTo {workingDirectory : List Text} {directory p : Path}
    (working : ∀ name ∈ workingDirectory, Plain name) (plain : ∀ name ∈ p.names, Plain name) :
    ∀ name ∈ (relativeTo workingDirectory directory p).names, Plain name := by
  intro name member
  rcases List.mem_append.mp member with upwards | downwards
  · exact List.eq_of_mem_replicate upwards ▸ plain_parentName
  · exact plain_absolute working plain name (List.mem_of_mem_drop downwards)

end SceneScript.Path
