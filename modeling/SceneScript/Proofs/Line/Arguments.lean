import SceneScript.Proofs.Line.Boundary

/-! # Arguments as they are read and written

Every argument that is read from a line has a key and a value that can stand in a line, and writing
such arguments one after another leads back to them.

* `Argument.WellFormed`, `Arguments.WellFormed` — what arguments that were read look like;
* `Arguments.wellFormed_ofSegments` — they do look so;
* `Arguments.write`, `splitArguments_append_write` — arguments behind a main part, and back.
-/

namespace SceneScript

structure Argument.WellFormed (argument : Text × Text) : Prop where
  named : argument.1 ≠ []
  unmarked : '=' ∉ argument.1
  key : argument.1.Clean
  value : argument.2.Clean

structure Arguments.WellFormed (arguments : Arguments) : Prop where
  distinct : arguments.keys.Nodup
  each : ∀ argument ∈ arguments.entries, Argument.WellFormed argument

/-! ## Reading -/

theorem Text.clean_firstWord (t : Text) : (Text.firstWord t).Clean := by
  have ink : (Text.firstWord t).all (!isBlank ·) := List.all_takeWhile
  exact Text.clean_of_no_blank (by simpa using ink)

theorem Text.firstWord_ne_nil {t : Text} (trimmed : t.TrimmedStart) (filled : t ≠ []) :
    Text.firstWord t ≠ [] := by
  rw [Text.firstWord, Text.stripStart_eq_self trimmed]
  cases t with
  | nil => exact absurd rfl filled
  | cons c rest => simp [Text.trimmedStart_cons.1 trimmed]

theorem Argument.clean_flagValue : Text.Clean Argument.flagValue :=
  Text.clean_of_no_blank (by decide)

theorem Argument.wellFormed_of_segment {segment : Text} {argument : Text × Text}
    (unbroken : segment.Unbroken) (read : Argument.ofSegment? segment = some argument) :
    Argument.WellFormed argument := by
  have clean := Text.clean_strip unbroken
  simp only [Argument.ofSegment?] at read
  cases marked : Text.breakAt? '=' (Text.strip segment) with
  | some parts =>
    obtain ⟨key, value⟩ := parts
    obtain ⟨whole, absent⟩ := Text.breakAt?_eq_some marked
    simp only [marked] at read
    split at read
    next => cases read
    next named =>
      cases read
      refine ⟨named, fun member => absent ((Text.strip_isInfix key).subset member), ?_, ?_⟩
      · exact Text.clean_strip (clean.unbroken.of_isInfix ⟨[], '=' :: value, whole.symm⟩)
      · exact Text.clean_strip (clean.unbroken.of_isInfix ⟨key ++ ['='], [], by simp [whole]⟩)
  | none =>
    have absent := Text.breakAt?_eq_none.1 marked
    simp only [marked] at read
    split at read
    next => cases read
    next filled =>
      cases read
      refine ⟨Text.firstWord_ne_nil clean.trimmed.start filled, ?_, ?_, ?_⟩
      · exact fun member => absent ((Text.firstWord_isInfix _).subset member)
      · exact Text.clean_firstWord _
      · exact Argument.clean_flagValue

theorem Arguments.wellFormed_empty : Arguments.WellFormed ∅ :=
  ⟨List.nodup_nil, fun _ member => nomatch member⟩

theorem Arguments.wellFormed_ofSegments {segments : List Text}
    (unbroken : ∀ segment ∈ segments, segment.Unbroken) :
    (Arguments.ofSegments segments).WellFormed := by
  refine ⟨OrderedMap.nodup_keys_ofList _, fun argument member => ?_⟩
  obtain ⟨segment, among, read⟩ := List.mem_filterMap.1 (OrderedMap.mem_of_mem_ofList member)
  exact Argument.wellFormed_of_segment (unbroken segment among) read

/-- A trimmed body falls into a part that can stand in a line and well-formed arguments. -/
theorem splitArguments_wellFormed {body main : Text} {arguments : Arguments}
    (trimmed : body.Trimmed) (split : splitArguments body = (main, arguments)) :
    main.Clean ∧ arguments.WellFormed := by
  unfold splitArguments at split
  cases found : Text.breakAtHyphen? body with
  | none =>
    rw [found] at split
    cases split
    exact ⟨⟨trimmed, Text.breakAtHyphen?_eq_none.1 found⟩, Arguments.wellFormed_empty⟩
  | some parts =>
    obtain ⟨before, after⟩ := parts
    obtain ⟨_, _, _, unbroken⟩ := Text.breakAtHyphen?_eq_some found
    rw [found] at split
    cases split
    exact ⟨Text.clean_strip unbroken,
      Arguments.wellFormed_ofSegments fun _ => Text.unbroken_of_mem_hyphenated⟩

/-! ## Writing -/

def Argument.write (argument : Text × Text) : Text := argument.1 ++ '=' :: argument.2

def Arguments.write (entries : List (Text × Text)) : Text :=
  entries.flatMap fun argument => ' ' :: '-' :: Argument.write argument

theorem Argument.WellFormed.clean_write {argument : Text × Text}
    (wellFormed : Argument.WellFormed argument) : (Argument.write argument).Clean :=
  wellFormed.key.append_cons wellFormed.value (by decide) (by decide)

theorem Argument.WellFormed.ofSegment?_write {argument : Text × Text}
    (wellFormed : Argument.WellFormed argument) :
    Argument.ofSegment? (Argument.write argument) = some argument := by
  rw [Argument.ofSegment?, Text.strip_eq_self wellFormed.clean_write.trimmed, Argument.write,
    Text.breakAt?_append wellFormed.unmarked]
  simp only [Text.strip_eq_self wellFormed.key.trimmed, if_neg wellFormed.named,
    Text.strip_eq_self wellFormed.value.trimmed]

namespace Arguments

variable {entries : List (Text × Text)}

theorem trimmedEnd_write (wellFormed : ∀ argument ∈ entries, Argument.WellFormed argument) :
    (write entries).TrimmedEnd := by
  induction entries with
  | nil => exact Text.trimmedEnd_nil
  | cons first rest ih =>
    obtain ⟨here, later⟩ := List.forall_mem_cons.1 wellFormed
    have mark : Text.TrimmedEnd [' ', '-'] := by simp [Text.TrimmedEnd]; decide
    have written : Text.TrimmedEnd (' ' :: '-' :: Argument.write first) :=
      Text.trimmedEnd_append mark here.clean_write.trimmed.finish
    exact Text.trimmedEnd_append written (ih later)

/-- The segments of arguments that were written are the arguments. -/
theorem hyphenated_write {first : Text × Text}
    (wellFormed : ∀ argument ∈ first :: entries, Argument.WellFormed argument) :
    Text.hyphenated (Argument.write first ++ write entries) =
      (first :: entries).map Argument.write := by
  induction entries generalizing first with
  | nil =>
    obtain ⟨here, _⟩ := List.forall_mem_cons.1 wellFormed
    simpa [write] using Text.hyphenated_of_unbroken here.clean_write.unbroken
  | cons second rest ih =>
    obtain ⟨here, later⟩ := List.forall_mem_cons.1 wellFormed
    have written : write (second :: rest) =
        ' ' :: '-' :: (Argument.write second ++ write rest) := rfl
    rw [written, Text.hyphenated_append here.clean_write.unbroken (by decide), ih later]
    rfl

theorem filterMap_ofSegment?_write
    (wellFormed : ∀ argument ∈ entries, Argument.WellFormed argument) :
    (entries.map Argument.write).filterMap Argument.ofSegment? = entries := by
  induction entries with
  | nil => rfl
  | cons first rest ih =>
    obtain ⟨here, later⟩ := List.forall_mem_cons.1 wellFormed
    rw [List.map_cons, List.filterMap_cons_some here.ofSegment?_write, ih later]

theorem ofSegments_write {arguments : Arguments} (wellFormed : arguments.WellFormed) :
    ofSegments (arguments.entries.map Argument.write) = arguments := by
  rw [ofSegments, filterMap_ofSegment?_write wellFormed.each,
    OrderedMap.ofList_entries wellFormed.distinct]

end Arguments

theorem splitArguments_append_write {main : Text} {arguments : Arguments} (clean : main.Clean)
    (wellFormed : arguments.WellFormed) :
    splitArguments (main ++ Arguments.write arguments.entries) = (main, arguments) := by
  have finish := Arguments.trimmedEnd_write wellFormed.each
  have segments := Arguments.ofSegments_write wellFormed
  obtain ⟨entries⟩ := arguments
  cases entries with
  | nil =>
    have unmarked : Text.breakAtHyphen? (main ++ Arguments.write []) = none := by
      rw [Text.breakAtHyphen?_eq_none]
      simpa [Arguments.write] using clean.unbroken
    rw [splitArguments_of_none unmarked]
    simp [Arguments.write]
    rfl
  | cons first rest =>
    have written : Arguments.write (first :: rest) =
        ' ' :: '-' :: (Argument.write first ++ Arguments.write rest) := rfl
    have tail : (Argument.write first ++ Arguments.write rest).TrimmedEnd := by
      obtain ⟨here, later⟩ := List.forall_mem_cons.1 wellFormed.each
      exact Text.trimmedEnd_append here.clean_write.trimmed.finish
        (Arguments.trimmedEnd_write later)
    -- the first boundary is the one behind the main part
    rw [splitArguments, written, Text.breakAtHyphen?_append clean.unbroken (by decide)]
    simp only [Text.strip_eq_self clean.trimmed, Text.stripEnd_eq_self tail,
      Arguments.hyphenated_write wellFormed.each, segments]

end SceneScript
