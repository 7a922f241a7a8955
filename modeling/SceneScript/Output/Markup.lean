import SceneScript.Output.Constant.Expression
import SceneScript.Output.Emoji
import SceneScript.Output.Style
import SceneScript.Text.Blank

/-! # Console markup

Console output is written with tags in square brackets that switch styles on and off. A backslash
before a tag makes it plain text.

* `Markup.tagAt?` — the tag that a text starts with;
* `Markup.escape` — a text in which nothing is a tag;
* `Markup.pieces` — the tags of a text and what stands between them;
* `Markup.plain` — what a display without styles shows, unless a tag has a fault.
-/

namespace SceneScript.Markup

/-! ## Tags -/

def startsTag (c : Char) : Bool := ('a' ≤ c ∧ c ≤ 'z') || c = '#' || c = '/' || c = '@'

/-- The text up to the first closing bracket, and what follows it, if no opening one comes
first. -/
def untilBracket? : Text → Option (Text × Text)
  | [] => none
  | c :: rest =>
    if c = ']' then some ([], rest)
    else if c = '[' then none
    else (untilBracket? rest).map fun (inside, after) => (c :: inside, after)

/-- The inside of the tag at the start of a text, and what follows the tag. -/
def tagAt? : Text → Option (Text × Text)
  | '[' :: c :: rest =>
    if startsTag c then (untilBracket? rest).map fun (inside, after) => (c :: inside, after)
    else none
  | _ => none

theorem length_of_untilBracket? {t inside after : Text}
    (found : untilBracket? t = some (inside, after)) : after.length < t.length := by
  induction t generalizing inside after with
  | nil => simp [untilBracket?] at found
  | cons c rest ih =>
    unfold untilBracket? at found
    split at found
    · simp_all
    · split at found
      · simp at found
      · obtain ⟨⟨i, a⟩, inner, same⟩ := Option.map_eq_some_iff.1 found
        obtain ⟨rfl, rfl⟩ := Prod.mk.inj same
        have := ih inner
        simp only [List.length_cons]
        omega

theorem length_of_tagAt? {t inside after : Text} (found : tagAt? t = some (inside, after)) :
    after.length < t.length := by
  unfold tagAt? at found
  split at found
  · split at found
    · obtain ⟨⟨i, a⟩, inner, same⟩ := Option.map_eq_some_iff.1 found
      obtain ⟨rfl, rfl⟩ := Prod.mk.inj same
      have := length_of_untilBracket? inner
      simp only [List.length_cons]
      omega
    · simp at found
  · simp at found

def backslashes (t : Text) : Nat := (t.takeWhile (· = '\\')).length

/-! ## Escaping -/

/-- Every tag gets a backslash, and those before it are doubled; `count` backslashes have just
been passed. -/
def escapeTags (count : Nat) (t : Text) : Text :=
  match t with
  | [] => List.replicate count '\\'
  | c :: rest =>
    if c = '\\' then escapeTags (count + 1) rest
    else
      match h : tagAt? (c :: rest) with
      | some (inside, after) =>
        have := length_of_tagAt? h
        List.replicate (2 * count + 1) '\\' ++ '[' :: inside ++ ']' :: escapeTags 0 after
      | none => List.replicate count '\\' ++ c :: escapeTags 0 rest
termination_by t.length
decreasing_by
  all_goals simp only [List.length_cons] at *
  all_goals omega

/-- A single backslash at the end is doubled as well, for a tag may follow. -/
def escape (t : Text) : Text :=
  let escaped := escapeTags 0 t
  if Text.endsWith ['\\'] escaped && !Text.endsWith ['\\', '\\'] escaped then escaped ++ ['\\']
  else escaped

/-! ## Display -/

/-- Why a marked-up text cannot be shown. -/
inductive Fault where
  /-- A closing tag, given with its place in the text, has nothing to close. -/
  | unopened (tag : Text) (position : Nat)
  | style (fault : Style.Fault)
  /-- What a tag hands to a handler is no constant. -/
  | badArguments (parameters arguments : Text) (fault : Constant.Fault)
  deriving Repr, DecidableEq

def Fault.message : Fault → Text
  | .unopened tag position =>
    if Text.strip (tag.drop 1) = [] then
      "closing tag '[/]' at position " ++ Text.ofNat position ++ " has nothing to close"
    else
      "closing tag '[" ++ tag ++ "]' at position " ++ Text.ofNat position ++
        " doesn't match any open tag"
  | .style fault => fault.message
  | .badArguments parameters arguments fault =>
    "error parsing " ++
      (if fault.isMisspelling then Text.quoted arguments ++ " in " else []) ++
      Text.quoted parameters ++ "; " ++ fault.message

def canonicalStyle (name : Text) : Except Fault Text :=
  (Style.canonicalName name).mapError .style

/-- A tag that waits to be closed. -/
structure OpenTag where
  style : Text
  /-- What stands behind an equality sign. -/
  parameters : Option Text := none

/-- The arguments in the parameters of a handler: without its name, if they are a name and something
in brackets. -/
def argumentsOf (parameters : Text) : Text :=
  let parameters := Text.strip parameters
  let rest := parameters.dropWhile fun c => c = '.' || Constant.isWordChar c
  if rest = [] then "()"
  else if rest.head? = some '(' ∧ rest.getLast? = some ')' ∧ '\n' ∉ rest then rest
  else parameters

/-- A handler is looked at when its tag is closed. -/
def OpenTag.close (tag : OpenTag) : Except Fault Unit :=
  match tag.parameters with
  | none | some [] => .ok ()
  | some parameters =>
    if Text.startsWith "@" tag.style then
      let arguments := argumentsOf parameters
      match Constant.fault? arguments with
      | some fault => .error (.badArguments parameters arguments fault)
      | none => .ok ()
    else .ok ()

/-- The tags that are open after a tag, the latest one first. -/
def applyTag (position : Nat) (inside : Text) (opened : List OpenTag) :
    Except Fault (List OpenTag) := do
  let (name, parameters) :=
    match Text.breakAt? '=' inside with
    | some (name, parameters) => (name, some parameters)
    | none => (inside, none)
  if Text.startsWith "/" name then
    let style := Text.strip (name.drop 1)
    let closed ←
      if style = [] then pure (opened.head?.map (·.style))
      else some <$> canonicalStyle style
    match opened.find? (some ·.style = closed) with
    | some tag =>
      tag.close
      return opened.eraseP (some ·.style = closed)
    | none => .error (.unopened inside position)
  else return { style := ← canonicalStyle name, parameters } :: opened

/-- Characters that move the print head are not shown. -/
def isShown (c : Char) : Bool :=
  c ≠ '\x07' && c ≠ '\x08' && c ≠ '\x0b' && c ≠ '\x0c' && c ≠ '\r'

/-- A part of a marked-up text. -/
inductive Piece where
  | plain (text : Text)
  /-- A tag, given with its place in the whole text. -/
  | tag (position : Nat) (inside : Text)
  deriving Repr, DecidableEq

/-- The pieces of a text. Half of the backslashes before a tag remain, and an odd one makes the tag
a plain piece of its own; a single one before any other bracket is dropped. `run` is the plain text
just passed, last character first, and `count` the number of backslashes after it. -/
def piecesFrom (position count : Nat) (run : Text) (t : Text) : List Piece :=
  match t with
  | [] => [.plain (run.reverse ++ List.replicate count '\\')]
  | c :: rest =>
    if c = '\\' then piecesFrom (position + 1) (count + 1) run rest
    else
      match h : tagAt? (c :: rest) with
      | some (inside, after) =>
        have := length_of_tagAt? h
        .plain (run.reverse ++ List.replicate (count / 2) '\\') ::
          (if count % 2 = 1 then .plain ('[' :: inside ++ [']']) else .tag position inside) ::
          piecesFrom (position + inside.length + 2) 0 [] after
      | none =>
        let kept := if c = '[' then count - 1 else count
        piecesFrom (position + 1) 0 (c :: List.replicate kept '\\' ++ run) rest
termination_by t.length
decreasing_by
  all_goals simp only [List.length_cons] at *
  all_goals omega

def pieces (t : Text) : List Piece := piecesFrom 0 0 [] t

/-- What pieces show behind the tags in `opened`. -/
def plainOf (opened : List OpenTag) : List Piece → Except Fault Text
  | [] => .ok []
  | .plain text :: rest => do return Emoji.expand text ++ (← plainOf opened rest)
  | .tag position inside :: rest => do plainOf (← applyTag position inside opened) rest

def plain (t : Text) : Except Fault Text := (plainOf [] (pieces t)).map (·.filter isShown)

end SceneScript.Markup
