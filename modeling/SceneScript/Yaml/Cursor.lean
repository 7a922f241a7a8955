import SceneScript.Text.Numeral
import SceneScript.Text.Quoted

/-! # Positions in a YAML document

A cursor is the rest of a document with the line and the column at which it starts. At the end it
shows the null character, which no document holds.

* `Fault` — what is wrong with a document;
* `Cursor.peek`, `Cursor.forward`, `Cursor.takeBreak` — looking and moving;
* `Cursor.skipToToken` — over blanks, comments and line breaks;
* `Cursor.readPlain`, `Cursor.readQuoted`, `Cursor.readBlock?` — the three kinds of scalars.
-/

namespace SceneScript.Yaml

inductive Fault where
  /-- The document is not well formed, or has a tag that means nothing here. -/
  | malformed
  /-- A text that has the form of a value but stands for none. -/
  | impossible (message : Text)
  | unknownFlag (word : Text)
  | emptyNumber
  | notMoment
  /-- A date is given by something that is no text. -/
  | momentOfMapping
  /-- A character has a number beyond all characters by far. -/
  | hugeCharacter
  | hugeNumber
  | tooDeep
  deriving Repr, DecidableEq

def Fault.message : Fault → Text
  | .malformed => "The configuration is not valid YAML"
  | .impossible message => message
  | .unknownFlag word => Text.quoted word
  | .emptyNumber => "string index out of range"
  | .notMoment => "'NoneType' object has no attribute 'groupdict'"
  | .momentOfMapping => "expected string or bytes-like object, got 'list'"
  | .hugeCharacter => "Python int too large to convert to C int"
  | .hugeNumber => "int too large to convert to float"
  | .tooDeep => "maximum recursion depth exceeded"

/-- What cannot be read is malformed. -/
def orMalformed {α : Type} : Option α → Except Fault α
  | some a => .ok a
  | none => .error .malformed

def endMark : Char := '\x00'

def isBreak (c : Char) : Bool := c = '\n' || c = '\x85' || c = '\u2028' || c = '\u2029'

def endsLine (c : Char) : Bool := c = endMark || isBreak c

/-- A blank, a line break or the end. -/
def endsName (c : Char) : Bool := c = ' ' || endsLine c

def endsWord (c : Char) : Bool := c = '\t' || endsName c

def isNameCharacter (c : Char) : Bool := c.isAlphanum || c = '-' || c = '_'

/-- The characters that a document may hold. -/
def isPrintable (c : Char) : Bool :=
  let n := c.toNat
  c = '\t' || c = '\n' || c = '\r' || (0x20 ≤ n && n ≤ 0x7e) || n = 0x85 ||
    (0xa0 ≤ n && n ≤ 0xfffd) || 0x10000 ≤ n

structure Cursor where
  rest : Text
  index : Nat := 0
  line : Nat := 0
  column : Nat := 0

namespace Cursor

def peekAt (c : Cursor) (n : Nat) : Char := c.rest[n]?.getD endMark

def peek (c : Cursor) : Char := c.peekAt 0

def forward (c : Cursor) : Cursor :=
  match c.rest with
  | [] => c
  | next :: rest =>
    if isBreak next then ⟨rest, c.index + 1, c.line + 1, 0⟩
    else ⟨rest, c.index + 1, c.line, if next = '\ufeff' then c.column else c.column + 1⟩

def forwardBy : Nat → Cursor → Cursor
  | 0, c => c
  | n + 1, c => forwardBy n c.forward

def takeWhile (p : Char → Bool) (c : Cursor) : Text × Cursor :=
  let taken := c.rest.takeWhile p
  (taken, c.forwardBy taken.length)

def skipWhile (p : Char → Bool) (c : Cursor) : Cursor := (c.takeWhile p).2

/-- The line break at the cursor, if there is one. The two separators stay what they are. -/
def takeBreak (c : Cursor) : Text × Cursor :=
  if isBreak c.peek then
    (if c.peek = '\n' ∨ c.peek = '\x85' then ['\n'] else [c.peek], c.forward)
  else ([], c)

/-- A line that consists of a mark at its start separates documents. -/
def isAtSeparator (c : Cursor) : Bool :=
  (c.rest.take 3 = "---".toList || c.rest.take 3 = "...".toList) && endsWord (c.peekAt 3)

/-- Over blanks, comments and line breaks, and whether there was a line break. -/
def skipToToken : Nat → Cursor → Bool × Cursor
  | 0, c => (false, c)
  | fuel + 1, c =>
    let c := c.skipWhile (· = ' ')
    let c := if c.peek = '#' then c.skipWhile (!endsLine ·) else c
    if isBreak c.peek then (true, (skipToToken fuel c.forward).2) else (false, c)

/-- The mark of a byte order may stand at the very start. -/
def skipByteOrderMark (c : Cursor) : Cursor :=
  if c.index = 0 ∧ c.peek = '\ufeff' then c.forward else c

/-! ## Plain scalars -/

def isFlowIndicator (c : Char) : Bool :=
  c = ',' || c = '[' || c = ']' || c = '\x7b' || c = '\x7d'

def endsPlain (inFlow : Bool) (c next : Char) : Bool :=
  endsWord c || (c = ':' && (endsWord next || (inFlow && isFlowIndicator next))) ||
    (inFlow && (isFlowIndicator c || c = '?'))

def plainRun (inFlow : Bool) : Text → Text
  | [] => []
  | c :: rest =>
    if endsPlain inFlow c (rest.head?.getD endMark) then [] else c :: plainRun inFlow rest

/-- The line breaks and blanks after the first break; nothing before a separator. -/
def plainBreaks : Nat → Cursor → Option Text × Cursor
  | 0, c => (some [], c)
  | fuel + 1, c =>
    if c.peek = ' ' then plainBreaks fuel c.forward
    else if isBreak c.peek then
      let (lineBreak, c) := c.takeBreak
      if c.isAtSeparator then (none, c)
      else
        let (breaks, c) := plainBreaks fuel c
        (breaks.map (lineBreak ++ ·), c)
    else (some [], c)

/-- A single line feed folds into a blank. -/
def foldBreaks (first more : Text) : Text :=
  if first = ['\n'] then if more = [] then [' '] else more else first ++ more

/-- What the space between two parts of a plain scalar stands for, and whether it holds a line
break. Nothing is left where the scalar has to end. -/
def plainSpace (c : Cursor) : Text × Bool × Cursor :=
  let (blanks, c) := c.takeWhile (· = ' ')
  if isBreak c.peek then
    let (first, c) := c.takeBreak
    if c.isAtSeparator then ([], true, c)
    else
      match plainBreaks (c.rest.length + 1) c with
      | (none, c) => ([], true, c)
      | (some more, c) => (foldBreaks first more, true, c)
  else (blanks, false, c)

/-- A plain scalar whose further lines are indented by at least `indent`. The flag says whether a
line break has just been passed. -/
def readPlain (inFlow : Bool) (indent : Int) : Nat → Bool → Cursor → Text × Bool × Cursor
  | 0, atBreak, c => ([], atBreak, c)
  | fuel + 1, atBreak, c =>
    match if c.peek = '#' then [] else plainRun inFlow c.rest with
    | [] => ([], atBreak, c)
    | run =>
      let (space, atBreak, c) := (c.forwardBy run.length).plainSpace
      if space = [] ∨ c.peek = '#' ∨ (!inFlow ∧ (c.column : Int) < indent) then (run, atBreak, c)
      else
        match readPlain inFlow indent fuel atBreak c with
        | ([], atBreak, c) => (run, atBreak, c)
        | (more, atBreak, c) => (run ++ space ++ more, atBreak, c)

/-! ## Quoted scalars -/

def escapes : List (Char × Char) :=
  [('0', '\x00'), ('a', '\x07'), ('b', '\x08'), ('t', '\t'), ('\t', '\t'), ('n', '\n'),
   ('v', '\x0b'), ('f', '\x0c'), ('r', '\r'), ('e', '\x1b'), (' ', ' '), ('"', '"'), ('\\', '\\'),
   ('/', '/'), ('N', '\x85'), ('_', '\xa0'), ('L', '\u2028'), ('P', '\u2029')]

def codeLengths : List (Char × Nat) := [('x', 2), ('u', 4), ('U', 8)]

/-- The line breaks inside a quoted scalar; a separator may not stand among them. -/
def quotedBreaks? : Nat → Cursor → Option (Text × Cursor)
  | 0, _ => none
  | fuel + 1, c =>
    if c.isAtSeparator then none
    else
      let c := c.skipWhile fun d => d = ' ' || d = '\t'
      if isBreak c.peek then
        let (lineBreak, c) := c.takeBreak
        (quotedBreaks? fuel c).map fun (breaks, c) => (lineBreak ++ breaks, c)
      else some ([], c)

/-- The character with a given number. -/
def charOfCode (code : Nat) : Except Fault Char :=
  if code < 0x110000 then .ok (charOfUnit code)
  else if code < 0x80000000 then .error (.impossible "chr() arg not in range(0x110000)")
  else .error .hugeCharacter

/-- What follows a backslash between double quotes. -/
def readEscape (c : Cursor) : Except Fault (Text × Cursor) :=
  match escapes.lookup c.peek, codeLengths.lookup c.peek with
  | some escaped, _ => .ok ([escaped], c.forward)
  | none, some length =>
    let digits := c.forward.rest.take length
    if digits.length = length ∧ digits.all (isDigitOf 16) then do
      return ([← charOfCode (Text.numeralValue 16 digits)], c.forward.forwardBy length)
    else .error .malformed
  | none, none =>
    if isBreak c.peek then orMalformed (quotedBreaks? (c.rest.length + 1) c.takeBreak.2)
    else .error .malformed

/-- The blanks and line breaks between two words of a quoted scalar. -/
def quotedSpace? (c : Cursor) : Option (Text × Cursor) :=
  let (blanks, c) := c.takeWhile fun d => d = ' ' || d = '\t'
  if c.peek = endMark then none
  else if isBreak c.peek then
    let (first, c) := c.takeBreak
    (quotedBreaks? (c.rest.length + 1) c).map fun (more, c) => (foldBreaks first more, c)
  else some (blanks, c)

/-- A quoted scalar up to the closing quote. -/
def readQuoted (quote : Char) : Nat → Cursor → Except Fault (Text × Cursor)
  | 0, _ => .error .malformed
  | fuel + 1, c =>
    let next := c.peek
    if next = quote then
      if quote = '\'' ∧ c.peekAt 1 = '\'' then do
        let (text, c) ← readQuoted quote fuel (c.forwardBy 2)
        return ('\'' :: text, c)
      else .ok ([], c.forward)
    else if next = '\\' ∧ quote = '"' then do
      let (escaped, c) ← readEscape c.forward
      let (text, c) ← readQuoted quote fuel c
      return (escaped ++ text, c)
    else if endsWord next then do
      let (space, c) ← orMalformed (quotedSpace? c)
      let (text, c) ← readQuoted quote fuel c
      return (space ++ text, c)
    else do
      let (text, c) ← readQuoted quote fuel c.forward
      return (next :: text, c)

/-! ## Block scalars -/

/-- What becomes of the line breaks at the end of a block scalar. -/
inductive Chomping where
  | strip
  | clip
  | keep
  deriving Repr, DecidableEq

def chompingOf? : Char → Option Chomping
  | '+' => some .keep
  | '-' => some .strip
  | _ => none

/-- The chomping and the indentation that the header of a block scalar gives, in either order. -/
def blockIndicators? (c : Cursor) : Option (Chomping × Option Nat × Cursor) :=
  let digit? (c : Cursor) : Option Nat := digitValue? 10 c.peek
  let (chomping, increment, c) :=
    match chompingOf? c.peek with
    | some chomping =>
      let c := c.forward
      match digit? c with
      | some n => (chomping, some n, c.forward)
      | none => (chomping, none, c)
    | none =>
      match digit? c with
      | some n =>
        let c := c.forward
        match chompingOf? c.peek with
        | some chomping => (chomping, some n, c.forward)
        | none => (Chomping.clip, some n, c)
      | none => (Chomping.clip, none, c)
  if increment = some 0 || !endsName c.peek then none else some (chomping, increment, c)

/-- The rest of the header holds nothing but a comment. -/
def endHeader? (c : Cursor) : Option Cursor :=
  let c := c.skipWhile (· = ' ')
  let c := if c.peek = '#' then c.skipWhile (!endsLine ·) else c
  if endsLine c.peek then some c.takeBreak.2 else none

/-- The line breaks before the first line that is not blank, and the deepest indentation there. -/
def blockIndentation : Nat → Nat → Cursor → Text × Nat × Cursor
  | 0, deepest, c => ([], deepest, c)
  | fuel + 1, deepest, c =>
    if c.peek = ' ' then
      let c := c.forward
      blockIndentation fuel (max deepest c.column) c
    else if isBreak c.peek then
      let (lineBreak, c) := c.takeBreak
      let (breaks, deepest, c) := blockIndentation fuel deepest c
      (lineBreak ++ breaks, deepest, c)
    else ([], deepest, c)

def skipIndent (indent : Nat) : Nat → Cursor → Cursor
  | 0, c => c
  | fuel + 1, c =>
    if c.column < indent ∧ c.peek = ' ' then skipIndent indent fuel c.forward else c

/-- The line breaks before the next line that is indented far enough or not blank. -/
def blockBreaks (indent : Nat) : Nat → Cursor → Text × Cursor
  | 0, c => ([], c)
  | fuel + 1, c =>
    let c := skipIndent indent indent c
    if isBreak c.peek then
      let (lineBreak, c) := c.takeBreak
      let (breaks, c) := blockBreaks indent fuel c
      (lineBreak ++ breaks, c)
    else ([], c)

def isIndented (c : Cursor) (indent : Nat) : Bool := c.column = indent && c.peek ≠ endMark

/-- The lines of a block scalar after `breaks`, and the line breaks at its end. -/
def blockLines (folded : Bool) (indent : Nat) : Nat → Text → Cursor → Text × Text × Text × Cursor
  | 0, breaks, c => ([], [], breaks, c)
  | fuel + 1, breaks, c =>
    if c.isIndented indent then
      let isBlank (d : Char) : Bool := d = ' ' || d = '\t'
      let startsBlank := isBlank c.peek
      let (line, c) := c.takeWhile (!endsLine ·)
      let (lineBreak, c) := c.takeBreak
      let (more, c) := blockBreaks indent (c.rest.length + 1) c
      if c.isIndented indent then
        let joint :=
          if folded && lineBreak = ['\n'] && !startsBlank && !isBlank c.peek then
            if more = [] then [' '] else []
          else lineBreak
        let (text, last, tail, c) := blockLines folded indent fuel more c
        (breaks ++ line ++ joint ++ text, last, tail, c)
      else (breaks ++ line, lineBreak, more, c)
    else ([], [], breaks, c)

/-- A block scalar after its indicator, inside a block with the given indentation. -/
def readBlock? (folded : Bool) (parentIndent : Int) (c : Cursor) : Option (Text × Cursor) := do
  let (chomping, increment, c) ← blockIndicators? c
  let c ← endHeader? c
  let least := max (parentIndent + 1).toNat 1
  let (breaks, indent, c) :=
    match increment with
    | none =>
      let (breaks, deepest, c) := blockIndentation (c.rest.length + 1) 0 c
      (breaks, max least deepest, c)
    | some increment =>
      let indent := least + increment - 1
      let (breaks, c) := blockBreaks indent (c.rest.length + 1) c
      (breaks, indent, c)
  let (text, last, tail, c) := blockLines folded indent (c.rest.length + 1) breaks c
  match chomping with
  | .strip => return (text, c)
  | .clip => return (text ++ last, c)
  | .keep => return (text ++ last ++ tail, c)

end Cursor

end SceneScript.Yaml
