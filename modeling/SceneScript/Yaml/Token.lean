import SceneScript.OrderedMap
import SceneScript.Yaml.Cursor

/-! # YAML tokens

The tokens of a document, with marks for the blocks that its indentation opens and closes. A key is
only known as one when the colon after it is reached; until then its place is kept as a candidate.

* `Token`, `Token.scan` — the tokens of a document, up to a fault if there is one;
* `Scan` — the state between two tokens.
-/

namespace SceneScript.Yaml

/-- A tag as it is written: the handle, if it has one, and what follows it. -/
structure TagSpelling where
  handle : Option Text
  suffix : Text
  deriving Repr, DecidableEq

inductive Token where
  | versionDirective (major minor : Nat)
  | tagDirective (handle start : Text)
  | otherDirective
  | documentStart
  | documentEnd
  | blockSequenceStart
  | blockMappingStart
  | blockEnd
  | flowSequenceStart
  | flowSequenceEnd
  | flowMappingStart
  | flowMappingEnd
  | blockEntry
  | flowEntry
  | key
  | value
  | alias (name : Text)
  | anchor (name : Text)
  | tag (spelling : TagSpelling)
  | scalar (text : Text) (isPlain : Bool)
  deriving Repr, DecidableEq

/-! ## Names, tags and directives -/

namespace Cursor

/-- The name of an anchor or an alias, after its indicator. -/
def readAnchor? (c : Cursor) : Option (Text × Cursor) :=
  let (name, c) := c.takeWhile isNameCharacter
  let next := c.peek
  if name ≠ [] ∧ (endsWord next ∨ "?:,]\x7d%@".toList.contains next ∨ next.toNat = 0x60) then
    some (name, c)
  else none

def isUriCharacter (c : Char) : Bool :=
  c.isAlphanum || "-;/?:@&=+$,_.!~*'()[]%".toList.contains c

/-- The bytes of escapes in a row. -/
def readBytes? : Nat → Cursor → Option (List UInt8 × Cursor)
  | 0, _ => none
  | fuel + 1, c =>
    if c.peek = '%' then
      let digits := [c.peekAt 1, c.peekAt 2]
      if digits.all (isDigitOf 16) then
        (readBytes? fuel (c.forwardBy 3)).map fun (bytes, c) =>
          (UInt8.ofNat (Text.numeralValue 16 digits) :: bytes, c)
      else none
    else some ([], c)

/-- The rest of a tag; escaped bytes in a row have to encode characters. -/
def readUri? : Nat → Cursor → Option (Text × Cursor)
  | 0, _ => none
  | fuel + 1, c =>
    let next := c.peek
    if next = '%' then do
      let (bytes, c) ← readBytes? (c.rest.length + 1) c
      let decoded ← String.fromUTF8? ⟨bytes.toArray⟩
      (readUri? fuel c).map fun (text, c) => (decoded.toList ++ text, c)
    else if isUriCharacter next then
      (readUri? fuel c.forward).map fun (text, c) => (next :: text, c)
    else some ([], c)

def readSuffix? (c : Cursor) : Option (Text × Cursor) :=
  (readUri? (c.rest.length + 1) c).filter (·.1 ≠ [])

/-- A handle: an exclamation mark alone, or a name between two of them. -/
def readHandle? (c : Cursor) : Option (Text × Cursor) :=
  if c.peek ≠ '!' then none
  else
    let c := c.forward
    if c.peek = ' ' then some (['!'], c)
    else
      let (name, c) := c.takeWhile isNameCharacter
      if c.peek = '!' then some ('!' :: name ++ ['!'], c.forward)
      else if name = [] then some (['!'], c)
      else none

/-- A tag, with the cursor at its exclamation mark. -/
def readTag? (c : Cursor) : Option (TagSpelling × Cursor) := do
  let (tag, c) ←
    if c.peekAt 1 = '<' then do
      let (suffix, c) ← (c.forwardBy 2).readSuffix?
      if c.peek = '>' then some (TagSpelling.mk none suffix, c.forward) else none
    else if endsWord (c.peekAt 1) then some (TagSpelling.mk none ['!'], c.forward)
    else if (c.forward.rest.takeWhile (!endsName ·)).contains '!' then do
      let (handle, c) ← c.readHandle?
      let (suffix, c) ← c.readSuffix?
      some (TagSpelling.mk (some handle) suffix, c)
    else do
      let (suffix, c) ← c.forward.readSuffix?
      some (TagSpelling.mk (some ['!']) suffix, c)
  if endsName c.peek then some (tag, c) else none

def readNatural? (c : Cursor) : Option (Nat × Cursor) :=
  match c.takeWhile Char.isDigit with
  | ([], _) => none
  | (digits, c) => some (Text.numeralValue 10 digits, c)

def skipBlanks (c : Cursor) : Cursor := c.skipWhile (· = ' ')

/-- A directive, after its percent sign. -/
def readDirective? (c : Cursor) : Option (Token × Cursor) := do
  let (name, c) := c.takeWhile isNameCharacter
  if name = [] || !endsName c.peek then none
  let (token, c) ←
    if name = "YAML".toList then do
      let (major, c) ← c.skipBlanks.readNatural?
      if c.peek ≠ '.' then none
      let (minor, c) ← c.forward.readNatural?
      if endsName c.peek then some (Token.versionDirective major minor, c) else none
    else if name = "TAG".toList then do
      let (handle, c) ← c.skipBlanks.readHandle?
      if c.peek ≠ ' ' then none
      let (start, c) ← c.skipBlanks.readSuffix?
      if endsName c.peek then some (Token.tagDirective handle start, c) else none
    else some (Token.otherDirective, c.skipWhile (!endsLine ·))
  return (token, ← c.endHeader?)

end Cursor

/-! ## Scanning -/

/-- A place that may turn out to be a key. -/
structure KeyCandidate where
  /-- The number of tokens before it. -/
  position : Nat
  isRequired : Bool
  index : Nat
  line : Nat
  column : Nat

structure Scan where
  cursor : Cursor
  tokens : List Token := []
  /-- The column of the innermost block, or -1 outside all blocks. -/
  indent : Int := -1
  outerIndents : List Int := []
  flowLevel : Nat := 0
  keyAllowed : Bool := true
  candidates : OrderedMap Nat KeyCandidate := ∅

namespace Scan

def inFlow (s : Scan) : Bool := s.flowLevel ≠ 0

def column (s : Scan) : Int := s.cursor.column

def push (s : Scan) (token : Token) : Scan := { s with tokens := s.tokens ++ [token] }

/-- One more token, for which `count` characters are passed. -/
def pushAt (s : Scan) (token : Token) (count : Nat) : Scan :=
  { s.push token with cursor := s.cursor.forwardBy count }

def insertAt (s : Scan) (position : Nat) (token : Token) : Scan :=
  { s with tokens := s.tokens.insertIdx position token }

/-- How many characters a key may take. -/
def longestKey : Nat := 1024

def isStale (s : Scan) (candidate : KeyCandidate) : Bool :=
  candidate.line ≠ s.cursor.line || longestKey < s.cursor.index - candidate.index

/-- Candidates that can no longer become keys; one that had to become a key is an error. -/
def dropStale? (s : Scan) : Option Scan :=
  if s.candidates.values.any fun candidate => s.isStale candidate && candidate.isRequired then none
  else
    some { s with
      candidates := s.candidates.filterMap fun _ c => if s.isStale c then none else c }

def dropCandidate? (s : Scan) : Option Scan :=
  match s.candidates.get? s.flowLevel with
  | none => some s
  | some candidate =>
    if candidate.isRequired then none
    else some { s with candidates := s.candidates.erase s.flowLevel }

def saveCandidate? (s : Scan) : Option Scan :=
  if s.keyAllowed then do
    let s ← s.dropCandidate?
    let candidate : KeyCandidate :=
      { position := s.tokens.length
        isRequired := !s.inFlow && s.indent = s.column
        index := s.cursor.index
        line := s.cursor.line
        column := s.cursor.column }
    return { s with candidates := s.candidates.insert s.flowLevel candidate }
  else some s

/-- Closes the blocks that are indented more deeply than `column`. -/
def closeBlocks (column : Int) : List Int → Scan → Scan
  | [], s => s
  | outer :: rest, s =>
    if column < s.indent then
      closeBlocks column rest { s.push .blockEnd with indent := outer, outerIndents := rest }
    else s

def unwind (s : Scan) (column : Int) : Scan :=
  if s.inFlow then s else closeBlocks column s.outerIndents s

/-- Whether a new block starts at a column, and the state inside it. -/
def openBlock (s : Scan) (column : Int) : Bool × Scan :=
  if s.indent < column then
    (true, { s with indent := column, outerIndents := s.indent :: s.outerIndents })
  else (false, s)

def openBlockWith (s : Scan) (token : Token) : Scan :=
  match s.openBlock s.column with
  | (true, s) => s.push token
  | (false, s) => s

/-! ## One token -/

def indicator? (s : Scan) (token : Token) (count : Nat) : Option Scan := do
  let s ← (s.unwind (-1)).dropCandidate?
  return { s.pushAt token count with keyAllowed := false }

def directive? (s : Scan) : Option Scan := do
  let s ← (s.unwind (-1)).dropCandidate?
  let (token, cursor) ← s.cursor.forward.readDirective?
  return { s.push token with cursor, keyAllowed := false }

def flowStart? (s : Scan) (token : Token) : Option Scan := do
  let s ← s.saveCandidate?
  return { s.pushAt token 1 with flowLevel := s.flowLevel + 1, keyAllowed := true }

def flowEnd? (s : Scan) (token : Token) : Option Scan := do
  let s ← s.dropCandidate?
  return { s.pushAt token 1 with flowLevel := s.flowLevel - 1, keyAllowed := false }

def flowEntry? (s : Scan) : Option Scan := do
  let s ← s.dropCandidate?
  return { s.pushAt .flowEntry 1 with keyAllowed := true }

/-- An entry of a block sequence or a marked key: it may start a block where a key may stand. -/
def blockPart? (s : Scan) (start token : Token) (keyAllowed : Bool) : Option Scan := do
  if !s.inFlow && !s.keyAllowed then none
  let s := if s.inFlow then s else s.openBlockWith start
  let s ← s.dropCandidate?
  return { s.pushAt token 1 with keyAllowed }

/-- A colon, which makes a key of the candidate before it. -/
def value? (s : Scan) : Option Scan :=
  match s.candidates.get? s.flowLevel with
  | some candidate =>
    let s := { s with candidates := s.candidates.erase s.flowLevel }
    let s := s.insertAt candidate.position .key
    let s :=
      if s.inFlow then s
      else
        match s.openBlock candidate.column with
        | (true, s) => s.insertAt candidate.position .blockMappingStart
        | (false, s) => s
    some { s.pushAt .value 1 with keyAllowed := false }
  | none => s.blockPart? .blockMappingStart .value (!s.inFlow)

def named? (s : Scan) (token : Text → Token) : Option Scan := do
  let s ← s.saveCandidate?
  let (name, cursor) ← s.cursor.forward.readAnchor?
  return { s.push (token name) with cursor, keyAllowed := false }

def tag? (s : Scan) : Option Scan := do
  let s ← s.saveCandidate?
  let (tag, cursor) ← s.cursor.readTag?
  return { s.push (.tag tag) with cursor, keyAllowed := false }

def block? (s : Scan) (folded : Bool) : Option Scan := do
  let s ← s.dropCandidate?
  let (text, cursor) ← s.cursor.forward.readBlock? folded s.indent
  return { s.push (.scalar text false) with cursor, keyAllowed := true }

def quoted (s : Scan) (quote : Char) : Except Fault Scan := do
  let s ← orMalformed s.saveCandidate?
  let (text, cursor) ← s.cursor.forward.readQuoted quote (s.cursor.rest.length + 1)
  return { s.push (.scalar text false) with cursor, keyAllowed := false }

/-- Whether a plain scalar can start here. -/
def startsPlain (s : Scan) : Bool :=
  let c := s.cursor.peek
  !(endsWord c || "-?:,[]\x7b\x7d#&*!|>'\"%@".toList.contains c || c.toNat = 0x60) ||
    (!endsWord (s.cursor.peekAt 1) && (c = '-' || (!s.inFlow && (c = '?' || c = ':'))))

def plain? (s : Scan) : Option Scan := do
  if !s.startsPlain then none
  let s ← s.saveCandidate?
  let (text, keyAllowed, cursor) :=
    s.cursor.readPlain s.inFlow (s.indent + 1) (s.cursor.rest.length + 1) false
  return { s.push (.scalar text true) with cursor, keyAllowed }

/-- The state before the next token: blanks are skipped and finished blocks are closed. -/
def prepare? (s : Scan) : Option Scan := do
  let (passedBreak, cursor) :=
    s.cursor.skipByteOrderMark.skipToToken (s.cursor.rest.length + 1)
  let s := { s with cursor, keyAllowed := s.keyAllowed || (passedBreak && !s.inFlow) }
  let s ← s.dropStale?
  return s.unwind s.column

/-- One token that is no quoted scalar. -/
def unquoted? (s : Scan) : Option Scan :=
  let c := s.cursor.peek
  let beforeBlank := endsWord (s.cursor.peekAt 1)
  let atStart := s.cursor.column = 0
  if c = '%' ∧ atStart then s.directive?
  else if c = '-' ∧ atStart ∧ s.cursor.isAtSeparator then s.indicator? .documentStart 3
  else if c = '.' ∧ atStart ∧ s.cursor.isAtSeparator then s.indicator? .documentEnd 3
  else if c = '[' then s.flowStart? .flowSequenceStart
  else if c = '\x7b' then s.flowStart? .flowMappingStart
  else if c = ']' then s.flowEnd? .flowSequenceEnd
  else if c = '\x7d' then s.flowEnd? .flowMappingEnd
  else if c = ',' then s.flowEntry?
  else if c = '-' ∧ beforeBlank then s.blockPart? .blockSequenceStart .blockEntry true
  else if c = '?' ∧ (s.inFlow ∨ beforeBlank) then
    s.blockPart? .blockMappingStart .key (!s.inFlow)
  else if c = ':' ∧ (s.inFlow ∨ beforeBlank) then s.value?
  else if c = '*' then s.named? .alias
  else if c = '&' then s.named? .anchor
  else if c = '!' then s.tag?
  else if c = '|' ∧ !s.inFlow then s.block? false
  else if c = '>' ∧ !s.inFlow then s.block? true
  else s.plain?

/-- One token, where the document goes on. -/
def next (s : Scan) : Except Fault Scan :=
  let c := s.cursor.peek
  if c = '\'' ∨ c = '"' then s.quoted c else orMalformed s.unquoted?

def all : Nat → Scan → List Token × Option Fault
  | 0, s => (s.tokens, some .malformed)
  | fuel + 1, s =>
    match s.prepare? with
    | none => (s.tokens, some .malformed)
    | some s =>
      if s.cursor.peek = endMark then
        match (s.unwind (-1)).dropCandidate? with
        | none => (s.tokens, some .malformed)
        | some s => (s.tokens, none)
      else
        match s.next with
        | .ok s => all fuel s
        | .error fault => (s.tokens, some fault)

end Scan

def Token.scan (document : Text) : List Token × Option Fault :=
  if document.all isPrintable then
    Scan.all (document.length + 1) { cursor := { rest := document } }
  else ([], some .malformed)

end SceneScript.Yaml
