import SceneScript.Output.Constant.Fault
import SceneScript.Text.Case
import SceneScript.Text.Numeral
import SceneScript.Text.Quoted

/-! # Tokens of constants

* `Constant.Token` — words, numbers, strings and symbols;
* `Constant.numeral` — a number at the start of a text;
* `Constant.afterString` — what follows a string;
* `Constant.tokens` — the tokens of a text, up to its end or to the first fault.

Brackets are matched while tokens are read, so a bracket that closes nothing is a fault of its own,
wherever it stands.
-/

namespace SceneScript.Constant

inductive Token where
  | word (text : Text)
  | number (imaginary : Bool)
  | string (bytes : Bool)
  | symbol (text : Text)
  deriving Repr, DecidableEq

/-! ## Words -/

/-- Blocks beyond ASCII that hold no letters and no digits. -/
def symbolRanges : List (Nat × Nat) :=
  [(0x00A1, 0x00A9), (0x00AB, 0x00AC), (0x00AE, 0x00B1), (0x00B4, 0x00B4), (0x00B6, 0x00B8),
   (0x00BB, 0x00BB), (0x00BF, 0x00BF), (0x00D7, 0x00D7), (0x00F7, 0x00F7), (0x2010, 0x2027),
   (0x2030, 0x205E), (0x20A0, 0x20C0), (0x2190, 0x23FF), (0x2500, 0x2775), (0x2794, 0x2BFF),
   (0x3001, 0x3003), (0x3008, 0x3020), (0x3030, 0x3030), (0xFE10, 0xFE19), (0xFE30, 0xFE6B),
   (0xFF01, 0xFF0F), (0xFF1A, 0xFF20), (0x1F000, 0x1F0FF), (0x1F10D, 0x1FAFF)]

def isAsciiWordChar (c : Char) : Bool := c.isAlphanum || c = '_'

def isWordChar (c : Char) : Bool :=
  if Text.isAscii c then isAsciiWordChar c
  else Text.isPrintable c && !inRanges symbolRanges c

/-- Characters beyond ASCII are taken into a word before they are looked at. -/
def mayBeInWord (c : Char) : Bool := !Text.isAscii c || isAsciiWordChar c

def wordFault? (word : Text) : Option Fault :=
  (List.find? (!isWordChar ·) word).map fun c =>
    if Text.isPrintable c then .symbol c else .invisible c

/-! ## Numbers -/

/-- What follows digits with single underscores between them. `marked` tells whether an underscore,
which needs a digit behind it, has just been passed. -/
def afterDigits? (isDigit : Char → Bool) (marked : Bool) : Text → Option Text
  | [] => if marked then none else some []
  | c :: rest =>
    if isDigit c then afterDigits? isDigit false rest
    else if marked then none
    else if c = '_' then afterDigits? isDigit true rest
    else some (c :: rest)

def afterDecimal (t : Text) : Except Fault Text :=
  match afterDigits? Char.isDigit false t with
  | some rest => .ok rest
  | none => .error (.badNumeral "decimal")

/-- The words that may follow a number without a blank. -/
def wordsAfterNumbers : List Text := ["and", "else", "for", "or", "not"]

/-- The starts of words that may follow a number without a blank. -/
def startsAfterNumbers : List Text := ["if", "in", "is"]

/-- A number ends before a word only if an operator is next. -/
def endNumeral (kind : Text) (imaginary : Bool) (t : Text) : Except Fault (Token × Text) :=
  let word := t.takeWhile mayBeInWord
  if (t.head?.map isAsciiWordChar).getD false && !wordsAfterNumbers.contains word &&
      !startsAfterNumbers.any fun start => Text.startsWith start word then
    .error (.badNumeral kind)
  else .ok (.number imaginary, t)

/-- The exponent of a number, if it has one. -/
def afterExponent (t : Text) : Except Fault Text :=
  match t with
  | e :: sign :: rest =>
    if e.toLower ≠ 'e' then .ok t
    else if sign = '+' ∨ sign = '-' then
      if (rest.head?.map Char.isDigit).getD false then afterDecimal rest
      else .error (.badNumeral "decimal")
    else if sign.isDigit then afterDecimal (sign :: rest)
    else .ok t
  | _ => .ok t

def decimal (t : Text) : Except Fault (Token × Text) := do
  let rest ← afterDecimal t
  let whole := t.take (t.length - rest.length)
  let (isWhole, rest) ←
    match rest with
    | '.' :: rest => do pure (false, ← afterExponent (← afterFraction rest))
    | rest => do
      let after ← afterExponent rest
      pure (after.length = rest.length, after)
  match rest with
  | 'j' :: rest | 'J' :: rest => endNumeral "imaginary" true rest
  | rest =>
    let mayGoOn := (rest.head?.map Char.toLower) = some 'e'
    if isWhole && !mayGoOn && whole.head? = some '0' &&
        whole.any fun c => c ≠ '0' && c ≠ '_' then
      .error .leadingZero
    else endNumeral "decimal" false rest
where
  afterFraction (t : Text) : Except Fault Text :=
    if (t.head?.map Char.isDigit).getD false then afterDecimal t else .ok t

/-- The digits behind the letter of a base. -/
def inBase (base : Nat) (kind : Text) (t : Text) : Except Fault (Token × Text) :=
  let digits := if t.head? = some '_' then t.drop 1 else t
  match afterDigits? (isDigitOf base) true digits with
  | some rest =>
    match rest.head?.filter Char.isDigit with
    | some digit => .error (.badDigit digit kind)
    | none => endNumeral kind false rest
  | none =>
    let stop := dropDigits digits
    match stop.head?.filter Char.isDigit with
    | some digit => .error (.badDigit digit kind)
    | none => .error (.badNumeral kind)
where
  /-- What follows the last underscore that a digit follows. -/
  dropDigits (t : Text) : Text :=
    match t.dropWhile (isDigitOf base) with
    | '_' :: rest => if (rest.head?.map (isDigitOf base)).getD false then [] else rest
    | rest => rest

def numeral (t : Text) : Except Fault (Token × Text) :=
  match t with
  | '0' :: letter :: rest =>
    match letter.toLower with
    | 'x' => inBase 16 "hexadecimal" rest
    | 'o' => inBase 8 "octal" rest
    | 'b' => inBase 2 "binary" rest
    | _ => decimal t
  | _ => decimal t

/-! ## Strings -/

/-- The letters that may stand in front of a string. -/
def stringPrefixes : List Text := ["b", "r", "u", "f", "br", "rb", "fr", "rf"]

/-- What follows a string on one line, where the opening quote is passed. -/
def afterShortString (quote : Char) (line : Nat) : Text → Except Fault (Nat × Text)
  | [] => .error (.openString line)
  | c :: rest =>
    if c = quote then .ok (line, rest)
    else if c = '\n' then .error (.openString line)
    else if c = '\\' then
      match rest with
      | d :: rest => afterShortString quote (if d = '\n' then line + 1 else line) rest
      | [] => .error (.openString line)
    else afterShortString quote line rest

/-- What follows a string that three quotes end. -/
def afterLongString (quote : Char) (line : Nat) : Text → Except Fault (Nat × Text)
  | [] => .error (.openLongString line)
  | '\\' :: d :: rest => afterLongString quote (if d = '\n' then line + 1 else line) rest
  | c :: rest =>
    if c = quote ∧ rest.take 2 = [quote, quote] then .ok (line, rest.drop 2)
    else afterLongString quote (if c = '\n' then line + 1 else line) rest

/-- What follows a string, and the line where it ends. -/
def afterString (line : Nat) : Text → Except Fault (Nat × Text)
  | [] => .error (.openString line)
  | quote :: rest =>
    if rest.take 2 = [quote, quote] then afterLongString quote line (rest.drop 2)
    else afterShortString quote line rest

/-- A string with the letters in front of it; bytes are ASCII. -/
def stringAt (letters : Text) (line : Nat) (t : Text) : Except Fault (Token × Nat × Text) := do
  let (line, rest) ← afterString line t
  let isBytes := (Text.lower letters).contains 'b'
  if isBytes && !(t.take (t.length - rest.length)).all Text.isAscii then .error .wideBytes
  return (.string isBytes, line, rest)

def isQuote (c : Char) : Bool := c = '\'' || c = '"'

/-! ## Symbols and brackets -/

def longSymbols : List Text :=
  ["**=", "//=", ">>=", "<<=", "...", "!=", "%=", "&=", "**", "*=", "+=", "-=", "->", "//", "/=",
   ":=", "<<", "<=", "<>", "==", ">=", ">>", "@=", "^=", "|="]

def symbolAt (t : Text) : Text :=
  (longSymbols.find? fun symbol => Text.startsWith symbol t).getD (t.take 1)

def brackets : List (Char × Char) := [('(', ')'), ('{', '}'), ('[', ']')]

def deepest : Nat := 200

/-- The open brackets after a character. -/
def nest (c : Char) (opened : List Char) : Except Fault (List Char) :=
  if (brackets.lookup c).isSome then
    if deepest ≤ opened.length then .error .tooNested else .ok (c :: opened)
  else if brackets.any (·.2 = c) then
    match opened with
    | [] => .error (.unmatched c)
    | opening :: opened =>
      if brackets.lookup opening = some c then .ok opened
      else .error (.mismatched c opening)
  else .ok opened

/-! ## All tokens -/

/-- A token at the start of a text that is neither blank nor a comment, and what follows it. -/
def tokenAt (line : Nat) (t : Text) : Except Fault (Token × Nat × Text) :=
  match t with
  | [] => .error .strayBackslash
  | c :: rest =>
    if c.isDigit || (c = '.' && (rest.head?.map Char.isDigit).getD false) then
      (numeral t).map fun (token, rest) => (token, line, rest)
    else if mayBeInWord c then
      let word := t.takeWhile mayBeInWord
      let rest := t.dropWhile mayBeInWord
      if (rest.head?.map isQuote).getD false && stringPrefixes.contains (Text.lower word) then
        stringAt word line rest
      else
        match wordFault? word with
        | some fault => .error fault
        | none => .ok (.word word, line, rest)
    else if isQuote c then stringAt [] line t
    else if c = '\\' then .error .strayBackslash
    else if !Text.isPrintable c then .error (.invisible c)
    else
      let symbol := symbolAt t
      .ok (.symbol symbol, line, t.drop symbol.length)

/-- The tokens from some place on, where the brackets in `opened` wait to be closed, and what is met
behind the last one. A line end is a token outside of brackets. -/
def tokensFrom : Nat → List Char → Nat → Text → List Token × Option Fault
  | 0, _, _, _ => ([], none)
  | fuel + 1, opened, line, t =>
    match t with
    | [] => ([], opened.head?.map .unclosed)
    | '\\' :: '\n' :: rest => tokensFrom fuel opened (line + 1) rest
    | c :: rest =>
      if c = ' ' ∨ c = '\t' ∨ c = '\x0c' then tokensFrom fuel opened line rest
      else if c = '#' then tokensFrom fuel opened line (rest.dropWhile (· ≠ '\n'))
      else if c = '\n' then
        let (tokens, fault) := tokensFrom fuel opened (line + 1) rest
        (if opened = [] then .symbol ['\n'] :: tokens else tokens, fault)
      else
        match nest c opened, tokenAt line t with
        | .error fault, _ | _, .error fault => ([], some fault)
        | .ok opened, .ok (token, line, rest) =>
          let (tokens, fault) := tokensFrom fuel opened line rest
          (token :: tokens, fault)

def tokens (t : Text) : List Token × Option Fault := tokensFrom (t.length + 1) [] 1 t

end SceneScript.Constant
