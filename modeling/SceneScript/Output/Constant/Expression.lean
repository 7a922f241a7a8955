import SceneScript.Output.Constant.Token

/-! # Constant expressions

Numbers, strings and a few words are constants, and so are tuples, sets and dictionaries of them.

* `Constant.Expression` — what is written, as far as it matters whether it is a constant;
* `Constant.expression?` — the expression at the start of tokens, in the order of precedence;
* `Constant.Expression.check` — whether an expression is a constant;
* `Constant.fault?` — what is wrong with a text that should be a constant.

A text that is no expression is read a second time for the mistakes that have a name.
-/

namespace SceneScript.Constant

inductive Expression where
  | number (imaginary : Bool)
  | string
  /-- A word that is a constant. -/
  | constant (word : Text)
  | name (word : Text)
  /-- A number with a sign in front. -/
  | signed (operand : Expression)
  /-- A sum or a difference. -/
  | sum (left right : Expression)
  | tuple (items : List Expression)
  | set (items : List Expression)
  /-- Keys and values in turn. -/
  | dictionary (parts : List Expression)
  | call (function : Expression) (bare : Bool)
  | attribute
  | starred
  /-- Operators that bind as closely as sums do, or closer. -/
  | operation
  /-- Comparisons, choices and what binds even less. -/
  | comparison
  deriving Repr

namespace Expression

/-- What a message calls an expression. -/
def kind : Expression → Text
  | .number _ | .string => "literal"
  | .constant word => if word = "..." then "ellipsis" else word
  | .name _ => "name"
  | .tuple _ => "tuple"
  | .set _ => "set display"
  | .dictionary _ => "dict literal"
  | .call _ _ => "function call"
  | .attribute => "attribute"
  | .starred => "starred"
  | .signed _ | .sum _ _ | .operation => "expression"
  | .comparison => "comparison"

/-- The mistake in a single equality sign behind an expression. -/
def checkUnbound : Expression → Except Fault Unit
  | .name _ => .error .singleEquals
  | .constant word => if word = "..." then .error (.unbindable "ellipsis") else .ok ()
  | .tuple _ | .comparison => .ok ()
  | e => .error (.unbindable e.kind)

def isReal : Expression → Bool
  | .number imaginary => !imaginary
  | .signed operand => match operand with
    | .number imaginary => !imaginary
    | _ => false
  | _ => false

end Expression

/-! ## Reading -/

/-- How tokens are read. -/
structure Reader where
  /-- What is met behind the last token. -/
  atEnd : Option Fault
  /-- Whether mistakes that have a name are looked for. -/
  explains : Bool

/-- What stands at the start of tokens, and the tokens that follow. -/
abbrev Found (α : Type) := Option (α × List Token)

abbrev Step (α : Type) := List Token → Except Fault (Found α)

def Reader.next? (reader : Reader) : List Token → Except Fault (Found Token)
  | token :: rest => .ok (some (token, rest))
  | [] => match reader.atEnd with
    | some fault => .error fault
    | none => .ok none

/-- The tokens behind one that must come next. -/
def Reader.after? (reader : Reader) (token : Token) (ts : List Token) :
    Except Fault (Option (List Token)) := do
  match ← reader.next? ts with
  | some (found, rest) => return if found = token then some rest else none
  | none => return none

def symbol (t : Text) : Token := .symbol t

def word (t : Text) : Token := .word t

/-- The words that are no names. -/
def keywords : List Text :=
  ["and", "as", "assert", "async", "await", "break", "class", "continue", "def", "del", "elif",
   "else", "except", "finally", "for", "from", "global", "if", "import", "in", "is", "lambda",
   "nonlocal", "not", "or", "pass", "raise", "return", "try", "while", "with", "yield"]

def constantWords : List Text := ["None", "True", "False"]

def isName (word : Text) : Bool := !keywords.contains word && !constantWords.contains word

/-- Words that are names here and keywords elsewhere. -/
def doubtfulWords : List Text := ["_", "case", "match"]

/-- Words that may be more than the expression that they look like. -/
def isDoubtful : List Token → Bool
  | .word _ :: .string _ :: _ => true
  | .word w :: _ => doubtfulWords.contains w
  | _ => false

/-- A word that was a statement once and is called as one, at the start of tokens. -/
def oldStatement? : List Token → Option Text
  | .word w :: _ => if w = "print" ∨ w = "exec" then some w else none
  | _ => none

/-- Operators that take two operands, by how closely they bind. -/
inductive Precedence where
  | conjunction
  | comparison
  | sum
  deriving Repr, DecidableEq

def comparisonSymbols : List Text := ["==", "!=", "<", "<=", ">", ">="]

def sumSymbols : List Text := ["|", "^", "&", "<<", ">>", "+", "-", "*", "/", "//", "%", "@"]

/-- An operator and the tokens that follow. -/
def Reader.operator? (reader : Reader) (precedence : Precedence) (ts : List Token) :
    Except Fault (Found Token) := do
  match ← reader.next? ts with
  | none => return none
  | some (token, rest) =>
    match precedence, token with
    | .conjunction, .word w =>
      return if w = "and" ∨ w = "or" then some (token, rest) else none
    | .comparison, .symbol s =>
      return if comparisonSymbols.contains s then some (token, rest) else none
    | .comparison, .word w =>
      if w = "in" then return some (token, rest)
      else if w = "not" then
        return (← reader.after? (word "in") rest).map fun rest => (token, rest)
      else if w = "is" then
        match ← reader.after? (word "not") rest with
        | some rest => return some (token, rest)
        | none => return some (token, rest)
      else return none
    | .sum, .symbol s => return if sumSymbols.contains s then some (token, rest) else none
    | _, _ => return none

def combine (precedence : Precedence) (operator : Token) (left right : Expression) :
    Expression :=
  match precedence with
  | .sum =>
    if operator = symbol "+" ∨ operator = symbol "-" then .sum left right else .operation
  | _ => .comparison

/-- Strings one after the other are one string. -/
def Reader.afterStrings (reader : Reader) (isBytes : Bool) :
    List Token → Except Fault (List Token)
  | .string bytes :: rest =>
    if bytes = isBytes then reader.afterStrings isBytes rest else .error .mixedStrings
  | [] => match reader.atEnd with
    | some fault => .error fault
    | none => .ok []
  | ts => .ok ts

mutual

/-- An expression, where `inside` tells whether brackets are open. -/
def expression? (reader : Reader) (inside : Bool) : Nat → Step Expression
  | 0, _ => .ok none
  | fuel + 1, ts => do
    let some (left, rest) ← chain? reader .conjunction fuel ts | return none
    if reader.explains then
      explain reader inside ts fuel rest
    match ← reader.after? (word "if") rest with
    | none => return some (left, rest)
    | some choice =>
      let some (_, choice) ← chain? reader .conjunction fuel choice | return some (left, rest)
      match ← reader.after? (word "else") choice with
      | none =>
        if reader.explains then
          if (← reader.after? (symbol ":") choice).isNone then .error .missingElse
          else return some (left, rest)
        else return some (left, rest)
      | some choice =>
        let some (_, choice) ← expression? reader inside fuel choice | return some (left, rest)
        return some (.comparison, choice)
/-- Inside of brackets an expression right behind another one, which starts at `ts`, lacks a comma,
and an old statement lacks brackets. -/
def explain (reader : Reader) (inside : Bool) (ts : List Token) :
    Nat → List Token → Except Fault Unit
  | 0, _ => .ok ()
  | fuel + 1, rest => do
    if !isDoubtful ts then
      if (← expression? { reader with explains := false } inside fuel rest).isSome ∧ inside ∧
          (oldStatement? ts).isNone then
        .error .missingComma
    if let .word w :: operand := ts then
      if isName w ∧ operand.head? ≠ some (symbol "(") then
        if (← expression? reader inside fuel operand).isSome then
          if let some name := oldStatement? ts then .error (.missingBrackets name)

/-- Operands with operators of one precedence between them. -/
def chain? (reader : Reader) (precedence : Precedence) : Nat → Step Expression
  | 0, _ => .ok none
  | fuel + 1, ts => do
    let some (left, rest) ← operand? reader precedence fuel ts | return none
    chainFrom? reader precedence left fuel rest

def chainFrom? (reader : Reader) (precedence : Precedence) (left : Expression) :
    Nat → Step Expression
  | 0, _ => .ok none
  | fuel + 1, ts => do
    let some (operator, rest) ← reader.operator? precedence ts | return some (left, ts)
    let some (right, rest) ← operand? reader precedence fuel rest | return some (left, ts)
    chainFrom? reader precedence (combine precedence operator left right) fuel rest

def operand? (reader : Reader) (precedence : Precedence) : Nat → Step Expression
  | 0, _ => .ok none
  | fuel + 1, ts => do
    match precedence with
    | .conjunction =>
      match ← reader.after? (word "not") ts with
      | some rest =>
        return (← operand? reader .conjunction fuel rest).map fun (_, rest) => (.comparison, rest)
      | none => chain? reader .comparison fuel ts
    | .comparison => chain? reader .sum fuel ts
    | .sum => signed? reader fuel ts

/-- An operand with the signs in front of it. -/
def signed? (reader : Reader) : Nat → Step Expression
  | 0, _ => .ok none
  | fuel + 1, ts => do
    match ← reader.next? ts with
    | none => return none
    | some (.symbol s, rest) =>
      if s = "+" ∨ s = "-" then
        return (← signed? reader fuel rest).map fun (operand, rest) => (.signed operand, rest)
      else if s = "~" then
        return (← signed? reader fuel rest).map fun (_, rest) => (.operation, rest)
      else power? reader fuel ts
    | some _ => power? reader fuel ts

def power? (reader : Reader) : Nat → Step Expression
  | 0, _ => .ok none
  | fuel + 1, ts => do
    let some (base, rest) ← atom? reader fuel ts | return none
    let some (base, rest) ← suffixes? reader base fuel rest | return none
    match ← reader.after? (symbol "**") rest with
    | none => return some (base, rest)
    | some exponent =>
      let some (_, exponent) ← signed? reader fuel exponent | return some (base, rest)
      return some (.operation, exponent)

/-- What follows an operand: attributes and calls. -/
def suffixes? (reader : Reader) (base : Expression) : Nat → Step Expression
  | 0, _ => .ok none
  | fuel + 1, ts => do
    match ← reader.next? ts with
    | some (.symbol s, rest) =>
      if s = "." then
        match ← reader.next? rest with
        | some (.word w, after) =>
          if keywords.contains w then return some (base, ts)
          else suffixes? reader .attribute fuel after
        | _ => return some (base, ts)
      else if s = "(" then
        let some (count, after) ← arguments? reader 0 fuel rest | return some (base, ts)
        suffixes? reader (.call base (count = 0)) fuel after
      else return some (base, ts)
    | _ => return some (base, ts)

/-- An argument of a call, which may be named or spread out. -/
def argument? (reader : Reader) : Nat → Step Expression
  | 0, _ => .ok none
  | fuel + 1, ts => do
    match ts with
    | .symbol s :: rest =>
      if s = "*" then starred? reader fuel rest
      else if s = "**" then expression? reader true fuel rest
      else unbound? reader fuel ts
    | .word w :: .symbol s :: rest =>
      if s = "=" ∧ isName w then expression? reader true fuel rest
      else if s = ":=" then element? reader fuel ts
      else unbound? reader fuel ts
    | _ => unbound? reader fuel ts

/-- What follows a star, behind which something must stand. -/
def starred? (reader : Reader) : Nat → Step Expression
  | 0, _ => .ok none
  | fuel + 1, ts => do
    match ← expression? reader true fuel ts with
    | some (_, rest) => return some (.starred, rest)
    | none => if reader.explains then .error .bareStar else return none

/-- An argument that a single equality sign should not follow. -/
def unbound? (reader : Reader) : Nat → Step Expression
  | 0, _ => .ok none
  | fuel + 1, ts => do
    let some (e, rest) ← expression? reader true fuel ts | return none
    if reader.explains ∧ (← reader.after? (symbol "=") rest).isSome then
      match e with
      | .constant w => .error (if isName w then .boundArgument else .boundConstant w)
      | _ => .error .boundArgument
    return some (e, rest)

/-- The arguments of a call up to the closing bracket, and their number. -/
def arguments? (reader : Reader) (count : Nat) : Nat → Step Nat
  | 0, _ => .ok none
  | fuel + 1, ts => do
    match ← reader.after? (symbol ")") ts with
    | some rest => return some (count, rest)
    | none =>
      let some (_, rest) ← argument? reader fuel ts | return none
      match ← reader.next? rest with
      | none => return none
      | some (token, after) =>
        if token = symbol "," then arguments? reader (count + 1) fuel after
        else if token = symbol ")" then return some (count + 1, after)
        else return none

def atom? (reader : Reader) : Nat → Step Expression
  | 0, _ => .ok none
  | fuel + 1, ts => do
    match ← reader.next? ts with
    | none => return none
    | some (.number imaginary, rest) => return some (.number imaginary, rest)
    | some (.string isBytes, rest) =>
      return some (.string, ← reader.afterStrings isBytes rest)
    | some (.word w, rest) =>
      if keywords.contains w then return none
      else if constantWords.contains w then return some (.constant w, rest)
      else return some (.name w, rest)
    | some (.symbol s, rest) =>
      if s = "..." then return some (.constant s, rest)
      else if s = "(" then group? reader fuel rest
      else if s = "\x7b" then braces? reader fuel rest
      else return none

/-- An element of a collection, with or without a name for its value. -/
def element? (reader : Reader) : Nat → Step Expression
  | 0, _ => .ok none
  | fuel + 1, ts => do
    match ts with
    | .word w :: .symbol s :: rest =>
      if s = ":=" ∧ isName w then
        return (← expression? reader true fuel rest).map fun (_, rest) => (.comparison, rest)
      else unnamed? reader fuel ts
    | _ => unnamed? reader fuel ts

/-- An expression that a single equality sign should not follow. -/
def unnamed? (reader : Reader) : Nat → Step Expression
  | 0, _ => .ok none
  | fuel + 1, ts => do
    let some (e, rest) ← expression? reader true fuel ts | return none
    if reader.explains then
      if let some value ← reader.after? (symbol "=") rest then
        if let some (_, after) ← chain? reader .sum fuel value then
          let bound ← reader.next? after
          if !bound.any fun (token, _) => token = symbol "=" || token = symbol ":=" then
            e.checkUnbound
    return some (e, rest)

/-- An element of a collection, or the elements of another one behind a star. -/
def starElement? (reader : Reader) : Nat → Step Expression
  | 0, _ => .ok none
  | fuel + 1, ts => do
    match ← reader.after? (symbol "*") ts with
    | some rest =>
      return (← chain? reader .sum fuel rest).map fun (_, rest) => (.starred, rest)
    | none => element? reader fuel ts

/-- Elements up to a closing bracket, last one first before it. -/
def elements? (reader : Reader) (closing : Token) (before : List Expression) :
    Nat → Step (List Expression)
  | 0, _ => .ok none
  | fuel + 1, ts => do
    match ← reader.after? closing ts with
    | some rest => return some (before.reverse, rest)
    | none =>
      let some (e, rest) ← starElement? reader fuel ts | return none
      match ← reader.next? rest with
      | none => return none
      | some (token, after) =>
        if token = closing then return some ((e :: before).reverse, after)
        else if token = symbol "," then elements? reader closing (e :: before) fuel after
        else return none

/-- What stands in round brackets: a single expression, or a tuple. -/
def group? (reader : Reader) : Nat → Step Expression
  | 0, _ => .ok none
  | fuel + 1, ts => do
    match ← reader.after? (symbol ")") ts with
    | some rest => return some (.tuple [], rest)
    | none =>
      if reader.explains then
        if let some rest ← reader.after? (symbol "**") ts then
          if let some (_, rest) ← expression? reader true fuel rest then
            if (← reader.after? (symbol ")") rest).isSome then .error .doubleStarred
        if let some rest ← reader.after? (symbol "*") ts then
          let _ ← starred? reader fuel rest
      let some (e, rest) ← starElement? reader fuel ts | return none
      match ← reader.next? rest with
      | none => return none
      | some (token, after) =>
        if token = symbol "," then
          return (← elements? reader (symbol ")") [e] fuel after).map fun (items, rest) =>
            (.tuple items, rest)
        else if token = symbol ")" then
          match e with
          | .starred => if reader.explains then .error .starred else return none
          | e => return some (e, after)
        else return none

/-- What stands in braces: a dictionary, or a set. -/
def braces? (reader : Reader) : Nat → Step Expression
  | 0, _ => .ok none
  | fuel + 1, ts => do
    match ← reader.after? (symbol "\x7d") ts with
    | some rest => return some (.dictionary [], rest)
    | none =>
      if (← reader.after? (symbol "**") ts).isSome then entries? reader [] fuel ts
      else
        if reader.explains then
          if let some rest ← reader.after? (symbol "*") ts then
            let _ ← starred? reader fuel rest
        let some (e, rest) ← starElement? reader fuel ts | return none
        match ← reader.next? rest with
        | none => return none
        | some (token, after) =>
          if token = symbol ":" then
            let some (value, rest) ← value? reader fuel after | return none
            moreEntries? reader [value, e] fuel rest
          else if token = symbol "\x7d" then return some (.set [e], after)
          else if token = symbol "," then
            return (← elements? reader (symbol "\x7d") [e] fuel after).map fun (items, rest) =>
              (.set items, rest)
          else return none

/-- The entries of a dictionary up to the closing brace, keys and values in turn, last one first
before them. -/
def entries? (reader : Reader) (before : List Expression) : Nat → Step Expression
  | 0, _ => .ok none
  | fuel + 1, ts => do
    match ← reader.after? (symbol "\x7d") ts with
    | some rest => return some (.dictionary before.reverse, rest)
    | none =>
      match ← reader.after? (symbol "**") ts with
      | some rest =>
        let some (_, rest) ← chain? reader .sum fuel rest | return none
        moreEntries? reader (.starred :: before) fuel rest
      | none =>
        let some (key, rest) ← expression? reader true fuel ts | return none
        match ← reader.after? (symbol ":") rest with
        | none => if reader.explains then .error .missingColon else return none
        | some rest =>
          let some (value, rest) ← value? reader fuel rest | return none
          moreEntries? reader (value :: key :: before) fuel rest

/-- What stands behind an entry. -/
def moreEntries? (reader : Reader) (before : List Expression) : Nat → Step Expression
  | 0, _ => .ok none
  | fuel + 1, ts => do
    match ← reader.next? ts with
    | none => return none
    | some (token, rest) =>
      if token = symbol "\x7d" then return some (.dictionary before.reverse, rest)
      else if token = symbol "," then entries? reader before fuel rest
      else return none

def value? (reader : Reader) : Nat → Step Expression
  | 0, _ => .ok none
  | fuel + 1, ts => do
    match ← expression? reader true fuel ts with
    | some found => return some found
    | none =>
      if reader.explains then
        if let some rest ← reader.after? (symbol "*") ts then
          if (← chain? reader .sum fuel rest).isSome then .error .starredValue
        if let some (token, _) ← reader.next? ts then
          if token = symbol "\x7d" ∨ token = symbol "," then .error .missingValue
      return none

end

/-! ## Values -/

mutual

/-- Whether an expression is a constant; the kind of a changeable one is given. -/
def Expression.check : Expression → Except Fault (Option Text)
  | .number _ | .string | .constant _ => .ok none
  | .signed (.number _) => .ok none
  | .sum left (.number true) => if left.isReal then .ok none else .error .notConstant
  | .tuple items => do return (← checkAll items).head?
  | .set items => do
    match (← checkAll items).head? with
    | some kind => .error (.changeable kind)
    | none => return some "set"
  | .dictionary parts => do
    checkEntries parts
    return some "dict"
  | .call (.name w) true => if w = "set" then .ok (some "set") else .error .notConstant
  | _ => .error .notConstant

/-- The kinds of the changeable ones among constants. -/
def Expression.checkAll : List Expression → Except Fault (List Text)
  | [] => .ok []
  | e :: rest => do
    let kind ← e.check
    return kind.toList ++ (← checkAll rest)

/-- Keys may not change. -/
def Expression.checkEntries : List Expression → Except Fault Unit
  | key :: value :: rest => do
    let kind ← key.check
    let _ ← value.check
    if let some kind := kind then .error (.changeable kind)
    checkEntries rest
  | [_] => .error .notConstant
  | [] => .ok ()

end

/-! ## Whole texts -/

/-- Whether nothing follows but line ends. -/
def isOver (ts : List Token) : Bool := ts.all (· = symbol ['\n'])

/-- Expressions with commas between them are a tuple, also without brackets. -/
def whole? (reader : Reader) (fuel : Nat) (before : List Expression) :
    Nat → List Token → Except Fault (Option Expression)
  | 0, _ => .ok none
  | steps + 1, ts => do
    let some (e, rest) ← expression? reader false fuel ts | return none
    match ← reader.after? (symbol ",") rest with
    | none =>
      if ¬ isOver rest then return none
      else return some (if before = [] then e else .tuple (e :: before).reverse)
    | some rest =>
      if isOver rest then return some (.tuple (e :: before).reverse)
      else whole? reader fuel (e :: before) steps rest

/-- A text with a fault in its tokens has that fault, if one does not have to get that far to meet
it. -/
def read (t : Text) : Except Fault Expression :=
  let (ts, atEnd) := tokens t
  let fuel := 24 * (ts.length + 1)
  let reading := do
    match ← whole? { atEnd, explains := false } fuel [] (ts.length + 1) ts with
    | some e => return e
    | none =>
      let _ ← whole? { atEnd, explains := true } fuel [] (ts.length + 1) ts
      .error .misplaced
  match atEnd.filter (!·.isMetLate) with
  | some fault => .error fault
  | none => reading

/-- What is wrong with a text that should be a constant. -/
def fault? (t : Text) : Option Fault :=
  match (read t).bind Expression.check with
  | .ok _ => none
  | .error fault => some fault

end SceneScript.Constant
