import SceneScript.Text.Basic

/-! # Faults of constants

Why a text that should be a constant is none. A misspelling is told apart from an expression that
is well formed but has no constant value.
-/

namespace SceneScript.Constant

inductive Fault where
  /-- A token stands where none of its kind may stand. -/
  | misplaced
  | missingComma
  | missingElse
  | missingColon
  | missingValue
  /-- An equality or a binding is written with a single sign. -/
  | singleEquals
  /-- A single equality sign behind something that cannot be bound. -/
  | unbindable (kind : Text)
  /-- A single equality sign behind an argument that is no name. -/
  | boundArgument
  /-- A constant word in place of the name of an argument. -/
  | boundConstant (word : Text)
  /-- A call of an old statement without brackets. -/
  | missingBrackets (name : Text)
  | starred
  | doubleStarred
  /-- A star with nothing behind it. -/
  | bareStar
  | starredValue
  | unclosed (opening : Char)
  | unmatched (closing : Char)
  | mismatched (closing opening : Char)
  | tooNested
  | openString (line : Nat)
  | openLongString (line : Nat)
  | leadingZero
  | badNumeral (kind : Text)
  | badDigit (digit : Char) (kind : Text)
  | symbol (c : Char)
  | invisible (c : Char)
  | strayBackslash
  /-- A string of bytes with characters beyond ASCII. -/
  | wideBytes
  | mixedStrings
  /-- A well-formed expression without a constant value. -/
  | notConstant
  /-- A collection of this kind stands where only unchanging values may stand. -/
  | changeable (kind : Text)
  deriving Repr, DecidableEq

namespace Fault

def isMisspelling : Fault → Bool
  | .notConstant | .changeable _ => false
  | _ => true

/-- Whether the fault shows only to a reader who gets that far. -/
def isMetLate : Fault → Bool
  | .unclosed _ | .strayBackslash => true
  | _ => false

def codePoint (c : Char) : Text := "U+" ++ (Text.padded 16 4 c.toNat).map Char.toUpper

def message : Fault → Text
  | .misplaced => "invalid syntax"
  | .missingComma => "invalid syntax. Perhaps you forgot a comma?"
  | .missingElse => "expected 'else' after 'if' expression"
  | .missingColon => "':' expected after dictionary key"
  | .missingValue => "expression expected after dictionary key and ':'"
  | .singleEquals => "invalid syntax. Maybe you meant '==' or ':=' instead of '='?"
  | .unbindable kind =>
    "cannot assign to " ++ kind ++ " here. Maybe you meant '==' instead of '='?"
  | .boundArgument => "expression cannot contain assignment, perhaps you meant \"==\"?"
  | .boundConstant word => "cannot assign to " ++ word
  | .missingBrackets name =>
    "Missing parentheses in call to '" ++ name ++ "'. Did you mean " ++ name ++ "(...)?"
  | .starred => "cannot use starred expression here"
  | .doubleStarred => "cannot use double starred expression here"
  | .bareStar => "Invalid star expression"
  | .starredValue => "cannot use a starred expression in a dictionary value"
  | .unclosed opening => "'" ++ [opening] ++ "' was never closed"
  | .unmatched closing => "unmatched '" ++ [closing] ++ "'"
  | .mismatched closing opening =>
    "closing parenthesis '" ++ [closing] ++ "' does not match opening parenthesis '" ++
      [opening] ++ "'"
  | .tooNested => "too many nested parentheses"
  | .openString line =>
    "unterminated string literal (detected at line " ++ Text.ofNat line ++ ")"
  | .openLongString line =>
    "unterminated triple-quoted string literal (detected at line " ++ Text.ofNat line ++ ")"
  | .leadingZero =>
    "leading zeros in decimal integer literals are not permitted; " ++
      "use an 0o prefix for octal integers"
  | .badNumeral kind => "invalid " ++ kind ++ " literal"
  | .badDigit digit kind => "invalid digit '" ++ [digit] ++ "' in " ++ kind ++ " literal"
  | .symbol c => "invalid character '" ++ [c] ++ "' (" ++ codePoint c ++ ")"
  | .invisible c => "invalid non-printable character " ++ codePoint c
  | .strayBackslash => "unexpected character after line continuation character"
  | .wideBytes => "bytes can only contain ASCII literal characters"
  | .mixedStrings => "cannot mix bytes and nonbytes literals"
  | .notConstant => "malformed node or string on line 1"
  | .changeable kind => "unhashable type: '" ++ kind ++ "'"

end Fault

end SceneScript.Constant
