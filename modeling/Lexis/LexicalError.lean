import Lexis.Span

/-!
# Lexical errors

What can be wrong with a piece of a text, and the report of it: the reason together with the bytes it
covers. Lexical errors never stop the scan. They travel in tokens.
-/

set_option autoImplicit false

namespace Lexis

/-- Why a piece of a text is no token. -/
inductive LexicalError where
  | unterminatedString
  | unterminatedChar
  | unrecognisedCharacter
deriving DecidableEq

namespace LexicalError

/-- The name under which an error is reported. -/
def name : LexicalError → String
  | .unterminatedString => "UnterminatedString"
  | .unterminatedChar => "UnterminatedChar"
  | .unrecognisedCharacter => "UnrecognisedCharacter"

/-- The wording of an error. -/
def message : LexicalError → String
  | .unterminatedString => "Unterminated string literal"
  | .unterminatedChar => "Unterminated char literal"
  | .unrecognisedCharacter => "Unrecognised character"

/-- Advice on how to mend the text, where there is any to give. -/
def tip? : LexicalError → Option String
  | .unterminatedString => some "close the literal with `\"` before the end of the line"
  | .unterminatedChar => some "a char literal holds exactly one character or escape sequence"
  | .unrecognisedCharacter => none

end LexicalError

/-- An error and the bytes it was found in. -/
structure LocatedError where
  reason : LexicalError
  span : Span
deriving DecidableEq

/-- An error on one line: the wording and the two ends of its span. -/
def LocatedError.display (e : LocatedError) : String :=
  s!"{e.reason.message} at {e.span.start}..{e.span.stop}"

end Lexis
