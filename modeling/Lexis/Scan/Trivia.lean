import Lexis.Text.Alphabetic
import Lexis.Text.Line
import Lexis.Scan.Munch

/-!
# Trivia and words

What stands between tokens: blanks, line ends, comments to the end of a line, and comments between two
marks, which do not nest. A comment that is never closed runs to the end of the text.

And the plainest of tokens: identifiers and keywords are spelled from letters and numbers of any script,
the underscore and the dollar sign, and do not begin with a number.
-/

set_option autoImplicit false

namespace Lexis

namespace Trivia

/-- Space, tab, form feed and vertical tab. -/
def isBlank (c : Char) : Bool := c == ' ' || c == '\t' || c == '\x0c' || c == '\x0b'

/-- The inside of a comment between marks: any character but the first of a closing mark. -/
def inside : Munch
  | '*' :: '/' :: _ => 0
  | _ :: _ => 1
  | [] => 0

/-- The rest of a comment behind its opening mark, with the closing mark if there is one. -/
def blockRest : Munch := (Munch.many inside).andThen (Munch.word ['*', '/'])

/-- One item of trivia: a comment, a line end, or a blank. -/
def item : Munch
  | '/' :: '/' :: cs => 2 + Munch.run (fun c => !Text.isLineBreak c) cs
  | '/' :: '*' :: cs => 2 + blockRest cs
  | '\r' :: '\n' :: _ => 2
  | cs => Munch.one (fun c => isBlank c || Text.isLineBreak c) cs

/-- All trivia at the front of a text. -/
def length : Munch := Munch.many item

end Trivia

namespace Word

/-- Whether a character can begin a word. -/
def isStart (c : Char) : Bool := c == '_' || c == '$' || Text.isAlphabetic c

/-- Whether a character can stand inside a word. -/
def isPart (c : Char) : Bool := isStart c || Text.isNumeric c

/-- All characters at the front of a text that can stand inside a word. -/
def length : Munch := Munch.run isPart

end Word

end Lexis
