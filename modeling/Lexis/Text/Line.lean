import Lexis.Text.Utf8

/-!
# Lines and places

A line ends at a carriage return, a line feed, or the two in that order taken together, and keeps its
ending. A text is cut into lines from its end: putting a character in front of a text either opens a
new line or makes the first line longer. A place names the line that a byte offset falls in.
-/

set_option autoImplicit false

namespace Lexis

namespace Text

/-- Whether a character is one of the two that end lines. -/
def isLineBreak (c : Char) : Bool := c == '\n' || c == '\r'

/-- The lines of a text with one more character in front. -/
def prependToLines (c : Char) (lines : List (List Char)) : List (List Char) :=
  if c = '\n' then [c] :: lines
  else if c = '\r' then
    match lines with
    | ['\n'] :: lines => [c, '\n'] :: lines
    | lines => [c] :: lines
  else
    match lines with
    | line :: lines => (c :: line) :: lines
    | [] => [[c]]

/-- The lines of a text, each with its ending. The empty text has none. -/
def lines (cs : List Char) : List (List Char) :=
  cs.foldr prependToLines []

end Text

/-- A place in a text: the number of a line counted from 1, the line, and the bytes of it in front of
the place. -/
structure Place where
  number : Nat
  line : List Char
  offset : Nat
deriving DecidableEq

namespace Place

/-- Looks for a byte offset among lines of which the first has the given number. The end of the last
line is a place in that line. -/
def inLines? (number : Nat) : List (List Char) → Nat → Option Place
  | [], offset => if offset = 0 then some ⟨number, [], 0⟩ else none
  | [line], offset => if offset ≤ Text.byteLength line then some ⟨number, line, offset⟩ else none
  | line :: next :: lines, offset =>
    if offset < Text.byteLength line then some ⟨number, line, offset⟩
    else inLines? (number + 1) (next :: lines) (offset - Text.byteLength line)

/-- The place at a byte offset, absent when the offset lies behind the end of the text. -/
def at? (cs : List Char) (offset : Nat) : Option Place :=
  inLines? 1 (Text.lines cs) offset

end Place

end Lexis
