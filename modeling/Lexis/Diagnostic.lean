import Lexis.LexicalError
import Lexis.Text.Line
import Lexis.Text.CodePoints

/-!
# Diagnostics

A diagnostic shows a lexical error in its line: a heading, the file, and under the line an arrow to the
character where the error starts. The line is shown without its indentation, which is spaces and tabs,
and without white space at its end; the arrow is counted in characters of what is shown. An error that
lies behind the text has no line, and an arrow may be longer than the layout allows.
-/

set_option autoImplicit false

namespace Lexis.Diagnostic

/-- The widest field that the layout can fill. -/
def maxFieldWidth : Nat := 65535

/-- The indentation of a line. -/
def indentation (line : List Char) : Nat :=
  (line.takeWhile fun c => c == ' ' || c == '\t').length

/-- The heading: the name of the error, and advice where there is any. -/
def heading (reason : LexicalError) : String :=
  match reason.tip? with
  | some tip => s!"Error: {reason.name} ({tip})\n"
  | none => s!"Error: {reason.name}\n"

/-- A line of a text with an arrow under one of its places. -/
def picture (place : Place) : Except Fault String :=
  let number := toString place.number
  let margin := "".pushn ' ' (number.length + 1) ++ "|"
  let indent := indentation place.line
  let shown := String.ofList (Text.trimEnd (place.line.drop indent))
  let column := (Text.charIndex? place.line place.offset).getD place.offset
  let dashes := column - indent
  if maxFieldWidth < dashes + 1 then .error .fieldTooWide
  else
    .ok (margin ++ "\n" ++ number ++ " | " ++ shown ++ "\n" ++
      margin ++ " " ++ "".pushn '-' dashes ++ "^\n")

/-- **The diagnostic of an error** in a text that was read from the given file. -/
def render (e : LocatedError) (text : List Char) (file : String) : Except Fault String := do
  let top := heading e.reason ++ s!"-> {file}\n"
  match Place.at? text e.span.start with
  | none => return top
  | some place => return top ++ (← picture place)

end Lexis.Diagnostic
