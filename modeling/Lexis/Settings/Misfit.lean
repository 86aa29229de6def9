import Lexis.Decimal
import Lexis.Text.Quoted
import Lexis.Toml.Item

/-!
# Misfits

Why a value of a well-formed document is not the value of a setting, and how that is shown: the place,
the line of the text with carets under the value, and the reason.
-/

set_option autoImplicit false

namespace Lexis

/-- Why a value does not fit a setting. -/
inductive Misfit where
  /-- The value is of another type than the setting. -/
  | wrongType (found expected : String)
  /-- The word names no choice. -/
  | unknownChoice (word : String) (choices : List String)
  /-- A choice is neither a word nor a table around a word. -/
  | noChoice
  /-- A table around a choice has not one entry. -/
  | notOneEntry (empty : Bool)
  /-- The table inside a choice that has no parts holds some. -/
  | notEmpty (kind : String)
  /-- Something else than a table is inside a choice that has no parts. -/
  | notTable (found : String)
deriving DecidableEq

namespace Misfit

/-- The wording of a misfit. -/
def message : Misfit → String
  | .wrongType found expected => s!"invalid type: {found}, expected {expected}"
  | .unknownChoice word choices =>
    let listed := ", ".intercalate (choices.map fun choice => s!"`{choice}`")
    s!"unknown variant `{word}`, expected one of {listed}"
  | .noChoice => "wanted string or table"
  | .notOneEntry true => "wanted exactly 1 element, found 0 elements"
  | .notOneEntry false => "wanted exactly 1 element, more than 1 element"
  | .notEmpty kind => s!"expected empty {kind}"
  | .notTable found => s!"expected table, found {found}"

/-- An item as the message about its type shows it. -/
def describe : Toml.Item → String
  | .scalar (.string s) _ => s!"string {Text.quote s}"
  | .scalar (.integer n) _ => s!"integer `{n}`"
  | .scalar (.float x) _ => s!"floating point `{Decimal.shortest x}`"
  | .scalar (.boolean b) _ => s!"boolean `{b}`"
  | .scalar .dateTime _ => "map"
  | .array _ _ => "sequence"
  | .table _ _ _ => "map"
  | .tables _ _ => "sequence"

/-- The word for the type of an item. -/
def typeName : Toml.Item → String
  | .scalar (.string _) _ => "string"
  | .scalar (.integer _) _ => "integer"
  | .scalar (.float _) _ => "float"
  | .scalar (.boolean _) _ => "boolean"
  | .scalar .dateTime _ => "datetime"
  | .array _ _ => "array"
  | .table _ _ _ => "table"
  | .tables _ _ => "array of tables"

end Misfit

/-- A misfit and the bytes of the text that it is about. -/
structure LocatedMisfit where
  reason : Misfit
  span : Span
deriving DecidableEq

/-- The text of a misfit: line and column, the line with a caret for each byte of the value as far as
the line goes, and the reason. -/
def LocatedMisfit.render (m : LocatedMisfit) (text : List Char) : String :=
  let start := (Text.charIndex? text m.span.start).getD text.length
  let before := text.take start
  let line := before.count '\n' + 1
  let indent := (before.reverse.takeWhile (· != '\n')).length
  let shown := (text.drop (start - indent)).takeWhile (· != '\n')
  let carets := min (m.span.stop - m.span.start) (Text.byteLength shown - indent)
  let number := toString line
  let gutter := "".pushn ' ' (number.length + 1) ++ "|"
  s!"TOML parse error at line {line}, column {indent + 1}\n" ++
    gutter ++ "\n" ++
    number ++ " | " ++ String.ofList shown ++ "\n" ++
    gutter ++ "".pushn ' ' (indent + 1) ++ "^".pushn '^' (carets - 1) ++ "\n" ++
    m.reason.message ++ "\n"

end Lexis
