import Lexis.Scan.Munch
import Lexis.Text.Digit

/-!
# Numerals

How much of a text that begins with a digit is a numeral. There are three forms, told apart by the
second character: hexadecimal, binary and decimal. A run of digits may hold underscores, each directly
in front of a digit. An exponent of a decimal numeral counts only with its digits; the marker of a
hexadecimal one counts even alone.
-/

set_option autoImplicit false

namespace Lexis.Numeral

/-- One item of a run: a digit, or an underscore directly in front of a digit. -/
def runItem (isDigit : Char → Bool) : Munch
  | c :: cs =>
    if isDigit c then 1
    else if c == '_' && cs.head?.any isDigit then 1
    else 0
  | [] => 0

/-- A run of digits. -/
def run (isDigit : Char → Bool) : Munch := Munch.many (runItem isDigit)

/-- A sign or none. -/
def sign : Munch := Munch.one fun c => c == '+' || c == '-'

/-- The suffix of a whole number. -/
def wholeSuffix : Munch := Munch.one fun c => c == 'l' || c == 'L'

/-- The suffix of a floating number. -/
def floatingSuffix : Munch := Munch.one fun c => c == 'f' || c == 'F' || c == 'd' || c == 'D'

/-- A point and the run behind it, if a character of the given class follows the point. -/
def fraction (mayFollow isDigit : Char → Bool) : Munch
  | '.' :: cs => if cs.head?.any mayFollow then 1 + run isDigit cs else 0
  | _ => 0

/-- The exponent of a hexadecimal numeral with its suffix. Its digits may be missing. -/
def hexExponent : Munch
  | c :: cs =>
    if c == 'p' || c == 'P' then 1 + (sign.andThen ((run Char.isDigit).andThen floatingSuffix)) cs else 0
  | [] => 0

/-- The exponent of a decimal numeral. Without digits it is none. -/
def decimalExponent : Munch
  | c :: cs =>
    if c == 'e' || c == 'E' then
      let signed := sign cs
      match run Char.isDigit (cs.drop signed) with
      | 0 => 0
      | digits + 1 => 1 + signed + (digits + 1)
    else 0
  | [] => 0

/-- A hexadecimal numeral behind its prefix. -/
def hexRest : Munch :=
  (run Text.isHexDigit).andThen
    ((fraction (fun c => Text.isHexDigit c || c == '_') Text.isHexDigit).andThen
      (hexExponent.orElse wholeSuffix))

/-- A binary numeral behind its prefix. -/
def binaryRest : Munch := (run Text.isBinaryDigit).andThen wholeSuffix

/-- A decimal numeral. -/
def decimal : Munch :=
  (run Char.isDigit).andThen
    ((fraction Char.isDigit Char.isDigit).andThen
      (decimalExponent.andThen (floatingSuffix.orElse wholeSuffix)))

/-- The numeral at the front of a text. -/
def length : Munch
  | '0' :: c :: cs =>
    if c == 'x' || c == 'X' then 2 + hexRest cs
    else if c == 'b' || c == 'B' then 2 + binaryRest cs
    else decimal ('0' :: c :: cs)
  | cs => decimal cs

private theorem decimal_pos {c : Char} (cs : List Char) (digit : c.isDigit = true) :
    0 < decimal (c :: cs) := by
  have first : 0 < run Char.isDigit (c :: cs) :=
    Munch.many_pos cs (by simp [runItem, digit])
  simp only [decimal, Munch.andThen]
  omega

/-- A text that begins with a digit begins with a numeral. -/
theorem length_pos {c : Char} (cs : List Char) (digit : c.isDigit = true) :
    0 < length (c :: cs) := by
  unfold length
  split
  · split
    · omega
    · split
      · omega
      · exact decimal_pos _ rfl
  · exact decimal_pos _ digit

end Lexis.Numeral
