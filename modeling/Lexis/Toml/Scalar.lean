import Lexis.Text.Digit
import Lexis.Toml.Item
import Lexis.Reader

/-!
# Scalars of TOML

Strings in four styles, booleans, integers in four bases, floating numbers, dates and times, as TOML 1.0
writes them. A number that does not fit its type is refused, and so is a date that is on no calendar.
-/

set_option autoImplicit false

namespace Lexis.Toml

open Reader

/-! ## Blanks and lines -/

/-- Space and tab. -/
def isBlank (c : Char) : Bool := c == ' ' || c == '\t'

/-- Blanks on a line. -/
def blanks : Reader Unit := do
  let _ ← takeWhile isBlank

/-- A line end. -/
def newline : Reader Unit := char '\n' <|> word "\x0d\n"

/-- What may stand in comments and quoted texts: a tab, and every character that is no control. -/
def isVisible (c : Char) : Bool := c == '\t' || (0x20 ≤ c.toNat && c.toNat != 0x7F)

/-! ## Strings -/

/-- The character that hexadecimal digits number. -/
def numbered (digits : List Char) : Reader Char :=
  let n := Text.ofDigits 16 digits
  if n.isValidChar then return Char.ofNat n else failure

/-- An escape: a backslash and what it stands for. -/
def escape : Reader Char := do
  char '\\'
  match ← one fun _ => true with
  | 'b' => return '\x08'
  | 't' => return '\t'
  | 'n' => return '\n'
  | 'f' => return '\x0c'
  | 'r' => return '\r'
  | '"' => return '"'
  | '\\' => return '\\'
  | 'u' => numbered (← exactly Text.isHexDigit 4)
  | 'U' => numbered (← exactly Text.isHexDigit 8)
  | _ => failure

/-- A string on one line with escapes. -/
def basicString : Reader String := do
  char '"'
  let content ← many (escape <|> one fun c => isVisible c && c != '"' && c != '\\')
  char '"'
  return String.ofList content

/-- A string on one line without escapes. -/
def literalString : Reader String := do
  char '\''
  let content ← takeWhile fun c => isVisible c && c != '\''
  char '\''
  return String.ofList content

/-- One or two quotes inside a string that three of them close: those in front of something else, and
those in front of the closing ones. -/
def innerQuotes (quote : Char) : Reader (List Char) := do
  let quotes ← ahead (takeWhile (· == quote))
  let n := if 3 ≤ quotes.length then quotes.length - 3 else quotes.length
  if n == 0 || 2 < n then failure else exactly (· == quote) n

/-- A string over several lines: after the opening quotes a line end is dropped, and every other line
end is a line feed. -/
def multiline (quote : Char) (piece : Reader (List Char)) : Reader String := do
  let _ ← exactly (· == quote) 3
  withDefault () newline
  let ending : Reader (List Char) := do
    newline
    return ['\n']
  let content ← many (piece <|> ending <|> innerQuotes quote)
  let _ ← exactly (· == quote) 3
  return String.ofList content.flatten

/-- A backslash at the end of a line, which takes the blanks and line ends behind it away. -/
def joinedLines : Reader (List Char) := do
  char '\\'
  blanks
  newline
  let _ ← many ((do let _ ← one isBlank) <|> newline)
  return []

/-- A string over several lines with escapes. -/
def multilineBasicString : Reader String :=
  multiline '"' <|
    joinedLines <|> (do return [← escape]) <|>
      takeWhile1 fun c => isVisible c && c != '"' && c != '\\'

/-- A string over several lines without escapes. -/
def multilineLiteralString : Reader String :=
  multiline '\'' <| takeWhile1 fun c => isVisible c && c != '\''

/-- A string of any style. -/
def string : Reader String :=
  multilineBasicString <|> basicString <|> multilineLiteralString <|> literalString

/-! ## Numbers -/

/-- Digits, with single underscores between them. -/
def digits (isDigit : Char → Bool) : Reader (List Char) := do
  let first ← one isDigit
  let more ← many (one isDigit <|> do char '_'; one isDigit)
  return first :: more

/-- A sign, and whether it is a minus. -/
def sign : Reader Bool :=
  withDefault false ((do char '-'; return true) <|> (do char '+'; return false))

/-- Decimal digits without a zero in front of others. -/
def wholeDigits : Reader (List Char) := do
  let found ← digits Char.isDigit
  match found with
  | '0' :: _ :: _ => failure
  | _ => return found

/-- An integer that fits 64 bits with a sign. -/
def bounded (n : Int) : Reader Scalar :=
  if Int64.minValue.toInt ≤ n && n ≤ Int64.maxValue.toInt then return .integer n else failure

/-- An integer in a base that its second character names. -/
def prefixedInteger (mark : String) (base : Nat) (isDigit : Char → Bool) : Reader Scalar := do
  word mark
  bounded (Text.ofDigits base (← digits isDigit))

/-- An integer in decimal. -/
def decimalInteger : Reader Scalar := do
  let negative ← sign
  let magnitude : Int := Text.ofDigits 10 (← wholeDigits)
  bounded (if negative then -magnitude else magnitude)

/-- An integer. -/
def integer : Reader Scalar :=
  prefixedInteger "0x" 16 Text.isHexDigit <|> prefixedInteger "0o" 8 Text.isOctalDigit <|>
    prefixedInteger "0b" 2 Text.isBinaryDigit <|> decimalInteger

/-- A point and the digits behind it. -/
def fraction : Reader (List Char) := do
  char '.'
  digits Char.isDigit

/-- An exponent. -/
def exponent : Reader Int := do
  let _ ← one fun c => c == 'e' || c == 'E'
  let negative ← sign
  let magnitude : Int := Text.ofDigits 10 (← digits Char.isDigit)
  return if negative then -magnitude else magnitude

/-- Digits times a power of ten in floating form. The number lies below the power of ten that is its
order, and not below the one before, which tells when it is too small or too large for the format. -/
def scientific (spelled : List Char) (power : Int) : Float :=
  let significant := spelled.dropWhile (· == '0')
  let order := significant.length + power
  if significant.isEmpty || order < -323 then 0.0
  else if 309 < order then 1.0 / 0.0
  else Float.ofScientific (Text.ofDigits 10 significant) (power < 0) power.natAbs

/-- A floating number with a fraction or an exponent. Too large a positive one is refused. -/
def decimalFloat : Reader Scalar := do
  let negative ← sign
  let whole ← wholeDigits
  let (behind, power) ←
    (do
      let behind ← fraction
      return (behind, ← withDefault 0 exponent)) <|>
    (do return ([], ← exponent))
  let magnitude := scientific (whole ++ behind) (power - behind.length)
  if magnitude.isInf && !negative then failure
  else return .float (if negative then -magnitude else magnitude)

/-- An infinite number, or none. -/
def specialFloat : Reader Scalar := do
  let negative ← sign
  (do
    word "inf"
    return .float (if negative then -(1.0 / 0.0) else 1.0 / 0.0)) <|>
  (do
    word "nan"
    return .float (0.0 / 0.0))

/-! ## Dates and times -/

/-- A number of so many digits that does not leave its bounds. -/
def field (width low high : Nat) : Reader Nat := do
  let n := Text.ofDigits 10 (← exactly Char.isDigit width)
  if low ≤ n && n ≤ high then return n else failure

/-- The days of a month. -/
def daysInMonth (year month : Nat) : Nat :=
  if month == 2 then
    if year % 4 == 0 && (year % 100 != 0 || year % 400 == 0) then 29 else 28
  else if month == 4 || month == 6 || month == 9 || month == 11 then 30
  else 31

/-- A day of the calendar. -/
def date : Reader Unit := do
  let year ← field 4 0 9999
  char '-'
  let month ← field 2 1 12
  char '-'
  let _ ← field 2 1 (daysInMonth year month)

/-- A time of day, with room for a leap second. -/
def time : Reader Unit := do
  let _ ← field 2 0 23
  char ':'
  let _ ← field 2 0 59
  char ':'
  let _ ← field 2 0 60
  withDefault () do
    char '.'
    let _ ← takeWhile1 Char.isDigit

/-- The distance from universal time. -/
def zone : Reader Unit :=
  (do let _ ← one fun c => c == 'Z' || c == 'z') <|>
  (do
    let _ ← one fun c => c == '+' || c == '-'
    let _ ← field 2 0 23
    char ':'
    let _ ← field 2 0 59)

/-- A date, a time, or both. -/
def dateTime : Reader Scalar :=
  (do
    date
    withDefault () do
      let _ ← one fun c => c == 'T' || c == 't' || c == ' '
      time
      withDefault () zone
    return .dateTime) <|>
  (do
    time
    return .dateTime)

/-! ## All scalars -/

/-- A boolean. -/
def boolean : Reader Scalar :=
  (do word "true"; return .boolean true) <|> (do word "false"; return .boolean false)

/-- A value without parts. -/
def scalar : Reader Scalar :=
  (do return .string (← string)) <|> dateTime <|> decimalFloat <|> specialFloat <|> integer <|> boolean

end Lexis.Toml
