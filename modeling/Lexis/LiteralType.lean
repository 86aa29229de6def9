import Lexis.Text.Digit

/-!
# Types of literals

The type of a literal is read off its spelling alone. Words and quoted texts come first. A numeral is
one of three forms: hexadecimal with a binary exponent, which is always floating; hexadecimal or binary
without one, which is an integer whatever its fraction; and decimal, where a suffix decides, and
otherwise a fraction or an exponent makes a double. Digits here may be underscores as well, and may be
missing: the forms are wider than what the lexer cuts.

Each form is checked from left to right without going back. That finds every reading there is, since
the classes of characters that meet at a border have no member in common.
-/

set_option autoImplicit false

namespace Lexis

/-- The type of the value that a literal stands for. -/
inductive LiteralType where
  | null
  | boolean
  | int
  | long
  | float
  | double
  | char
  | string
  | unknown
deriving DecidableEq

namespace LiteralType

/-- The word for a type in reports. -/
def name : LiteralType → String
  | .null => "null"
  | .boolean => "boolean"
  | .int => "int"
  | .long => "long"
  | .float => "float"
  | .double => "double"
  | .char => "char"
  | .string => "String"
  | .unknown => "unknown"

/-- A decimal digit or an underscore. -/
def isDecimalPart (c : Char) : Bool := c.isDigit || c == '_'

/-- A hexadecimal digit or an underscore. -/
def isHexPart (c : Char) : Bool := Text.isHexDigit c || c == '_'

/-- What follows a point and the characters of a class, or the whole text where no point stands. -/
def afterFraction (isPart : Char → Bool) : List Char → List Char
  | '.' :: cs => cs.dropWhile isPart
  | cs => cs

/-- What follows a sign, or the whole text where no sign stands. -/
def afterSign : List Char → List Char
  | c :: cs => if c == '+' || c == '-' then cs else c :: cs
  | [] => []

/-- The type that the suffix of a floating numeral asks for; a suffix is at most one character. -/
def ofFloatingSuffix? : List Char → Option LiteralType
  | [] => some .double
  | [c] =>
    if c == 'f' || c == 'F' then some .float
    else if c == 'd' || c == 'D' then some .double
    else none
  | _ => none

/-- The type that the suffix of a whole numeral asks for. -/
def ofWholeSuffix? : List Char → Option LiteralType
  | [] => some .int
  | [c] => if c == 'l' || c == 'L' then some .long else none
  | _ => none

/-- A hexadecimal numeral with a binary exponent. -/
def ofHexFloating? : List Char → Option LiteralType
  | '0' :: x :: cs =>
    if x == 'x' || x == 'X' then
      match afterFraction isHexPart (cs.dropWhile isHexPart) with
      | p :: cs =>
        if p == 'p' || p == 'P' then ofFloatingSuffix? ((afterSign cs).dropWhile isDecimalPart)
        else none
      | [] => none
    else none
  | _ => none

/-- A hexadecimal or binary numeral without an exponent. -/
def ofRadix? : List Char → Option LiteralType
  | '0' :: x :: cs =>
    if x == 'x' || x == 'X' || x == 'b' || x == 'B' then
      ofWholeSuffix? (afterFraction isHexPart (cs.dropWhile isHexPart))
    else none
  | _ => none

/-- What follows an exponent: the marker, a sign or none, and at least one digit or underscore. -/
def afterExponent? : List Char → Option (List Char)
  | e :: cs =>
    if e == 'e' || e == 'E' then
      match afterSign cs with
      | d :: cs => if isDecimalPart d then some (cs.dropWhile isDecimalPart) else none
      | [] => none
    else none
  | [] => none

/-- A decimal numeral. Without a suffix it is whole when neither a fraction nor an exponent follows its
first digits. -/
def ofDecimal? : List Char → Option LiteralType
  | d :: cs =>
    if d.isDigit then
      let whole := cs.dropWhile isDecimalPart
      let fraction := afterFraction isDecimalPart whole
      match (afterExponent? fraction).getD fraction with
      | [] => if whole.isEmpty then some .int else some .double
      | suffix => (ofWholeSuffix? suffix).or (ofFloatingSuffix? suffix)
    else none
  | [] => none

/-- Whether a text of at least the given length stands between two copies of a quote. -/
def isQuotedBy (quote : Char) (atLeast : Nat) (cs : List Char) : Bool :=
  atLeast ≤ cs.length && cs.head? == some quote && cs.getLast? == some quote

/-- **The type of a literal with the given spelling**, unknown for a text that spells no literal. -/
def ofText (cs : List Char) : LiteralType :=
  if cs = ['t', 'r', 'u', 'e'] || cs = ['f', 'a', 'l', 's', 'e'] then .boolean
  else if cs = ['n', 'u', 'l', 'l'] then .null
  else if isQuotedBy '"' 2 cs then .string
  else if isQuotedBy '\'' 3 cs then .char
  else ((ofHexFloating? cs).or ((ofRadix? cs).or (ofDecimal? cs))).getD .unknown

end LiteralType

end Lexis
