import Lexis.Reader
import Lexis.Text.Alphabetic
import Lexis.Text.Digit
import Lexis.Text.CodePoints

/-!
# Patterns

Which texts are patterns for other texts, that is regular expressions: branches with bars between them,
a branch being a row of characters, classes and groups, which may be repeated, and of flags. Only the form of a pattern is of interest here, not what it matches. Anchors are the only
assertions, and no repetition is counted.
-/

set_option autoImplicit false

namespace Lexis.Pattern

open Reader

/-! ## Escapes -/

/-- What an escape stands for. -/
inductive Escaped where
  | character (c : Char)
  | characters
  | anchor
deriving DecidableEq

/-- A character by its number in so many digits of base sixteen. -/
def numbered (width : Nat) : Reader Escaped := do
  let n := Text.ofDigits 16 (← exactly Text.isHexDigit width)
  if n.isValidChar then return .character (Char.ofNat n) else failure

/-- What follows a backslash. -/
def escaped : Reader Escaped := do
  let c ← one fun _ => true
  match c with
  | 'x' => numbered 2
  | 'u' => numbered 4
  | 'U' => numbered 8
  | 'a' => return .character '\x07'
  | 'f' => return .character '\x0c'
  | 'n' => return .character '\n'
  | 'r' => return .character '\r'
  | 't' => return .character '\t'
  | 'v' => return .character '\x0b'
  | 'A' => return .anchor
  | 'z' => return .anchor
  | c =>
    if c == 'p' || c == 'P' then do
      let _ ← one fun c => "clmnpsz".toList.contains c.toLower
      return .characters
    else if "dswDSW".toList.contains c then return .characters
    else if c.toNat < 128 && !c.isAlphanum && c != '<' && c != '>' then return .character c
    else failure

/-! ## Classes -/

/-- A character in a class, or what an escape stands for. -/
def member : Reader Escaped :=
  (do
    char '\\'
    escaped) <|>
  (do
    let c ← one (· != '\\')
    return .character c)

/-- A character or characters in a class, or a range from one character to another. A minus sign in
front of another one or of the end is no range. -/
def memberOrRange : Reader Unit := do
  let first ← member
  let goesOn ← withDefault false <| ahead do
    char '-'
    let _ ← one fun c => c != ']' && c != '-'
    return true
  if goesOn then
    char '-'
    match first, ← member with
    | .character low, .character high => if low ≤ high then return () else failure
    | _, _ => failure
  else
    match first with
    | .anchor => failure
    | _ => return ()

/-- The names of classes. -/
def classNames : List String :=
  ["alnum", "alpha", "ascii", "blank", "cntrl", "digit", "graph", "lower", "print", "punct", "space",
    "upper", "word", "xdigit"]

/-- A class by its name, as it stands in another class. -/
def namedClass : Reader Unit := do
  word "[:"
  withDefault () (char '^')
  let name ← takeWhile (· != ':')
  word ":]"
  if classNames.contains (String.ofList name) then return () else failure

/-- A class, which may hold others up to a depth. Minus signs or a closing bracket at its beginning
stand for themselves. -/
def bracketed : Nat → Reader Unit
  | 0 => failure
  | depth + 1 => do
    char '['
    withDefault () (char '^')
    let dashes ← takeWhile (· == '-')
    if dashes.isEmpty then withDefault () (char ']')
    let _ ← many <|
      namedClass <|> bracketed depth <|> word "&&" <|> word "--" <|> word "~~" <|> do
        let _ ← ahead (one fun c => c != '[' && c != ']')
        memberOrRange
    char ']'

/-! ## Groups -/

/-- Flags, none of them twice; what is behind a minus sign is switched off. -/
def flags : Reader (List Char) := do
  let found ← takeWhile "imsUuRx-".toList.contains
  if found.Nodup && found.getLast? != some '-' then return found else failure

/-- Flags for what follows. -/
def flagsAlone : Reader Unit := do
  word "(?"
  if (← flags).isEmpty then failure
  char ')'

/-- The name of a group. -/
def groupName : Reader Unit := do
  word "?P<" <|> word "?<"
  let _ ← one fun c => c == '_' || Text.isAlphabetic c
  let _ ← takeWhile fun c =>
    "_.[]".toList.contains c || Text.isAlphabetic c || Text.isNumeric c
  char '>'

/-- What may stand at the beginning of a group: its name, or flags for the group. -/
def groupHead : Reader Unit :=
  groupName <|> do
    char '?'
    let _ ← flags
    char ':'

/-! ## Patterns -/

/-- How deep groups and classes may be nested. -/
def maxDepth : Nat := 250

/-- A pattern whose groups are nested up to a depth. -/
def pattern : Nat → Reader Unit
  | 0 => failure
  | depth + 1 => do
    let group : Reader Unit := do
      char '('
      withDefault () groupHead
      pattern depth
      char ')'
    let plain : Reader Unit := do
      let _ ← one fun c => !"\\()[\x7b*+?|".toList.contains c
    let escape : Reader Unit := do
      char '\\'
      let _ ← escaped
    let repeated : Reader Unit := do
      bracketed maxDepth <|> group <|> escape <|> plain
      let _ ← many (one "*+?".toList.contains)
    let branch := many (flagsAlone <|> repeated)
    let _ ← branch
    let _ ← many do
      char '|'
      branch

/-- Whether a text is a pattern. -/
def isPattern (text : List Char) : Bool := ((do pattern maxDepth; atEnd) ⟨text, 0⟩).isSome

end Lexis.Pattern
