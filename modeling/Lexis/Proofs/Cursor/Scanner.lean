import Lexis.Proofs.Cursor.Walk
import Lexis.Proofs.Scan.LongestMatch
import Lexis.Lexer

/-!
# The scanner

The lexer once more, as walks over the bytes of its text. A reader is not handed the text behind it and
returns no length: it looks at single characters from the cursor on, moves the cursor, by what it saw, by
a fixed number of bytes or by the bytes of a symbol, in one place back, and cuts out in the end what it
passed. Loops go on as long as what they see lets them.

Nothing here is made to be safe. That no walk of the scanner stumbles, and that it cuts the tokens of the
lexer, is `Scanner.Surefooted`.
-/

set_option autoImplicit false

namespace Lexis

namespace Walk

/-! ## Trivia -/

/-- Passes a line end, which is there. A carriage return takes the line feed behind it along. -/
def lineEnd : Walk Unit := do
  match ← advance with
  | some '\r' =>
    let _ ← eatAny ['\n']
    return ()
  | _ => return ()

/-- One turn through a comment behind its opening mark, with whether a line end was seen. -/
def blockTurn (sawLineEnd : Bool) : Walk (ForInStep Bool) := do
  match ← peek 0, ← peek 1 with
  | some '*', some '/' =>
    jump 2
    return .done sawLineEnd
  | some c, _ =>
    if Text.isLineBreak c then
      lineEnd
      return .yield true
    else
      let _ ← advance
      return .yield sawLineEnd
  | none, _ => return .done sawLineEnd

/-- Passes a comment behind its opening mark and tells whether a line ends in it. -/
def skipBlock : Walk Bool := turns blockTurn false

/-- One turn through trivia, with whether a line end was seen. -/
def triviaTurn (sawLineEnd : Bool) : Walk (ForInStep Bool) := do
  match ← peek 0, ← peek 1 with
  | some '/', some '/' =>
    advanceWhile fun c => !Text.isLineBreak c
    return .yield sawLineEnd
  | some '/', some '*' =>
    jump 2
    let inside ← skipBlock
    return .yield (sawLineEnd || inside)
  | some c, _ =>
    if Trivia.isBlank c then
      let _ ← advance
      return .yield sawLineEnd
    else if Text.isLineBreak c then
      lineEnd
      return .yield true
    else return .done sawLineEnd
  | none, _ => return .done sawLineEnd

/-- Passes trivia and tells whether a line ends in it. -/
def skipTrivia : Walk Bool := turns triviaTurn false

/-! ## Words -/

/-- Reads a word. -/
def readWord : Walk (List Char) := cut (advanceWhile Word.isPart)

/-! ## Numerals -/

/-- One turn through a run of digits, with whether a digit was seen. -/
def digitsTurn (isDigit : Char → Bool) (sawDigit : Bool) : Walk (ForInStep Bool) := do
  match ← peek 0, ← peek 1 with
  | some c, next =>
    if isDigit c then
      let _ ← advance
      return .yield true
    else if c == '_' && next.any isDigit then
      let _ ← advance
      return .yield sawDigit
    else return .done sawDigit
  | none, _ => return .done sawDigit

/-- Passes a run of digits and tells whether it has one. -/
def digits (isDigit : Char → Bool) : Walk Bool := turns (digitsTurn isDigit) false

/-- Passes a point and the run behind it, if a character of the given class follows the point. -/
def fraction (mayFollow isDigit : Char → Bool) : Walk Unit := do
  match ← peek 0, ← peek 1 with
  | some '.', some next =>
    if mayFollow next then
      let _ ← advance
      let _ ← digits isDigit
      return ()
    else return ()
  | _, _ => return ()

/-- Passes the exponent of a hexadecimal numeral with its suffix, or the suffix of a whole number. -/
def hexEnd : Walk Unit := do
  if ← eatAny ['p', 'P'] then
    let _ ← eatAny ['+', '-']
    let _ ← digits Char.isDigit
    let _ ← eatAny ['f', 'F', 'd', 'D']
    return ()
  else
    let _ ← eatAny ['l', 'L']
    return ()

/-- Passes the exponent of a decimal numeral. Where it has no digits, the cursor goes back. -/
def decimalExponent : Walk Unit := do
  match ← peek 0 with
  | some c =>
    if c == 'e' || c == 'E' then
      let save ← offset
      let _ ← advance
      let _ ← eatAny ['+', '-']
      if ← digits Char.isDigit then return () else moveTo save
    else return ()
  | none => return ()

/-- Passes a decimal numeral. -/
def decimal : Walk Unit := do
  let _ ← digits Char.isDigit
  fraction Char.isDigit Char.isDigit
  decimalExponent
  let _ ← eatAny ['f', 'F', 'd', 'D', 'l', 'L']
  return ()

/-- Passes a numeral. -/
def numeral : Walk Unit := do
  match ← peek 0, ← peek 1 with
  | some '0', some c =>
    if c == 'x' || c == 'X' then
      let _ ← advance
      let _ ← advance
      let _ ← digits Text.isHexDigit
      fraction (fun c => Text.isHexDigit c || c == '_') Text.isHexDigit
      hexEnd
    else if c == 'b' || c == 'B' then
      let _ ← advance
      let _ ← advance
      let _ ← digits Text.isBinaryDigit
      let _ ← eatAny ['l', 'L']
      return ()
    else decimal
  | _, _ => decimal

/-- Reads a numeral. -/
def readNumeral : Walk (List Char) := cut numeral

/-! ## Quoted literals -/

/-- Moves the cursor on by so many characters, unless the text ends before, and tells whether it did. -/
def advanceTimes : Nat → Walk Bool
  | 0 => return true
  | n + 1 => do
    match ← advance with
    | some _ => advanceTimes n
    | none => return false

/-- Passes what follows a backslash and tells whether the text was long enough. -/
def escapeBody : Walk Bool := do
  match ← peek 0 with
  | none => return false
  | some 'u' =>
    advanceWhile (· == 'u')
    advanceTimes 4
  | some _ =>
    let _ ← advance
    return true

/-- One turn through a string literal that began at an offset, with what it comes to if it is not closed. -/
def stringTurn (start : Nat) (unclosed : Except LexicalError (List Char)) :
    Walk (ForInStep (Except LexicalError (List Char))) := do
  match ← peek 0 with
  | some '"' =>
    let _ ← advance
    return .done (.ok (← sliceFrom start))
  | some '\\' =>
    let _ ← advance
    let _ ← escapeBody
    return .yield unclosed
  | some c =>
    if Text.isLineBreak c then return .done unclosed
    else
      let _ ← advance
      return .yield unclosed
  | none => return .done unclosed

/-- Reads a string literal. -/
def readString : Walk (Except LexicalError (List Char)) := do
  let start ← offset
  let _ ← advance
  turns (stringTurn start) (.error .unterminatedString)

/-- Passes a word that a single quote closes. -/
def skipUnclosedWord : Walk Unit := do
  let rest ← ahead
  let wordBytes := Text.byteLength (rest.takeWhile Word.isPart)
  match Text.slice? rest wordBytes (Text.byteLength rest) with
  | some ('\'' :: _) => jump (wordBytes + 1)
  | some _ => return ()
  | none => throw .offBoundary

/-- Reads the end of a character literal that began at an offset, behind its one item. -/
def closeChar (start : Nat) : Walk (Except LexicalError (List Char)) := do
  if ← eatAny ['\''] then return .ok (← sliceFrom start)
  else
    skipUnclosedWord
    return .error .unterminatedChar

/-- Reads a character literal. -/
def readChar : Walk (Except LexicalError (List Char)) := do
  let start ← offset
  let _ ← advance
  match ← peek 0 with
  | none => return .error .unterminatedChar
  | some '\'' =>
    let _ ← advance
    return .error .unterminatedChar
  | some '\\' =>
    let _ ← advance
    if (← peek 0).any Text.isLineBreak then return .error .unterminatedChar
    else if ← escapeBody then closeChar start
    else return .error .unterminatedChar
  | some c =>
    if Text.isLineBreak c then return .error .unterminatedChar
    else
      let _ ← advance
      closeChar start

/-! ## Tokens -/

/-- The kind and the value of what was read of a quoted literal. -/
def literalOrError : Except LexicalError (List Char) → TokenKind × String
  | .ok text => (.literal (LiteralType.ofText text), String.ofList text)
  | .error reason => (.error reason, reason.message)

/-- Reads the kind and the value of a token behind the trivia, absent at the end of the text. -/
def readToken (v : Vocabulary) : Walk (Option (TokenKind × String)) := do
  match ← peek 0 with
  | none => return none
  | some c =>
    if Word.isStart c then
      let word ← readWord
      return some (v.kindOfWord word, String.ofList word)
    else if c.isDigit then
      let text ← readNumeral
      return some (.literal (LiteralType.ofText text), String.ofList text)
    else if c == '"' then return some (literalOrError (← readString))
    else if c == '\'' then return some (literalOrError (← readChar))
    else
      match v.searchSymbol? (← ahead) with
      | some (kind, symbol) =>
        jump symbol.utf8ByteSize
        return some (kind, symbol)
      | none =>
        let _ ← advance
        return some (.error .unrecognisedCharacter, String.singleton c)

end Walk

/-- A cursor in a text that is being cut into tokens. -/
structure Scanner where
  vocabulary : Vocabulary
  text : List Char
  /-- The bytes in front of the cursor. -/
  offset : Nat
  /-- Whether a token was cut before. -/
  started : Bool
  /-- The token that marks the end, once it was reached. -/
  finished? : Option Token

namespace Scanner

/-- The scanner in front of a text. -/
def start (vocabulary : Vocabulary) (text : List Char) : Scanner where
  vocabulary := vocabulary
  text := text
  offset := 0
  started := false
  finished? := none

/-- What a step of a scanner comes to: a token, the scanner behind it, and where the cursor was moved to in
the trivia and in the token, the last first. -/
structure Step where
  token : Token
  after : Scanner
  gap : List Nat
  body : List Nat

/-- The next token, and the scanner behind it. At the end of the text the same token comes every time. -/
def next (s : Scanner) : Except Stumble Step := do
  match s.finished? with
  | some last => return ⟨last, s, [], []⟩
  | none =>
    let (sawLineEnd, gap) ← Walk.skipTrivia s.text ⟨s.offset, []⟩
    let startsLine := sawLineEnd || !s.started
    let (read?, body) ← Walk.readToken s.vocabulary s.text ⟨gap.offset, []⟩
    match read? with
    | none =>
      let last : Token := ⟨.endOfInput, "", ⟨gap.offset, gap.offset⟩, startsLine⟩
      return ⟨last, { s with offset := gap.offset, started := true, finished? := some last },
        gap.trail, body.trail⟩
    | some (kind, value) =>
      return ⟨⟨kind, value, ⟨gap.offset, body.offset⟩, startsLine⟩,
        { s with offset := body.offset, started := true }, gap.trail, body.trail⟩

/-- The scanner behind so many tokens. -/
def run (s : Scanner) : Nat → Except Stumble Scanner
  | 0 => return s
  | tokens + 1 => do return (← (← s.run tokens).next).after

end Scanner

end Lexis
