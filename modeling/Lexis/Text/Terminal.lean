/-!
# Texts and terminals

A terminal takes some characters as commands: controls, and sequences that an escape opens, of which
two show a text in bold or as a heading. A text for a reader that is no terminal is stripped of them; a
text that might hold foreign ones shows them by their numbers instead.
-/

set_option autoImplicit false

namespace Lexis.Text

/-- A text that a terminal shows in bold. -/
def bold (s : String) : String := "\x1b[1m" ++ s ++ "\x1b[0m"

/-- A text that a terminal shows in bold and underlined. -/
def heading (s : String) : String := "\x1b[1m\x1b[4m" ++ s ++ "\x1b[0m"

/-- A control that moves to another place as a space or a line end does. -/
def isBlankControl (c : Char) : Bool := c == '\t' || c == '\n' || c == '\x0c' || c == '\r'

/-- What a terminal is in the middle of. -/
inductive Reception where
  /-- Text to show. -/
  | text
  /-- A sequence of which only the escape was read. -/
  | escape
  /-- A short sequence, which its first character from `0` on ends. -/
  | short
  /-- A sequence with parameters, which its first character from `@` on ends. -/
  | parameters
  /-- A command to the system, which a bell ends. -/
  | system
  /-- A command to the device of which nothing else was read. -/
  | device
  /-- The parameters of a command to the device. -/
  | deviceParameters
  /-- What stands between the parameters and the name of a command to the device. -/
  | deviceIntermediates
  /-- The data of a command to the device or a string of another kind, which the byte 9C ends. -/
  | string
deriving DecidableEq

namespace Reception

/-- What a terminal is in the middle of after a character, and whether the character shows. -/
def next (r : Reception) (c : Char) : Reception × Bool :=
  if c == '\x18' || c == '\x1a' then (.text, false)
  else if c == '\x1b' then (.escape, false)
  else
    match r with
    | .text => (.text, isBlankControl c || (' ' ≤ c && c != '\x7f'))
    | .escape =>
      if ' ' ≤ c && c ≤ '/' then (.short, false)
      else if c == '[' then (.parameters, false)
      else if c == ']' then (.system, false)
      else if c == 'P' then (.device, false)
      else if c == 'X' || c == '^' || c == '_' then (.string, false)
      else if '0' ≤ c && c ≤ '~' then (.text, false)
      else (.escape, isBlankControl c)
    | .short => if '0' ≤ c && c ≤ '~' then (.text, false) else (.short, isBlankControl c)
    | .parameters => if '@' ≤ c && c ≤ '~' then (.text, false) else (.parameters, isBlankControl c)
    | .system => if c == '\x07' then (.text, false) else (.system, false)
    | .device =>
      if ' ' ≤ c && c ≤ '/' then (.deviceIntermediates, false)
      else if '0' ≤ c && c ≤ '?' then (.deviceParameters, false)
      else if '@' ≤ c && c ≤ '~' then (.string, false)
      else (.device, false)
    | .deviceParameters =>
      if ' ' ≤ c && c ≤ '/' then (.deviceIntermediates, false)
      else if '<' ≤ c && c ≤ '~' then (.string, false)
      else (.deviceParameters, false)
    | .deviceIntermediates =>
      if '0' ≤ c && c ≤ '~' then (.string, false) else (.deviceIntermediates, false)
    | .string => if (String.utf8EncodeChar c).contains 0x9C then (.text, false) else (.string, false)

end Reception

/-- A text that is being stripped: what shows of it, and where a terminal would be. -/
structure Stripping where
  reception : Reception
  /-- Whether the last character shows. What follows one in the middle of a sequence shows as text does,
  until a control resumes the sequence. -/
  showing : Bool
  shown : String

/-- Strips one more character. -/
def Stripping.push (s : Stripping) (c : Char) : Stripping :=
  if s.showing && (Reception.text.next c).2 then
    ⟨if c.toNat < 128 then s.reception else .text, true, s.shown.push c⟩
  else
    let (reception, shows) := s.reception.next c
    ⟨reception, shows, if shows then s.shown.push c else s.shown⟩

/-- A text without what a terminal takes as commands. -/
def strip (s : String) : String := (s.toList.foldl Stripping.push ⟨.text, false, ""⟩).shown

/-- A character, or its number if a terminal might take it as a command. -/
def defuseChar (c : Char) : String :=
  match c with
  | '\x07' => "\\x07"
  | '\x08' => "\\x08"
  | '\x0c' => "\\x0c"
  | '\x1b' => "\\x1b"
  | '\x7f' => "\\x7f"
  | c =>
    if 0x80 ≤ c.toNat && c.toNat < 0xA0 then
      "\\u\x7b" ++ String.ofList (Nat.toDigits 16 c.toNat) ++ "\x7d"
    else c.toString

/-- A text in which the characters that might be commands to a terminal are shown by their numbers. -/
def defuse (s : String) : String :=
  s.toList.foldl (fun defused c => defused ++ defuseChar c) ""

end Lexis.Text
