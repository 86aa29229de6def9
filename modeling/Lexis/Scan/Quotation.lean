import Lexis.Scan.Trivia
import Lexis.Text.Line

/-!
# Quoted literals

String and character literals stand between quotes and share their escapes: a backslash and one
character, or a backslash, one or more letters `u`, and four characters of any kind. A string holds
items up to its closing quote and never runs over a line end that no backslash escapes. A character
literal holds one item. What goes wrong in either leaves a reading that is not closed; its length says
where the scan goes on.
-/

set_option autoImplicit false

namespace Lexis.Quotation

/-- What was read of a quoted literal: its length with the quotes, and whether it was closed. -/
structure Reading where
  length : Nat
  closed : Bool
deriving DecidableEq

/-- What follows a backslash, nothing when the text ends inside it. -/
def escapeBody : Munch
  | 'u' :: cs =>
    let marks := Munch.run (· == 'u') cs
    if (cs.drop (marks + 3)).isEmpty then 0 else marks + 5
  | _ :: _ => 1
  | [] => 0

/-- A backslash and what follows it, nothing when the text ends inside it. -/
def escape : Munch
  | '\\' :: cs =>
    match escapeBody cs with
    | 0 => 0
    | n + 1 => n + 2
  | _ => 0

/-- One item of a string: an escape, or a character that is neither a quote nor a line end. -/
def stringItem : Munch :=
  escape.orElse (Munch.one fun c => !(c == '"' || c == '\\' || Text.isLineBreak c))

/-- Reads a string literal behind its opening quote. A line end stops it; an escape that the text cuts
short takes everything. -/
def readString (cs : List Char) : Reading :=
  let body := Munch.many stringItem cs
  match cs.drop body with
  | [] => ⟨body + 1, false⟩
  | c :: rest =>
    if c == '"' then ⟨body + 2, true⟩
    else if Text.isLineBreak c then ⟨body + 1, false⟩
    else ⟨body + rest.length + 2, false⟩

/-- Reads what follows the one item of a character literal, whose length is given: the closing quote,
or a word that a quote closes, which belongs to the error. -/
def closeChar (item : Nat) (rest : List Char) : Reading :=
  let word := Word.length rest
  match rest.drop word with
  | '\'' :: _ => ⟨item + word + 2, word == 0⟩
  | _ => ⟨item + 1, false⟩

/-- Reads a character literal behind its opening quote. -/
def readChar : List Char → Reading
  | [] => ⟨1, false⟩
  | c :: cs =>
    if c == '\'' then ⟨2, false⟩
    else if Text.isLineBreak c then ⟨1, false⟩
    else if c == '\\' then
      if cs.head?.all Text.isLineBreak then ⟨2, false⟩
      else
        match escape (c :: cs) with
        | 0 => ⟨cs.length + 2, false⟩
        | item + 1 => closeChar (item + 1) (cs.drop item)
    else closeChar 1 cs

theorem readString_length_pos (cs : List Char) : 0 < (readString cs).length := by
  unfold readString
  simp only
  split
  · exact Nat.succ_pos _
  · split
    · exact Nat.succ_pos _
    · split <;> exact Nat.succ_pos _

private theorem closeChar_length_pos (item : Nat) (rest : List Char) :
    0 < (closeChar item rest).length := by
  unfold closeChar
  simp only
  split <;> exact Nat.succ_pos _

theorem readChar_length_pos (cs : List Char) : 0 < (readChar cs).length := by
  unfold readChar
  split
  · exact Nat.one_pos
  · split
    · exact Nat.succ_pos _
    · split
      · exact Nat.one_pos
      · split
        · split
          · exact Nat.succ_pos _
          · split
            · exact Nat.succ_pos _
            · exact closeChar_length_pos _ _
        · exact closeChar_length_pos _ _

end Lexis.Quotation
