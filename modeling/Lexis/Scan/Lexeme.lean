import Lexis.Token
import Lexis.Vocabulary
import Lexis.Scan.Numeral
import Lexis.Scan.Quotation
import Lexis.Scan.Trivia

/-!
# Lexemes

A lexeme is the classified piece at the front of a text. Its first character decides how it is read: a
word, a numeral, a string, a character literal, or the longest symbol of the vocabulary. A character
that begins none of these is an error of its own. Every text but the empty one begins with a lexeme, and
a lexeme is never empty.
-/

set_option autoImplicit false

namespace Lexis

/-- The longest symbol at the front of a text with its kind. An operator wins against a separator of
the same length. -/
def Vocabulary.symbolAt? (v : Vocabulary) (cs : List Char) : Option (TokenKind × String) :=
  match v.operators.longestPrefix? cs, v.separators.longestPrefix? cs with
  | some operator, some separator =>
    if operator.utf8ByteSize < separator.utf8ByteSize then some (.separator, separator)
    else some (.operator, operator)
  | some operator, none => some (.operator, operator)
  | none, some separator => some (.separator, separator)
  | none, none => none

/-- The kind of a word. -/
def Vocabulary.kindOfWord (v : Vocabulary) (word : List Char) : TokenKind :=
  if v.isKeyword (String.ofList word) then .keyword
  else if v.isLiteralWord (String.ofList word) then .literal (LiteralType.ofText word)
  else .identifier

/-- A classified piece of text. -/
structure Lexeme where
  kind : TokenKind
  text : List Char
deriving DecidableEq

namespace Lexeme

/-- A literal with the given spelling. -/
def literal (text : List Char) : Lexeme := ⟨.literal (LiteralType.ofText text), text⟩

/-- The lexeme that a reading of a quoted literal at the front of a text amounts to. -/
def ofReading (cs : List Char) (otherwise : LexicalError) (r : Quotation.Reading) : Lexeme :=
  let text := cs.take r.length
  if r.closed then literal text else ⟨.error otherwise, text⟩

/-- The lexeme at the front of a text, absent when the text is empty. -/
def first? (v : Vocabulary) : List Char → Option Lexeme
  | [] => none
  | c :: cs =>
    let all := c :: cs
    if Word.isStart c then
      let word := all.take (Word.length all)
      some ⟨v.kindOfWord word, word⟩
    else if c.isDigit then
      some (literal (all.take (Numeral.length all)))
    else if c == '"' then
      some (ofReading all .unterminatedString (Quotation.readString cs))
    else if c == '\'' then
      some (ofReading all .unterminatedChar (Quotation.readChar cs))
    else
      match v.symbolAt? all with
      | some (kind, symbol) => some ⟨kind, symbol.toList⟩
      | none => some ⟨.error .unrecognisedCharacter, [c]⟩

/-- The value of the token that a lexeme becomes: its text, or the wording of the error where a literal
was not closed. -/
def value (lexeme : Lexeme) : String :=
  match lexeme.kind with
  | .error .unterminatedString => LexicalError.unterminatedString.message
  | .error .unterminatedChar => LexicalError.unterminatedChar.message
  | _ => String.ofList lexeme.text

private theorem take_ne_nil {n : Nat} {c : Char} {cs : List Char} (pos : 0 < n) :
    (c :: cs).take n ≠ [] := by
  cases n with
  | zero => exact absurd pos (Nat.lt_irrefl 0)
  | succ n => simp

private theorem symbolAt?_ne_empty {v : Vocabulary} {cs : List Char} {kind : TokenKind}
    {symbol : String} (found : v.symbolAt? cs = some (kind, symbol)) : symbol.toList ≠ [] := by
  have nonempty : ∀ (s : Symbols) (symbol : String), s.longestPrefix? cs = some symbol →
      symbol.toList ≠ [] := by
    intro s symbol h
    have member := List.find?_some h
    simp only [Bool.and_eq_true, Bool.not_eq_true', String.isEmpty_eq_false_iff] at member
    intro empty
    exact member.1 (String.toList_inj.mp empty)
  unfold Vocabulary.symbolAt? at found
  split at found
  · split at found
    · next h _ =>
      cases found
      exact nonempty _ _ ‹_›
    · cases found
      exact nonempty _ _ ‹_›
  · cases found
    exact nonempty _ _ ‹_›
  · cases found
    exact nonempty _ _ ‹_›
  · cases found

theorem ofReading_text (cs : List Char) (otherwise : LexicalError)
    (r : Quotation.Reading) : (ofReading cs otherwise r).text = cs.take r.length := by
  unfold ofReading
  simp only
  split <;> rfl

/-- **A lexeme is never empty.** -/
theorem text_ne_nil {v : Vocabulary} {cs : List Char} {lexeme : Lexeme}
    (found : first? v cs = some lexeme) : lexeme.text ≠ [] := by
  unfold first? at found
  split at found
  · cases found
  · next c cs =>
    simp only at found
    split at found
    · next start =>
      cases found
      exact take_ne_nil (Munch.run_pos cs (by simp [Word.isPart, start]))
    · split at found
      · next digit =>
        cases found
        exact take_ne_nil (Numeral.length_pos cs digit)
      · split at found
        · cases found
          rw [ofReading_text]
          exact take_ne_nil (Quotation.readString_length_pos cs)
        · split at found
          · cases found
            rw [ofReading_text]
            exact take_ne_nil (Quotation.readChar_length_pos cs)
          · split at found
            · next symbol =>
              cases found
              exact symbolAt?_ne_empty symbol
            · cases found
              exact List.cons_ne_nil _ _

/-- Only the empty text begins with no lexeme. -/
theorem first?_eq_none_iff {v : Vocabulary} {cs : List Char} : first? v cs = none ↔ cs = [] := by
  cases cs with
  | nil => simp [first?]
  | cons c cs =>
    simp only [first?, reduceCtorEq, iff_false]
    repeat' split
    all_goals exact Option.some_ne_none _

end Lexeme

end Lexis
