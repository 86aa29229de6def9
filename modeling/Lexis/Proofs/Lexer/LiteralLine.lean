import Lexis.Proofs.Lexer.Literal
import Lexis.Proofs.Scan.Shielded

/-!
# Lines of quoted literals

A quoted literal belongs to one line of the text, but for line ends that an escape takes along
(`lineEnds_tokenize`). So the line end behind a literal that was not closed is left to the next token,
which starts a line. A `\u` escape is the way around that: it takes any four characters, and with a line
end among them the literal goes on in the next line (`lineEnds_tokenize_openChar`).
-/

set_option autoImplicit false

namespace Lexis

open Quotation (LineEndsBehind StringFront UnicodeFront)

namespace LiteralType

theorem ofMarks_ne_char (cs : List Char) : ofMarks cs ≠ .char := by
  unfold ofMarks ofHexMarks ofDecimalMarks
  repeat' split
  all_goals simp

/-- Only what begins with an apostrophe should be a character. -/
theorem head?_of_expected?_char {cs : List Char} (char : expected? cs = some .char) :
    cs.head? = some '\'' := by
  unfold expected? at char
  split at char
  · cases char
  · next c cs =>
    by_cases apostrophe : c = '\''
    · rw [apostrophe]
      rfl
    · simp only [apostrophe, beq_iff_eq, if_false] at char
      repeat' split at char
      all_goals simp [ofMarks_ne_char] at char

end LiteralType

namespace Lexeme

/-- The kinds of what begins with an apostrophe. -/
def IsChar (kind : TokenKind) : Prop := kind = .literal .char ∨ kind = .error .unterminatedChar

theorem kindOfWord_ne_error (v : Vocabulary) (word : List Char) (reason : LexicalError) :
    v.kindOfWord word ≠ .error reason := by
  unfold Vocabulary.kindOfWord
  repeat' split
  all_goals simp

/-- A character literal, closed or not, was read behind its apostrophe. -/
theorem Before.exists_readChar {lexeme : Lexeme} {rest : List Char}
    (before : Before Vocabulary.java lexeme rest) (char : IsChar lexeme.kind) :
    ∃ closed cs, lexeme.text = '\'' :: cs ∧
      Quotation.readChar (cs ++ rest) = ⟨cs.length + 1, closed⟩ := by
  have apostrophe : lexeme.kind = .literal .char → lexeme.text.head? = some '\'' :=
    fun literal => LiteralType.head?_of_expected?_char (before.expected?_eq literal)
  cases before with
  | @word c cs _ start _ =>
    rcases char with literal | error
    · obtain rfl : c = '\'' := by simpa using apostrophe literal
      exact absurd start (by decide)
    · exact absurd error (kindOfWord_ne_error _ _ _)
  | @numeral c cs _ _ digit _ =>
    rcases char with literal | error
    · obtain rfl : c = '\'' := by simpa using apostrophe literal
      exact absurd digit (by decide)
    · cases error
  | @string closed cs _ _ =>
    rcases char with literal | error
    · simpa using apostrophe literal
    · cases closed <;> cases error
  | @char closed cs _ read => exact ⟨closed, cs, quoted_text .., read⟩
  | symbol _ _ found => rcases kind_of_symbolAt? found with rfl | rfl <;> rcases char with h | h <;> cases h
  | unrecognised => rcases char with h | h <;> cases h

/-- A string that was not closed was read behind its quote. -/
theorem Before.exists_readString {v : Vocabulary} {lexeme : Lexeme} {rest : List Char}
    (before : Before v lexeme rest) (error : lexeme.kind = .error .unterminatedString) :
    ∃ cs, lexeme.text = '"' :: cs ∧ Quotation.readString (cs ++ rest) = ⟨cs.length + 1, false⟩ := by
  cases before with
  | word => exact absurd error (kindOfWord_ne_error _ _ _)
  | numeral => cases error
  | @string closed cs _ read =>
    cases closed with
    | false => exact ⟨cs, rfl, read⟩
    | true => cases error
  | @char closed cs _ _ => cases closed <;> cases error
  | symbol _ _ found => rcases kind_of_symbolAt? found with rfl | rfl <;> cases error
  | unrecognised => cases error

end Lexeme

/-- **A line end in a quoted literal is shielded by an escape.** A character literal, closed or not, holds
a line end only among the four characters of a `\u` escape; a string that was not closed holds one there
or directly behind the backslash of an escape. -/
theorem lineEnds_tokenize {text : List Char} {t : Token} (member : t ∈ tokenize text) :
    ∃ covered, t.span.slice? text = some covered ∧
      (t.kind = .literal .char ∨ t.kind = .error .unterminatedChar →
        LineEndsBehind (fun before => ∃ front, before = '\'' :: front ∧ UnicodeFront front) covered) ∧
      (t.kind = .error .unterminatedString →
        LineEndsBehind (fun before => ∃ front, before = '"' :: front ∧ StringFront front) covered) := by
  obtain ⟨pieces, last, cut⟩ := Cut.exists_cut Vocabulary.java text
  obtain ⟨covered, slice, which⟩ := (cut.covers member).exists_slice?
  refine ⟨covered, slice, fun char => ?_, fun error => ?_⟩
  · rcases which with ⟨p, among, rfl, kind, -⟩ | ⟨rfl, -, -⟩
    · obtain ⟨cs, found⟩ := cut.exists_first? among
      obtain ⟨rest, -, before⟩ := Lexeme.exists_before found
      obtain ⟨closed, inner, text, read⟩ := before.exists_readChar (kind ▸ char)
      rw [text]
      refine .cons (by decide) ?_
      exact (Quotation.lineEndsBehind_readChar read).imp fun front unicode => ⟨front, rfl, unicode⟩
    · exact .of_none (by simp)
  · rcases which with ⟨p, among, rfl, kind, -⟩ | ⟨rfl, -, -⟩
    · obtain ⟨cs, found⟩ := cut.exists_first? among
      obtain ⟨rest, -, before⟩ := Lexeme.exists_before found
      obtain ⟨inner, text, read⟩ := before.exists_readString (kind ▸ error)
      rw [text]
      refine .cons (by decide) ?_
      exact (Quotation.lineEndsBehind_readString read).imp fun front string => ⟨front, rfl, string⟩
    · exact .of_none (by simp)

/-- A character literal that was not closed takes the line end and the letter behind it for characters of
its escape. -/
theorem lineEnds_tokenize_openChar :
    let text := ['\'', '\\', 'u', '0', '0', '\n', 'x']
    let t : Token := ⟨.error .unterminatedChar, LexicalError.unterminatedChar.message, ⟨0, 7⟩, true⟩
    t ∈ tokenize text ∧ ∃ covered, t.span.slice? text = some covered ∧
      (t.kind = .literal .char ∨ t.kind = .error .unterminatedChar →
        LineEndsBehind (fun before => ∃ front, before = '\'' :: front ∧ UnicodeFront front) covered) ∧
      (t.kind = .error .unterminatedString →
        LineEndsBehind (fun before => ∃ front, before = '"' :: front ∧ StringFront front) covered) := by
  intro text t
  have member : t ∈ tokenize text := by decide +kernel
  exact ⟨member, lineEnds_tokenize member⟩

/-- A line end does not always stop a literal that was not closed: a `\u` escape takes it along, from a
character literal and from a string, and the token behind the character literal starts no line. -/
theorem openLiterals_over_lineEnd :
    (tokenize ['\'', '\\', 'u', '0', '0', '\n', 'x', '='] =
        [⟨.error .unterminatedChar, LexicalError.unterminatedChar.message, ⟨0, 7⟩, true⟩,
          ⟨.operator, "=", ⟨7, 8⟩, false⟩, ⟨.endOfInput, "", ⟨8, 8⟩, false⟩] ∧
      ∃ covered, (Span.mk 0 7).slice? ['\'', '\\', 'u', '0', '0', '\n', 'x', '='] = some covered ∧
        '\n' ∈ covered) ∧
    tokenize ['"', '\\', 'u', '0', '0', '\n', 'x'] =
        [⟨.error .unterminatedString, LexicalError.unterminatedString.message, ⟨0, 7⟩, true⟩,
          ⟨.endOfInput, "", ⟨7, 7⟩, false⟩] ∧
      ∃ covered, (Span.mk 0 7).slice? ['"', '\\', 'u', '0', '0', '\n', 'x'] = some covered ∧
        '\n' ∈ covered ∧ ¬ ['\\', '\n'] <:+: covered :=
  ⟨⟨by decide +kernel, _, rfl, by decide⟩, by decide +kernel, _, rfl, by decide, by decide⟩

end Lexis
