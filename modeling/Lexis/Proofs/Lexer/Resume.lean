import Lexis.Proofs.Lexer.Cut
import Lexis.Proofs.Text.Slice

/-!
# A lexer remembers nothing but its place

What remains of a lexer is what a lexer that starts in front of the rest of the text hands out, further
on and but for one flag: the first token that a lexer cuts starts a line. So a text can be read on from
the end of any of its tokens. Nothing of a token but its end has an effect on what is behind it, an error
as little as any other.
-/

set_option autoImplicit false

namespace Lexis

/-- Tokens as they come from a lexer that starts in front of them: the first starts a line. -/
def asFirst : List Token → List Token
  | [] => []
  | t :: tokens => { t with startsLine := true } :: tokens

/-- Whether a token was cut before shows in the first token only. -/
theorem asFirst_tokensAlong (pieces : List Piece) (last : List Char) (offset : Nat) (started : Bool) :
    asFirst (tokensAlong offset started pieces last) = tokensAlong offset false pieces last := by
  cases pieces with
  | nil => simp [tokensAlong, asFirst, endToken]
  | cons p pieces => simp [tokensAlong, asFirst, Piece.token]

/-- **What remains of a lexer depends on the rest of the text alone**, apart from where it stands and
from the first flag. -/
theorem Lexer.asFirst_remaining {l : Lexer} (running : l.finished? = none) :
    asFirst l.remaining = (tokensOf l.vocabulary l.rest).map (·.shift l.offset) := by
  obtain ⟨pieces, last, cut⟩ := Cut.exists_cut l.vocabulary l.rest
  rw [cut.remaining_eq rfl running rfl, cut.tokensOf_eq, asFirst_tokensAlong, shift_tokensAlong,
    Nat.zero_add]

/-- A token that does not mark the end has others behind it. -/
theorem drop_ne_nil {v : Vocabulary} {text : List Char} {k : Nat} {t : Token}
    (here : (tokensOf v text)[k]? = some t) (proper : t.kind ≠ .endOfInput) :
    (tokensOf v text).drop (k + 1) ≠ [] := by
  obtain ⟨pieces, last, cut⟩ := Cut.exists_cut v text
  intro nothing
  have final : (tokensOf v text).getLast? = some t := by
    have size : (tokensOf v text).length ≤ k + 1 := List.drop_eq_nil_iff.mp nothing
    have inside : k < (tokensOf v text).length := (List.getElem?_eq_some_iff.mp here).1
    rw [List.getLast?_eq_getElem?, ← here]
    congr 1
    omega
  rw [cut.tokensOf_eq, tokensAlong_eq, List.getLast?_concat] at final
  exact proper (Option.some.inj final ▸ rfl)

/-- **A text can be read on from the end of any token.** A lexer that starts there hands out the tokens
that are behind it. -/
theorem tokensOf_behind (v : Vocabulary) (text : List Char) (k : Nat) (t : Token)
    (here : (tokensOf v text)[k]? = some t) (proper : t.kind ≠ .endOfInput) :
    ∃ rest, Text.slice? text t.span.stop (Text.byteLength text) = some rest ∧
      (tokensOf v rest).map (·.shift t.span.stop) = asFirst ((tokensOf v text).drop (k + 1)) := by
  obtain ⟨pieces, last, cut⟩ := Cut.exists_cut v text
  have split : tokensAlong 0 false pieces last =
      (tokensOf v text).take k ++ t :: (tokensOf v text).drop (k + 1) := by
    obtain ⟨inside, rfl⟩ := List.getElem?_eq_some_iff.mp here
    rw [List.getElem_cons_drop, List.take_append_drop, cut.tokensOf_eq]
  obtain ⟨front, rest, left, whole, stop, behind, tokens⟩ :=
    cut.exists_behind [] (drop_ne_nil here proper) split
  obtain rfl : text = front ++ rest := whole
  refine ⟨rest, ?_, ?_⟩
  · have slice := Text.slice?_byteLength front rest []
    rwa [List.append_nil, ← Text.byteLength_append, stop] at slice
  · -- the lexer behind the token has the rest of the text in front of it
    let l : Lexer := ⟨v, rest, t.span.stop, true, none⟩
    have remaining : l.remaining = (tokensOf v (front ++ rest)).drop (k + 1) :=
      (behind.remaining_eq rfl rfl rfl).trans tokens.symm
    rw [← remaining, l.asFirst_remaining rfl]

/-- Behind a character literal that was not closed, the text is read on as if nothing had been in front:
what is left of the word is a token. -/
theorem tokensOf_behind_openChar :
    (tokensOf Vocabulary.java ['\'', 'a', 'b', '\n', '1'])[0]? =
        some ⟨.error .unterminatedChar, LexicalError.unterminatedChar.message, ⟨0, 2⟩, true⟩ ∧
      ∃ rest, Text.slice? ['\'', 'a', 'b', '\n', '1'] 2 5 = some rest ∧
        (tokensOf Vocabulary.java rest).map (·.shift 2) =
          asFirst ((tokensOf Vocabulary.java ['\'', 'a', 'b', '\n', '1']).drop 1) := by
  have here : (tokensOf Vocabulary.java ['\'', 'a', 'b', '\n', '1'])[0]? =
      some ⟨.error .unterminatedChar, LexicalError.unterminatedChar.message, ⟨0, 2⟩, true⟩ := by
    decide +kernel
  exact ⟨here, tokensOf_behind _ _ _ _ here (by decide)⟩

end Lexis
