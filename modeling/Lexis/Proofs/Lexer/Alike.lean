import Lexis.Proofs.Lexer.Cut
import Lexis.Proofs.Scan.LongestMatch

/-!
# A vocabulary acts through its sets

A lexer asks its vocabulary for the kind of a word and for the longest symbol at the front of a text, and
for nothing else. Two vocabularies that answer both alike cut every text alike (`Answering.tokensOf_eq`).
So of the four lists that a vocabulary is made from, order, repetition and empty strings have no effect
on the tokens of any text.
-/

set_option autoImplicit false

namespace Lexis

/-- Two vocabularies give every word the same kind, and find the same symbol at the front of every
text. -/
structure Answering (v w : Vocabulary) : Prop where
  word : ∀ word : List Char, word ≠ [] → v.kindOfWord word = w.kindOfWord word
  symbol : ∀ cs, v.symbolAt? cs = w.symbolAt? cs

namespace Answering

variable {v w : Vocabulary}

theorem before (alike : Answering v w) {lexeme : Lexeme} {rest : List Char}
    (before : Lexeme.Before v lexeme rest) : Lexeme.Before w lexeme rest := by
  cases before with
  | word start size =>
    rw [alike.word _ (List.cons_ne_nil _ _)]
    exact .word start size
  | numeral start digit size => exact .numeral start digit size
  | string read => exact .string read
  | char read => exact .char read
  | symbol unmarked spelled found => exact .symbol unmarked spelled (alike.symbol _ ▸ found)
  | unrecognised unmarked none => exact .unrecognised unmarked (alike.symbol _ ▸ none)

/-- A text is cut in the same way. -/
theorem cut (alike : Answering v w) {text last : List Char} {pieces : List Piece}
    (cut : Cut v text pieces last) : Cut w text pieces last := by
  induction cut with
  | last trivia => exact .last trivia
  | piece trivia found _ ih =>
    obtain ⟨rest, split, before⟩ := Lexeme.exists_before found
    refine .piece trivia ?_ ih
    rw [split]
    exact (alike.before before).first?_eq

/-- **Vocabularies that answer alike have the same tokens.** -/
theorem tokensOf_eq (alike : Answering v w) (text : List Char) : tokensOf v text = tokensOf w text := by
  obtain ⟨pieces, last, cut⟩ := Cut.exists_cut v text
  rw [cut.tokensOf_eq, (alike.cut cut).tokensOf_eq]

end Answering

namespace Vocabulary

open Symbols (Alike)

/-- Vocabularies from lists with the same members answer alike. -/
theorem answering_ofLists {keywords literalWords operators separators keywords' literalWords'
    operators' separators' : List String} (hk : Alike keywords keywords')
    (hl : Alike literalWords literalWords') (ho : Alike operators operators')
    (hs : Alike separators separators') :
    Answering (ofLists keywords literalWords operators separators)
      (ofLists keywords' literalWords' operators' separators') where
  word word nonempty := by
    have spelled : String.ofList word ≠ "" := by
      simpa using nonempty
    have same : ∀ {list list' : List String}, Alike list list' →
        list.contains (String.ofList word) = list'.contains (String.ofList word) := by
      intro list list' alike
      rw [Bool.eq_iff_iff, List.contains_iff_mem, List.contains_iff_mem]
      exact alike _ spelled
    unfold kindOfWord isKeyword isLiteralWord ofLists
    rw [same hk, same hl]
  symbol cs := by
    simp only [symbolAt?, ofLists, ho.longestPrefix?_eq cs, hs.longestPrefix?_eq cs]

/-- **A vocabulary acts through its sets.** Its symbols sort the lists that it is made from, its
predicates say what is in the lists, and a vocabulary from four lists with the same members, but for the
empty string, cuts every text into the same tokens. -/
theorem ofLists_acts_by_sets (keywords literalWords operators separators : List String) :
    (ofLists keywords literalWords operators separators).operators.Sorts operators ∧
      (ofLists keywords literalWords operators separators).separators.Sorts separators ∧
      (∀ word, (ofLists keywords literalWords operators separators).isKeyword word = true ↔
        word ∈ keywords) ∧
      (∀ word, (ofLists keywords literalWords operators separators).isLiteralWord word = true ↔
        word ∈ literalWords) ∧
      ∀ keywords' literalWords' operators' separators', Alike keywords keywords' →
        Alike literalWords literalWords' → Alike operators operators' →
        Alike separators separators' → ∀ text,
        tokensOf (ofLists keywords literalWords operators separators) text =
          tokensOf (ofLists keywords' literalWords' operators' separators') text :=
  ⟨Symbols.sorts_ofList operators, Symbols.sorts_ofList separators,
    fun _ => List.contains_iff_mem, fun _ => List.contains_iff_mem,
    fun _ _ _ _ hk hl ho hs text => (answering_ofLists hk hl ho hs).tokensOf_eq text⟩

end Vocabulary

end Lexis
