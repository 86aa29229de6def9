import Lexis.Proofs.Lexer.Partition

/-!
# Trivia is immaterial but for line ends

A gap in its shortest form is a line end if one stands in the gap, and otherwise a blank. When every gap
between the tokens of a text is written in this form, the tokens stay the same, apart from where they
stand: kinds, values and line starts are kept.

The proof compares the pieces of the two texts. Behind a lexeme they go on alike up to the first gap,
and there the shortest form stands in for the gap (`StandsInFor`), which is all that a lexeme can see.
-/

set_option autoImplicit false

namespace Lexis

namespace Trivia

/-- The shortest form of a gap. -/
def condense (gap : List Char) : List Char :=
  if gap.isEmpty then [] else if gap.any Text.isLineBreak then ['\n'] else [' ']

theorem any_condense (gap : List Char) :
    (condense gap).any Text.isLineBreak = gap.any Text.isLineBreak := by
  unfold condense
  split
  · next none => rw [List.isEmpty_iff.mp none]
  · split
    · next line => rw [line]; decide
    · next line => rw [Bool.not_eq_true] at line; rw [line]; decide

theorem before_condense (gap rest : List Char) : Before (condense gap) rest := by
  unfold condense
  split
  · exact .nil
  · split
    · exact .lineBreak rfl .nil
    · exact .blank rfl .nil

/-- Trivia begins with one of the characters that begin trivia. -/
theorem Before.opener {gap rest : List Char} (h : Before gap rest) :
    gap.head?.all isOpener = true := by
  cases h with
  | nil => rfl
  | blank blank _ => simp [isOpener, isSpace, blank]
  | lineBreak breaks _ => simp [isOpener, isSpace, breaks]
  | lineComment _ _ _ => rfl
  | blockComment _ _ => rfl
  | openComment _ => rfl

/-- The shortest form of a gap may take the place of the gap. -/
theorem condense_standsIn {gap : List Char} (nonempty : gap ≠ [])
    (opener : gap.head?.all isOpener = true) (rest rest' : List Char) :
    StandsInFor (condense gap ++ rest') (gap ++ rest) := by
  obtain ⟨c, gap, rfl⟩ := List.exists_cons_of_ne_nil nonempty
  refine ⟨opener, ?_, fun ended => ?_⟩
  · unfold condense
    simp only [List.isEmpty_cons, Bool.false_eq_true, if_false]
    split <;> rfl
  · have line : (c :: gap).any Text.isLineBreak = true := by
      have : Text.isLineBreak c = true := ended
      rw [List.any_cons, this, Bool.true_or]
    simp only [condense, List.isEmpty_cons, Bool.false_eq_true, if_false, line, if_true]
    rfl

end Trivia

/-- A piece with its gap in the shortest form. -/
def Piece.condensed (p : Piece) : Piece := ⟨Trivia.condense p.gap, p.lexeme⟩

/-- A token but for where it stands. -/
def Token.unplaced (t : Token) : TokenKind × String × Bool := (t.kind, t.value, t.startsLine)

/-- The tokens of pieces in their shortest form differ in nothing but their spans. -/
theorem unplaced_tokensAlong (pieces : List Piece) (last : List Char) (offset offset' : Nat)
    (started : Bool) :
    (tokensAlong offset' started (pieces.map Piece.condensed) (Trivia.condense last)).map
        Token.unplaced =
      (tokensAlong offset started pieces last).map Token.unplaced := by
  induction pieces generalizing offset offset' started with
  | nil => simp [tokensAlong, endToken, Token.unplaced, Trivia.any_condense]
  | cons p pieces ih =>
    have first : (p.condensed.token offset' started).unplaced = (p.token offset started).unplaced := by
      simp only [Token.unplaced, Piece.token, Piece.condensed, Trivia.any_condense]
    rw [List.map_cons, tokensAlong, tokensAlong, List.map_cons, List.map_cons, first, ih]

namespace Cut

variable {v : Vocabulary} {text last : List Char} {pieces : List Piece}

/-- The text of pieces in their shortest form. -/
private def condensedText (pieces : List Piece) (last : List Char) : List Char :=
  (pieces.map Piece.condensed).flatMap Piece.text ++ Trivia.condense last

private theorem condensedText_cons (gap : List Char) (lexeme : Lexeme) (pieces : List Piece)
    (last : List Char) :
    condensedText (⟨gap, lexeme⟩ :: pieces) last =
      Trivia.condense gap ++ (lexeme.text ++ condensedText pieces last) := by
  simp [condensedText, Piece.condensed, Piece.text]

/-- A text and its shortest form are alike up to the first gap. -/
private theorem exists_common (cut : Cut v text pieces last) :
    ∃ front behind behind', text = front ++ behind ∧ condensedText pieces last = front ++ behind' ∧
      (behind = [] ∧ behind' = [] ∨ behind ≠ [] ∧ StandsInFor behind' behind) := by
  induction cut with
  | @last gap trivia =>
    by_cases none : gap = []
    · subst none
      exact ⟨[], [], [], rfl, rfl, .inl ⟨rfl, rfl⟩⟩
    · have before : Trivia.Before gap [] := Trivia.before_of_length (by rwa [List.append_nil])
      have stands := Trivia.condense_standsIn none before.opener [] []
      rw [List.append_nil, List.append_nil] at stands
      exact ⟨[], gap, Trivia.condense gap, rfl, rfl, .inr ⟨none, stands⟩⟩
  | @piece gap rest lexeme pieces last trivia _ _ ih =>
    rw [condensedText_cons]
    by_cases none : gap = []
    · subst none
      obtain ⟨front, behind, behind', split, split', alike⟩ := ih
      refine ⟨lexeme.text ++ front, behind, behind', ?_, ?_, alike⟩
      · rw [split]
        simp
      · rw [split']
        simp [Trivia.condense]
    · have opener := (Trivia.before_of_length trivia).opener
      exact ⟨[], _, _, rfl, rfl, .inr ⟨by simp [none], Trivia.condense_standsIn none opener _ _⟩⟩

/-- **The shortest form of a text is cut into the same lexemes.** -/
theorem condensed (unspaced : v.Unspaced) (cut : Cut v text pieces last) :
    Cut v (condensedText pieces last) (pieces.map Piece.condensed) (Trivia.condense last) := by
  induction cut with
  | @last gap trivia =>
    have taken : Trivia.length (Trivia.condense gap) = (Trivia.condense gap).length := by
      simpa using (Trivia.before_condense gap []).length_eq rfl
    exact .last taken
  | @piece gap rest lexeme pieces last trivia found cut ih =>
    -- up to the next gap the two texts agree, and there one stands in for the other
    obtain ⟨front, behind, behind', split, split', alike⟩ := cut.exists_common
    have nonempty : lexeme.text ++ front ≠ [] := by simp [Lexeme.text_ne_nil found]
    have start : Trivia.item (lexeme.text ++ rest) = 0 := Trivia.item_of_length trivia
    rw [split, ← List.append_assoc] at found start
    have again : Trivia.item ((lexeme.text ++ front) ++ behind') = 0 ∧
        Lexeme.first? v ((lexeme.text ++ front) ++ behind') = some lexeme := by
      rcases alike with ⟨rfl, rfl⟩ | ⟨more, stands⟩
      · exact ⟨start, found⟩
      · refine ⟨Trivia.item_append_eq_zero nonempty start stands.space, ?_⟩
        exact Lexeme.first?_standsIn unspaced stands found (by simp) fun nothing => absurd nothing more
    rw [List.append_assoc, ← split'] at again
    rw [condensedText_cons, List.map_cons]
    exact .piece ((Trivia.before_condense gap _).length_eq again.1) again.2 ih

end Cut

/-- **Trivia is immaterial but for line ends.** The text with all gaps between its tokens in their
shortest form has the same tokens, apart from where they stand. -/
theorem tokenize_condensed (text : List Char) :
    ∃ condensed, regapped Trivia.condense text 0 (tokenize text) = some condensed ∧
      (tokenize condensed).map Token.unplaced = (tokenize text).map Token.unplaced := by
  obtain ⟨pieces, last, cut⟩ := Cut.exists_cut Vocabulary.java text
  have short := cut.condensed Vocabulary.unspaced_java
  have rewritten := cut.regapped_eq Trivia.condense
  have same : pieces.flatMap (fun p => Trivia.condense p.gap ++ p.lexeme.text) ++
      Trivia.condense last = Cut.condensedText pieces last := by
    simp [Cut.condensedText, List.flatMap_map, Piece.condensed, Piece.text]
  rw [same] at rewritten
  refine ⟨_, rewritten, ?_⟩
  rw [tokenize, tokenize, short.tokensOf_eq, cut.tokensOf_eq]
  exact unplaced_tokensAlong pieces last 0 0 false

end Lexis
