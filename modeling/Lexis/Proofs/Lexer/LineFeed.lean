import Lexis.Proofs.Lexer.Cut

/-!
# A line feed is a place to go on from

What stands behind a line feed is cut as if it were a text of its own, with spans further on. Two things
may reach across: a comment between marks that is still open, and a literal that the end of the text leaves
open while it holds a backslash. In front of a line feed every other lexeme ends as it ends in front of
the end of the text, and so does every other item of trivia.

The last token of a text and the trivia behind it are read off the tokens (`lastToken?`, `lastGap?`).
The proof puts the pieces of the second text behind those of the first (`Cut.exists_lineFeed`): the
trivia in between grows by the line feed, which is why the first token behind it starts a line.
-/

set_option autoImplicit false

namespace Lexis

/-- The tokens of a text but for the one that marks its end. -/
def properTokens (text : List Char) : List Token :=
  (tokenize text).filter fun t => !t.isEndOfInput

/-- The last token of a text that does not mark its end. -/
def lastToken? (text : List Char) : Option Token := (properTokens text).getLast?

/-- The trivia at the end of a text, behind the last token. -/
def lastGap? (text : List Char) : Option (List Char) :=
  Text.slice? text ((lastToken? text).elim 0 (·.span.stop)) (Text.byteLength text)

/-- A text whose last trivia ends inside a comment that nothing closes. -/
def EndsInComment (text : List Char) : Prop :=
  ∃ gap, lastGap? text = some gap ∧ Trivia.EndsOpen gap

/-- A text that ends with a literal that was not closed and holds a backslash. -/
def EndsInEscapes (text : List Char) : Prop :=
  ∃ t covered, lastToken? text = some t ∧ Lexeme.Unclosed t.kind ∧
    t.span.stop = Text.byteLength text ∧ t.span.slice? text = some covered ∧ '\\' ∈ covered

/-- **Two texts are cut apart** by a line feed: the tokens of the first come first, and those of the
second follow, further on but otherwise unchanged. -/
def CutApart (a b : List Char) : Prop :=
  tokenize (a ++ '\n' :: b) =
    properTokens a ++ (tokenize b).map (·.shift (Text.byteLength a + 1))

/-! ## The last token -/

/-- The token of the last piece comes last. -/
theorem tokens_concat (pieces : List Piece) (p : Piece) (offset : Nat) (started : Bool) :
    Piece.tokens offset started (pieces ++ [p]) =
      Piece.tokens offset started pieces ++
        [p.token (offset + Text.byteLength (pieces.flatMap Piece.text))
          (started || !pieces.isEmpty)] := by
  induction pieces generalizing offset started with
  | nil => simp [Piece.tokens]
  | cons q pieces ih =>
    rw [List.cons_append, Piece.tokens, ih, List.flatMap_cons, Text.byteLength_append, Nat.add_assoc,
      Piece.tokens]
    simp

namespace Cut

variable {v : Vocabulary} {a b text last last' : List Char} {pieces pieces' : List Piece} {p : Piece}

/-! ## Trivia in front of a text that is cut -/

/-- Trivia in which a line ends may stand in front of a text that is cut. The tokens are those of a
text that begins behind it. -/
theorem exists_grown {gap : List Char} (cut : Cut v text pieces last)
    (before : Trivia.Before gap text) (line : gap.any Text.isLineBreak = true) :
    ∃ grown last', Cut v (gap ++ text) grown last' ∧ ∀ offset started,
      tokensAlong offset started grown last' =
        tokensAlong (offset + Text.byteLength gap) false pieces last := by
  cases cut with
  | last trivia =>
    have alone : Trivia.Before text [] := Trivia.before_of_length (by rwa [List.append_nil])
    have whole : Trivia.Before (gap ++ text) [] := Trivia.Before.append (by rwa [List.append_nil]) alone
    have taken := whole.length_eq rfl
    rw [List.append_nil] at taken
    refine ⟨[], gap ++ text, .last taken, ?_⟩
    intro offset started
    simp only [tokensAlong, endToken, Text.byteLength_append, List.any_append, line, Nat.add_assoc,
      Bool.true_or, Bool.not_false, Bool.or_true]
  | @piece gap' rest lexeme pieces last trivia found cut =>
    have whole : Trivia.Before (gap ++ gap') (lexeme.text ++ rest) :=
      before.append (Trivia.before_of_length trivia)
    have taken := whole.length_eq (Trivia.item_of_length trivia)
    refine ⟨⟨gap ++ gap', lexeme⟩ :: pieces, last, ?_, ?_⟩
    · rw [← List.append_assoc]
      exact .piece taken found cut
    · intro offset started
      simp only [tokensAlong, Piece.token, Piece.text, Text.byteLength_append, List.any_append, line,
        Nat.add_assoc, Bool.true_or, Bool.not_false, Bool.or_true]

/-- Nothing is cut from a text without characters. -/
theorem eq_nil (cut : Cut v [] pieces last) : pieces = [] ∧ last = [] := by
  have parts := List.append_eq_nil_iff.mp cut.text_eq.symm
  refine ⟨?_, parts.2⟩
  cases pieces with
  | nil => rfl
  | cons p pieces =>
    obtain ⟨cs, found⟩ := cut.exists_first? (List.mem_cons_self ..)
    have none : p.gap ++ p.lexeme.text = [] := by
      have := parts.1
      rw [List.flatMap_cons] at this
      exact (List.append_eq_nil_iff.mp this).1
    exact absurd (List.append_eq_nil_iff.mp none).2 (Lexeme.text_ne_nil found)

/-! ## A line feed behind a text that is cut -/

/-- **The lexemes of a text are cut again** when a line end stands in for its end, unless the last of them is
a literal at its very end that holds a backslash. What is behind the last of them is cut as a text of
its own. -/
theorem append {grown : List Piece} {behind : List Char} (unspaced : v.Unspaced)
    (cut : Cut v a pieces last) (stands : StandsInFor behind [])
    (plain : last = [] → ∀ p ∈ pieces.getLast?, Lexeme.Unclosed p.lexeme.kind →
      '\\' ∉ p.lexeme.text)
    (cut' : Cut v (last ++ behind) grown last') : Cut v (a ++ behind) (pieces ++ grown) last' := by
  induction cut with
  | last _ => exact cut'
  | @piece gap rest lexeme pieces last trivia found cut ih =>
    have nonempty : lexeme.text ++ rest ≠ [] := by simp [Lexeme.text_ne_nil found]
    have start : Trivia.item (lexeme.text ++ rest) = 0 := Trivia.item_of_length trivia
    have start' : Trivia.item ((lexeme.text ++ rest) ++ behind) = 0 := by
      rw [← List.append_nil (lexeme.text ++ rest)] at start
      exact Trivia.item_append_eq_zero nonempty start stands.space
    have found' : Lexeme.first? v ((lexeme.text ++ rest) ++ behind) = some lexeme := by
      rw [← List.append_nil (lexeme.text ++ rest)] at found
      refine Lexeme.first?_standsIn unspaced stands found (by simp) ?_
      intro _ unclosed full
      -- the lexeme reaches the end of the text only if it is the last one
      obtain rfl : rest = [] := by simpa using full.symm
      obtain ⟨rfl, rfl⟩ := cut.eq_nil
      exact plain rfl _ rfl unclosed
    have before : Trivia.Before gap ((lexeme.text ++ rest) ++ behind) :=
      (Trivia.before_of_length trivia).move_of_item nonempty start _
    have taken := before.length_eq start'
    rw [List.append_assoc] at taken found'
    rw [List.append_assoc, List.append_assoc]
    refine .piece taken found' (ih ?_ cut')
    intro nothing p final
    exact plain nothing p (by rw [List.getLast?_cons, Option.mem_def.mp final]; rfl)

/-- **A text is cut in front of a line feed as in front of the end**, and what stands behind the line
feed as if it were a text of its own. -/
theorem exists_lineFeed (unspaced : v.Unspaced) (cut : Cut v a pieces last)
    (cut' : Cut v b pieces' last') (closed : ¬ Trivia.EndsOpen last)
    (plain : last = [] → ∀ p ∈ pieces.getLast?, Lexeme.Unclosed p.lexeme.kind →
      '\\' ∉ p.lexeme.text) :
    ∃ grown last'', Cut v (a ++ '\n' :: b) (pieces ++ grown) last'' ∧ ∀ offset started,
      tokensAlong offset started grown last'' =
        tokensAlong (offset + (Text.byteLength last + 1)) false pieces' last' := by
  have alone : Trivia.Before last [] := by
    refine Trivia.before_of_length ?_
    rw [List.append_nil]
    exact cut.length_gap.2
  have feed : Trivia.Before ['\n'] b := .lineBreak rfl .nil
  -- the last gap and the line feed become one gap in front of the second text
  have before : Trivia.Before (last ++ ['\n']) b := (alone.extend closed rfl).append feed
  obtain ⟨grown, last'', cut'', tokens⟩ := cut'.exists_grown before (by simp [Text.isLineBreak])
  rw [List.append_assoc] at cut''
  have stands : StandsInFor ('\n' :: b) [] := ⟨rfl, rfl, fun _ => rfl⟩
  refine ⟨grown, last'', cut.append unspaced stands plain cut'', ?_⟩
  intro offset started
  rw [tokens, Text.byteLength_append]
  rfl

/-! ## The end of a text -/

/-- The tokens of a text but for the one that marks its end are those of its pieces. -/
theorem properTokens_eq (cut : Cut Vocabulary.java text pieces last) :
    properTokens text = Piece.tokens 0 false pieces := by
  have all : ∀ t ∈ Piece.tokens 0 false pieces, (!t.isEndOfInput) = true := by
    intro t member
    have proper := cut.kind_ne_endOfInput t member
    unfold Token.isEndOfInput
    split
    · next h => exact absurd h proper
    · rfl
  have none : [endToken (0 + Text.byteLength (pieces.flatMap Piece.text)) (false || !pieces.isEmpty)
      last].filter (fun t => !t.isEndOfInput) = [] := rfl
  unfold properTokens
  rw [tokenize, cut.tokensOf_eq, tokensAlong_eq, List.filter_append, List.filter_eq_self.mpr all, none,
    List.append_nil]

/-- The last token of a text is that of the last piece. -/
theorem lastToken?_concat (cut : Cut Vocabulary.java text (pieces ++ [p]) last) :
    ∃ t, lastToken? text = some t ∧ t.kind = p.lexeme.kind ∧
      t.span.stop = Text.byteLength ((pieces ++ [p]).flatMap Piece.text) ∧
      t.span.slice? text = some p.lexeme.text := by
  refine ⟨p.token (Text.byteLength (pieces.flatMap Piece.text)) (!pieces.isEmpty), ?_, rfl, ?_, ?_⟩
  · rw [lastToken?, cut.properTokens_eq, tokens_concat, List.getLast?_concat, Nat.zero_add,
      Bool.false_or]
  · simp [Piece.token, Piece.text, Nat.add_assoc]
  · have covered := Text.slice?_byteLength (pieces.flatMap Piece.text ++ p.gap) p.lexeme.text last
    have split : text = (pieces.flatMap Piece.text ++ p.gap) ++ (p.lexeme.text ++ last) := by
      rw [cut.text_eq]
      simp [Piece.text]
    rw [← split, Text.byteLength_append] at covered
    exact covered

/-- The last gap of a text is the trivia behind the last piece. -/
theorem lastGap?_eq (cut : Cut Vocabulary.java text pieces last) : lastGap? text = some last := by
  have here : (lastToken? text).elim 0 (·.span.stop) = Text.byteLength (pieces.flatMap Piece.text) := by
    rcases List.eq_nil_or_concat pieces with rfl | ⟨front, p, rfl⟩
    · rw [lastToken?, cut.properTokens_eq]
      rfl
    · rw [List.concat_eq_append] at cut ⊢
      obtain ⟨t, final, -, stop, -⟩ := cut.lastToken?_concat
      rw [final]
      exact stop
  have gap := Text.slice?_byteLength (pieces.flatMap Piece.text) last []
  rw [List.append_nil, ← cut.text_eq, ← Text.byteLength_append, ← cut.text_eq] at gap
  rw [lastGap?, here, gap]

/-- A literal at the end of a text that was not closed holds no backslash, unless the text ends in
escapes. -/
theorem plain_of_not_endsInEscapes (cut : Cut Vocabulary.java text pieces last)
    (plain : ¬ EndsInEscapes text) (nothing : last = []) :
    ∀ p ∈ pieces.getLast?, Lexeme.Unclosed p.lexeme.kind → '\\' ∉ p.lexeme.text := by
  intro p final unclosed slash
  obtain ⟨front, rfl⟩ := List.getLast?_eq_some_iff.mp final
  obtain ⟨t, found, kind, stop, covered⟩ := cut.lastToken?_concat
  have whole : t.span.stop = Text.byteLength text := by
    rw [stop, cut.text_eq, nothing, List.append_nil]
  exact plain ⟨t, _, found, kind ▸ unclosed, whole, covered, slash⟩

/-- Texts of which neither a comment nor a literal reaches across a line feed are cut apart by it. -/
theorem cutApart (cut : Cut Vocabulary.java a pieces last) (closed : ¬ EndsInComment a)
    (plain : ¬ EndsInEscapes a) : CutApart a b := by
  obtain ⟨pieces', last', cut'⟩ := exists_cut Vocabulary.java b
  have ended : ¬ Trivia.EndsOpen last := fun h => closed ⟨last, cut.lastGap?_eq, h⟩
  obtain ⟨grown, last'', whole, tokens⟩ := cut.exists_lineFeed Vocabulary.unspaced_java cut' ended
    (cut.plain_of_not_endsInEscapes plain)
  have size : Text.byteLength (pieces.flatMap Piece.text) + (Text.byteLength last + 1) =
      0 + (Text.byteLength a + 1) := by
    rw [cut.text_eq, Text.byteLength_append, Nat.zero_add, Nat.add_assoc]
  unfold CutApart
  rw [cut.properTokens_eq, tokenize, tokenize, whole.tokensOf_eq, cut'.tokensOf_eq,
    shift_tokensAlong, tokensAlong_append, tokens, Nat.zero_add, size]

end Cut

/-- **A line feed cuts texts apart**, unless the first ends inside a comment or with a literal that was
not closed and holds a backslash. So a literal that was not closed and holds no backslash has no effect
behind the line feed, be it at the very end of the line or in front of trivia that leaves no comment
open. -/
theorem cutApart_of_closed (a b : List Char) :
    (¬ EndsInComment a → ¬ EndsInEscapes a → CutApart a b) ∧
    ∀ t covered, lastToken? a = some t → Lexeme.Unclosed t.kind → t.span.slice? a = some covered →
      '\\' ∉ covered → t.span.stop = Text.byteLength a ∨ ¬ EndsInComment a → CutApart a b := by
  obtain ⟨pieces, last, cut⟩ := Cut.exists_cut Vocabulary.java a
  refine ⟨cut.cutApart, fun t covered final _ here plain ended => cut.cutApart ?_ ?_⟩
  · rcases ended with stop | closed
    · rintro ⟨gap, behind, front, body, rfl, -, -⟩
      have nothing := Text.slice?_byteLength a [] []
      rw [lastGap?, final, Option.elim_some, stop] at behind
      simp only [List.append_nil, Text.byteLength_nil, Nat.add_zero, behind] at nothing
      simp at nothing
    · exact closed
  · rintro ⟨t', covered', final', -, -, here', slash⟩
    obtain rfl := Option.some.inj (final.symm.trans final')
    obtain rfl := Option.some.inj (here.symm.trans here')
    exact plain slash

/-- A string that was not closed ends with its line, and a quote on the next line opens another. -/
theorem cutApart_openString :
    (¬ EndsInComment ['"', 'x'] ∧ ¬ EndsInEscapes ['"', 'x'] ∧ CutApart ['"', 'x'] ['y']) ∧
      CutApart ['"', 'x'] ['"'] := by
  have gap : lastGap? ['"', 'x'] = some [] := by decide +kernel
  have final : lastToken? ['"', 'x'] =
      some ⟨.error .unterminatedString, LexicalError.unterminatedString.message, ⟨0, 2⟩, true⟩ := by
    decide +kernel
  have covered : (⟨0, 2⟩ : Span).slice? ['"', 'x'] = some ['"', 'x'] := by decide
  have closed : ¬ EndsInComment ['"', 'x'] := by
    rintro ⟨_, here, front, body, rfl, -, -⟩
    have nothing := Option.some.inj (gap.symm.trans here)
    simp at nothing
  have plain : ¬ EndsInEscapes ['"', 'x'] := by
    rintro ⟨_, _, final', -, -, here, slash⟩
    obtain rfl := Option.some.inj (final.symm.trans final')
    obtain rfl := Option.some.inj (covered.symm.trans here)
    exact absurd slash (by decide)
  have apart := cutApart_of_closed ['"', 'x']
  exact ⟨⟨closed, plain, (apart _).1 closed plain⟩,
    (apart _).2 _ _ final (.inl rfl) covered (by decide) (.inl rfl)⟩

end Lexis
