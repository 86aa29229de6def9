import Lexis.Proofs.Lexer.Cut
import Lexis.Proofs.Text.Line
import Lexis.Proofs.Text.Slice

/-!
# The flags of tokens and the lines of the text

Two parts of the library know where lines end: the lexer, which flags the first token of a line, and the
lookup of a place, which counts lines. They agree (`linesAgree_tokensOf`): a token is flagged exactly when
it stands in a later line than the token in front of it ends in, and otherwise both are in one line.

The two see different texts. The lexer sees the gap between the tokens, the lookup everything in front. So
a token may end between the carriage return and the line feed of one line end, whose line feed then is all
that the gap holds of it: the place behind the token is still in the line that is ended.
-/

set_option autoImplicit false

namespace Lexis

/-- **The flags of tokens agree with the lines of a text.** -/
structure LinesAgree (text : List Char) (tokens : List Token) : Prop where
  /-- A token is flagged if it is the first, or if the gap in front of it holds a line end. -/
  flags : ∀ before t behind, tokens = before ++ t :: behind →
    ∃ gap, Text.slice? text (before.getLast?.elim 0 (·.span.stop)) t.span.start = some gap ∧
      (t.startsLine = true ↔ before = [] ∨ gap.any Text.isLineBreak = true)
  /-- A token behind another is flagged if its line comes later than the one in which the other ends,
  which otherwise is its own. -/
  numbers : ∀ before p t behind, tokens = before ++ p :: t :: behind → t.kind ≠ .endOfInput →
    ∃ stop start, Place.at? text p.span.stop = some stop ∧ Place.at? text t.span.start = some start ∧
      (t.startsLine = true ↔ stop.number < start.number) ∧
      (t.startsLine = false → stop.number = start.number)

/-- Where no item of trivia begins, no line feed stands. -/
theorem Trivia.head?_ne_feed {cs : List Char} (none : item cs = 0) : cs.head? ≠ some '\n' := by
  intro feed
  obtain ⟨cs, rfl⟩ := List.head?_eq_some_iff.mp feed
  exact absurd (item_cons_eq_zero_iff.mp none).1 (by decide)

namespace Cut

variable {v : Vocabulary} {text last : List Char} {pieces : List Piece}

/-- The first token stands behind a gap, and is flagged if the gap holds a line end or if no token was
cut before. No trivia begins where it stands, and there is something unless it marks the end. -/
theorem exists_first_gap (cut : Cut v text pieces last) {offset : Nat} {started : Bool} {t : Token}
    {behind : List Token} (first : tokensAlong offset started pieces last = t :: behind) :
    ∃ gap rest, text = gap ++ rest ∧ t.span.start = offset + Text.byteLength gap ∧
      t.startsLine = (gap.any Text.isLineBreak || !started) ∧ Trivia.item rest = 0 ∧
      (t.kind ≠ .endOfInput → rest ≠ []) := by
  cases cut with
  | last _ =>
    obtain ⟨rfl, -⟩ := List.cons.inj first
    exact ⟨text, [], by simp, rfl, rfl, rfl, fun proper => absurd rfl proper⟩
  | @piece gap rest lexeme pieces last trivia found _ =>
    obtain ⟨rfl, -⟩ := List.cons.inj first
    refine ⟨gap, lexeme.text ++ rest, rfl, rfl, rfl, Trivia.item_of_length trivia, fun _ => ?_⟩
    simp [Lexeme.text_ne_nil found]

theorem flags (cut : Cut v text pieces last) {before behind : List Token} {t : Token}
    (split : tokensAlong 0 false pieces last = before ++ t :: behind) :
    ∃ gap, Text.slice? text (before.getLast?.elim 0 (·.span.stop)) t.span.start = some gap ∧
      (t.startsLine = true ↔ before = [] ∨ gap.any Text.isLineBreak = true) := by
  rcases List.eq_nil_or_concat before with rfl | ⟨before, p, rfl⟩
  · obtain ⟨gap, rest, rfl, start, flag, -⟩ := cut.exists_first_gap split
    have slice := Text.slice?_byteLength [] gap rest
    refine ⟨gap, ?_, by simp [flag]⟩
    rw [start]
    exact slice
  · rw [List.concat_eq_append, List.append_assoc, List.singleton_append] at split
    obtain ⟨front, after, left, whole, stop, cut', tokens⟩ :=
      cut.exists_behind [] (List.cons_ne_nil t behind) split
    obtain ⟨gap, rest, rfl, start, flag, -⟩ := cut'.exists_first_gap tokens.symm
    have slice := Text.slice?_byteLength front gap rest
    obtain rfl : text = front ++ (gap ++ rest) := whole
    refine ⟨gap, ?_, by simp [flag]⟩
    rw [List.concat_eq_append, List.getLast?_concat, Option.elim_some, start, ← stop]
    exact slice

theorem numbers (cut : Cut v text pieces last) {before behind : List Token} {p t : Token}
    (split : tokensAlong 0 false pieces last = before ++ p :: t :: behind)
    (proper : t.kind ≠ .endOfInput) :
    ∃ stop start, Place.at? text p.span.stop = some stop ∧ Place.at? text t.span.start = some start ∧
      (t.startsLine = true ↔ stop.number < start.number) ∧
      (t.startsLine = false → stop.number = start.number) := by
  obtain ⟨front, after, left, whole, stop, cut', tokens⟩ :=
    cut.exists_behind [] (List.cons_ne_nil t behind) split
  obtain ⟨gap, rest, rfl, start, flag, none, some⟩ := cut'.exists_first_gap tokens.symm
  obtain rfl : text = front ++ (gap ++ rest) := whole
  have more : rest ≠ [] := some proper
  obtain ⟨ended, atStop, endedNumber⟩ := Place.number_at?_append front (gap ++ rest) (by simp [more])
  obtain ⟨begun, atStart, begunNumber⟩ := Place.number_at?_append (front ++ gap) rest more
  rw [stop] at atStop
  rw [List.append_assoc, Text.byteLength_append, stop, ← start] at atStart
  -- what the gap ends is what the two numbers differ by
  have differ : begun.number = ended.number + Text.endedLines gap rest := by
    rw [begunNumber, endedNumber, Text.endedLines_append, Nat.add_assoc]
  have counted : 0 < Text.endedLines gap rest ↔ t.startsLine = true := by
    rw [flag, Text.endedLines_pos_iff (Trivia.head?_ne_feed none)]
    simp
  refine ⟨ended, begun, atStop, atStart, ?_, fun unflagged => ?_⟩
  · rw [← counted]
    omega
  · have nothing : ¬ 0 < Text.endedLines gap rest := by simp [counted, unflagged]
    omega

end Cut

/-- **The flags of the tokens of a text agree with its lines**, in every vocabulary. -/
theorem linesAgree_tokensOf (v : Vocabulary) (text : List Char) :
    LinesAgree text (tokensOf v text) := by
  obtain ⟨pieces, last, cut⟩ := Cut.exists_cut v text
  rw [cut.tokensOf_eq]
  exact ⟨fun _ _ _ split => cut.flags split, fun _ _ _ _ split proper => cut.numbers split proper⟩

/-- A string that escapes a carriage return ends in front of the line feed, in the line that is ended. -/
example :
    let text := ['"', '\\', '\r', '\n', 'x']
    (tokenize text).map (fun t => (t.span, t.startsLine)) =
        [(⟨0, 3⟩, true), (⟨4, 5⟩, true), (⟨5, 5⟩, false)] ∧
      (Place.at? text 3).map (·.number) = some 1 ∧ (Place.at? text 4).map (·.number) = some 2 := by
  decide +kernel

end Lexis
