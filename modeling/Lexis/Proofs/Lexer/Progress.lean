import Lexis.Proofs.Lexer.Cut

/-!
# Reading on ends

A step of a lexer marks the end of the text or takes at least one character behind the trivia that it
skips. So a run that is driven on comes to the end, after no more steps than the text has characters and
one more, and hands out the end once, as its last token. Nothing is asked of the vocabulary: a symbol
may be empty, and there may be none at all.
-/

set_option autoImplicit false

namespace Lexis.Lexer

/-- A lexer hands out tokens, one step after another, and becomes another lexer. -/
inductive Yields : Lexer → List Token → Lexer → Prop
  | done {l : Lexer} : Yields l [] l
  | step {l after final : Lexer} {token : Token} {tokens : List Token} :
      l.next? = some (token, after) → Yields after tokens final → Yields l (token :: tokens) final

/-- The next step either marks the end of the text, or takes at least one character behind the trivia
that it skips. -/
def Progresses (l : Lexer) : Prop :=
  (l.next.1.kind = .endOfInput ∧ l.next.2.rest = [] ∧ l.next.2.next? = none) ∨
    ∃ gap taken, l.rest = gap ++ (taken ++ l.next.2.rest) ∧ gap.length = Trivia.length l.rest ∧
      taken ≠ [] ∧ l.next.1.kind ≠ .endOfInput ∧
      l.next.1.span = ⟨l.offset + Text.byteLength gap,
        l.offset + Text.byteLength gap + Text.byteLength taken⟩ ∧
      l.next.2.offset = l.offset + Text.byteLength gap + Text.byteLength taken

/-- **A step progresses**, wherever a lexer stands. -/
theorem progresses {l : Lexer} (running : l.finished? = none) : l.Progresses := by
  obtain ⟨gap, rest, here, -, -, trivia⟩ := Trivia.exists_before l.rest
  cases found : Lexeme.first? l.vocabulary rest with
  | none =>
    obtain rfl := Lexeme.first?_eq_none_iff.mp found
    rw [List.append_nil] at here
    rw [← here] at trivia
    have step := next_last running trivia
    exact .inl (by rw [step]; exact ⟨rfl, rfl, rfl⟩)
  | some lexeme =>
    obtain ⟨behind, rfl⟩ := Lexeme.text_prefix found
    rw [here] at trivia
    have step := next_piece running here trivia found
    refine .inr ⟨gap, lexeme.text, ?_, ?_, Lexeme.text_ne_nil found, ?_⟩
    · rw [step, here]
    · rw [here, trivia]
    · rw [step]
      refine ⟨(Lexeme.kind_of_first? found).1, rfl, ?_⟩
      simp only [Piece.text, Text.byteLength_append, Nat.add_assoc]

namespace Yields

variable {l final : Lexer} {tokens : List Token}

/-- Every token of a run costs a step. -/
theorem length_add_stepsLeft_le (run : Yields l tokens final) :
    tokens.length + final.stepsLeft ≤ l.stepsLeft := by
  induction run with
  | done => simp
  | step step _ ih =>
    have fewer := stepsLeft_lt_of_next? step
    rw [List.length_cons]
    omega

/-- A run hands out the front of what remains. -/
theorem remaining_eq (run : Yields l tokens final) : l.remaining = tokens ++ final.remaining := by
  induction run with
  | done => rfl
  | step step _ ih => rw [remaining_of_next? step, ih, List.cons_append]

end Yields

/-- **A lexer can be driven to its end**, and hands out all that remains on the way. -/
theorem exists_yields_remaining (l : Lexer) :
    ∃ final, Yields l l.remaining final ∧ final.next? = none := by
  induction h : l.stepsLeft using Nat.strongRecOn generalizing l with
  | _ steps ih =>
    cases step : l.next? with
    | none => exact ⟨l, by rw [remaining_of_done step]; exact .done, step⟩
    | some next =>
      obtain ⟨token, after⟩ := next
      obtain ⟨final, run, ended⟩ := ih _ (h ▸ stepsLeft_lt_of_next? step) after rfl
      exact ⟨final, by rw [remaining_of_next? step]; exact .step step run, ended⟩

/-- **Reading a text ends.** Every run hands out the front of the tokens of the text and takes no more
steps than there are characters and one more, every step on the way progresses, the run that hands out
all tokens comes to its end, and only the last of them marks the end. -/
theorem reading_ends (v : Vocabulary) (text : List Char) :
    (∀ tokens l, Yields (start v text) tokens l → tokens <+: tokensOf v text ∧
      tokens.length ≤ text.length + 1 ∧ (l.finished? = none → l.Progresses)) ∧
    (∃ final, Yields (start v text) (tokensOf v text) final ∧ final.next? = none) ∧
    (tokensOf v text).length ≤ text.length + 1 ∧
    ∃ front last, tokensOf v text = front ++ [last] ∧ last.kind = .endOfInput ∧
      ∀ t ∈ front, t.kind ≠ .endOfInput := by
  have bound : ∀ {tokens l}, Yields (start v text) tokens l → tokens.length ≤ text.length + 1 := by
    intro tokens l run
    have steps := run.length_add_stepsLeft_le
    have most : (start v text).stepsLeft = text.length + 1 := rfl
    omega
  obtain ⟨final, run, ended⟩ := exists_yields_remaining (start v text)
  obtain ⟨pieces, last, cut⟩ := Cut.exists_cut v text
  have tokens := cut.tokensOf_eq.trans (tokensAlong_eq pieces last 0 false)
  exact ⟨fun tokens l run => ⟨⟨_, run.remaining_eq.symm⟩, bound run, progresses⟩,
    ⟨final, run, ended⟩, bound run, _, _, tokens, rfl, cut.kind_ne_endOfInput⟩

end Lexis.Lexer
