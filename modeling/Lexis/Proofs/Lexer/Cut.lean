import Lexis.Lexer
import Lexis.Proofs.Scan.Lexeme

/-!
# How a text is cut

A run of the lexer cuts a text into pieces, each a lexeme with the trivia in front of it, and the trivia
at the end. The relation `Cut` says so without offsets and flags; these are read off the pieces by
`tokensAlong`. So what a run does is shown by induction on the pieces, and two runs are compared by
comparing the pieces of two texts: `Cut.tokensOf_eq` gives the tokens.
-/

set_option autoImplicit false

namespace Lexis

/-- A lexeme with the trivia in front of it. -/
structure Piece where
  gap : List Char
  lexeme : Lexeme

/-- The text of a piece. -/
def Piece.text (p : Piece) : List Char := p.gap ++ p.lexeme.text

/-- **A text is cut** into pieces and the trivia at its end. -/
inductive Cut (v : Vocabulary) : List Char → List Piece → List Char → Prop
  | last {gap : List Char} : Trivia.length gap = gap.length → Cut v gap [] gap
  | piece {gap rest : List Char} {lexeme : Lexeme} {pieces : List Piece} {last : List Char} :
      Trivia.length (gap ++ (lexeme.text ++ rest)) = gap.length →
      Lexeme.first? v (lexeme.text ++ rest) = some lexeme →
      Cut v rest pieces last →
      Cut v (gap ++ (lexeme.text ++ rest)) (⟨gap, lexeme⟩ :: pieces) last

/-- The token of a piece that stands behind so many bytes. -/
def Piece.token (offset : Nat) (started : Bool) (p : Piece) : Token :=
  let start := offset + Text.byteLength p.gap
  ⟨p.lexeme.kind, p.lexeme.value, ⟨start, start + Text.byteLength p.lexeme.text⟩,
    p.gap.any Text.isLineBreak || !started⟩

/-- The token that marks the end behind the last trivia. -/
def endToken (offset : Nat) (started : Bool) (last : List Char) : Token :=
  let stop := offset + Text.byteLength last
  ⟨.endOfInput, "", ⟨stop, stop⟩, last.any Text.isLineBreak || !started⟩

/-- The tokens of pieces that stand behind so many bytes. -/
def Piece.tokens (offset : Nat) (started : Bool) : List Piece → List Token
  | [] => []
  | p :: pieces =>
    p.token offset started :: Piece.tokens (offset + Text.byteLength p.text) true pieces

/-- The tokens of pieces that stand behind so many bytes, and the end behind the last trivia. -/
def tokensAlong (offset : Nat) (started : Bool) : List Piece → List Char → List Token
  | [], last => [endToken offset started last]
  | p :: pieces, last =>
    p.token offset started :: tokensAlong (offset + Text.byteLength p.text) true pieces last

/-- The tokens of pieces in front of others come first. -/
theorem tokensAlong_append (pieces pieces' : List Piece) (last : List Char) (offset : Nat)
    (started : Bool) :
    tokensAlong offset started (pieces ++ pieces') last =
      Piece.tokens offset started pieces ++
        tokensAlong (offset + Text.byteLength (pieces.flatMap Piece.text))
          (started || !pieces.isEmpty) pieces' last := by
  induction pieces generalizing offset started with
  | nil => simp [Piece.tokens]
  | cons p pieces ih =>
    rw [List.cons_append, tokensAlong, ih, List.flatMap_cons, Text.byteLength_append, Nat.add_assoc,
      Piece.tokens]
    simp

/-- The end comes last. -/
theorem tokensAlong_eq (pieces : List Piece) (last : List Char) (offset : Nat) (started : Bool) :
    tokensAlong offset started pieces last =
      Piece.tokens offset started pieces ++
        [endToken (offset + Text.byteLength (pieces.flatMap Piece.text))
          (started || !pieces.isEmpty) last] := by
  have whole := tokensAlong_append pieces [] last offset started
  rwa [List.append_nil] at whole

/-- The tokens of pieces have the kinds of their lexemes. -/
theorem kind_tokens (pieces : List Piece) (offset : Nat) (started : Bool) :
    (Piece.tokens offset started pieces).map Token.kind = pieces.map (fun p => p.lexeme.kind) := by
  induction pieces generalizing offset started with
  | nil => rfl
  | cons p pieces ih =>
    rw [Piece.tokens, List.map_cons, ih]
    rfl

/-- Pieces that stand further on have their tokens further on. -/
theorem shift_tokensAlong (pieces : List Piece) (last : List Char) (offset bytes : Nat)
    (started : Bool) :
    (tokensAlong offset started pieces last).map (·.shift bytes) =
      tokensAlong (offset + bytes) started pieces last := by
  induction pieces generalizing offset started with
  | nil =>
    simp only [tokensAlong, endToken, List.map_cons, List.map_nil, Token.shift, Span.shift,
      Nat.add_right_comm]
  | cons p pieces ih =>
    have first : (p.token offset started).shift bytes = p.token (offset + bytes) started := by
      simp only [Piece.token, Token.shift, Span.shift, Nat.add_right_comm]
    rw [tokensAlong, tokensAlong, List.map_cons, first, ih, Nat.add_right_comm]

namespace Lexer

/-! ## One step -/

/-- The step of a lexer in front of a piece. -/
theorem next_piece {l : Lexer} {gap rest : List Char} {lexeme : Lexeme}
    (running : l.finished? = none) (here : l.rest = gap ++ (lexeme.text ++ rest))
    (trivia : Trivia.length (gap ++ (lexeme.text ++ rest)) = gap.length)
    (found : Lexeme.first? l.vocabulary (lexeme.text ++ rest) = some lexeme) :
    l.next = (Piece.token l.offset l.started ⟨gap, lexeme⟩,
      { l with
        rest := rest
        offset := l.offset + Text.byteLength (Piece.text ⟨gap, lexeme⟩)
        started := true }) := by
  simp only [next, running, here, trivia, List.take_left, List.drop_left, found, Piece.token,
    Piece.text, Text.byteLength_append, Nat.add_assoc]

/-- The step of a lexer in front of the last trivia. -/
theorem next_last {l : Lexer} (running : l.finished? = none)
    (trivia : Trivia.length l.rest = l.rest.length) :
    l.next = (endToken l.offset l.started l.rest,
      { l with
        rest := []
        offset := l.offset + Text.byteLength l.rest
        started := true
        finished? := some (endToken l.offset l.started l.rest) }) := by
  simp only [next, running, trivia, List.take_length, List.drop_length, Lexeme.first?, endToken]

end Lexer

namespace Cut

variable {v : Vocabulary} {text last : List Char} {pieces : List Piece}

/-- **A lexer in front of a text that is cut hands out the tokens of the pieces.** -/
theorem remaining_eq (cut : Cut v text pieces last) {l : Lexer} (same : l.vocabulary = v)
    (running : l.finished? = none) (here : l.rest = text) :
    l.remaining = tokensAlong l.offset l.started pieces last := by
  induction cut generalizing l with
  | last trivia =>
    subst here
    have step : l.next? = some l.next := by simp [Lexer.next?, running]
    rw [Lexer.next_last running trivia] at step
    rw [Lexer.remaining_of_next? step, Lexer.remaining_of_done (by simp [Lexer.next?])]
    rfl
  | piece trivia found _ ih =>
    subst same
    have step : l.next? = some l.next := by simp [Lexer.next?, running]
    rw [Lexer.next_piece running here trivia found] at step
    rw [Lexer.remaining_of_next? step]
    exact congrArg (_ :: ·) (ih rfl running rfl)

/-- The tokens of a text are those of its pieces. -/
theorem tokensOf_eq (cut : Cut v text pieces last) :
    tokensOf v text = tokensAlong 0 false pieces last :=
  cut.remaining_eq rfl rfl rfl

/-- The pieces of a text and its last trivia are the text. -/
theorem text_eq (cut : Cut v text pieces last) : text = pieces.flatMap Piece.text ++ last := by
  induction cut with
  | last _ => rfl
  | piece _ _ _ ih =>
    rw [List.flatMap_cons, List.append_assoc, ← ih, Piece.text, List.append_assoc]

/-- The gaps of a text, each scanned on its own, are trivia. -/
theorem length_gap (cut : Cut v text pieces last) :
    (∀ p ∈ pieces, Trivia.length p.gap = p.gap.length) ∧ Trivia.length last = last.length := by
  induction cut with
  | last trivia => exact ⟨by simp, trivia⟩
  | piece trivia _ _ ih =>
    refine ⟨fun p member => ?_, ih.2⟩
    rcases List.mem_cons.mp member with rfl | member
    · exact Trivia.length_alone trivia
    · exact ih.1 p member

/-- The lexemes of a text are cut from parts of it. -/
theorem exists_first? (cut : Cut v text pieces last) {p : Piece} (member : p ∈ pieces) :
    ∃ cs, Lexeme.first? v cs = some p.lexeme := by
  induction cut with
  | last _ => cases member
  | piece _ found _ ih =>
    rcases List.mem_cons.mp member with rfl | member
    · exact ⟨_, found⟩
    · exact ih member

/-- No token of a piece marks the end of the text. -/
theorem kind_ne_endOfInput (cut : Cut v text pieces last) {offset : Nat} {started : Bool} :
    ∀ t ∈ Piece.tokens offset started pieces, t.kind ≠ .endOfInput := by
  intro t member
  have kind : t.kind ∈ pieces.map (fun p => p.lexeme.kind) :=
    kind_tokens pieces offset started ▸ List.mem_map_of_mem member
  obtain ⟨p, among, h⟩ := List.mem_map.mp kind
  obtain ⟨cs, found⟩ := cut.exists_first? among
  exact h ▸ (Lexeme.kind_of_first? found).1

/-- **What is behind a token** is cut on its own: the tokens behind it are those of the pieces that are
left, which stand behind as many bytes as the token ends at. -/
theorem exists_behind (cut : Cut v text pieces last) (front : List Char) {started : Bool}
    {before behind : List Token} {t : Token} (more : behind ≠ [])
    (split : tokensAlong (Text.byteLength front) started pieces last = before ++ t :: behind) :
    ∃ front' rest left, front ++ text = front' ++ rest ∧ Text.byteLength front' = t.span.stop ∧
      Cut v rest left last ∧ behind = tokensAlong t.span.stop true left last := by
  induction cut generalizing front started before with
  | last _ =>
    -- the only token is the one that marks the end, and nothing is behind it
    obtain ⟨-, alone⟩ := List.append_eq_singleton_iff.mp split.symm |>.resolve_right (by simp)
    exact absurd (List.cons.inj alone).2 more
  | @piece gap rest lexeme pieces last _ _ cut ih =>
    have whole : front ++ (gap ++ (lexeme.text ++ rest)) = (front ++ Piece.text ⟨gap, lexeme⟩) ++ rest := by
      simp [Piece.text]
    rw [tokensAlong] at split
    cases before with
    | nil =>
      obtain ⟨rfl, rfl⟩ := List.cons.inj split
      have stop : Text.byteLength (front ++ Piece.text ⟨gap, lexeme⟩) =
          (Piece.token (Text.byteLength front) started ⟨gap, lexeme⟩).span.stop := by
        simp only [Piece.token, Piece.text, Text.byteLength_append, Nat.add_assoc]
      refine ⟨_, rest, pieces, whole, stop, cut, ?_⟩
      rw [← stop, Text.byteLength_append]
    | cons first before =>
      obtain ⟨-, split⟩ := List.cons.inj split
      rw [← Text.byteLength_append] at split
      rw [whole]
      exact ih _ split

/-- A token other than the end stands where there is something and no trivia to skip. -/
theorem exists_at (cut : Cut v text pieces last) (front : List Char) {started : Bool} {t : Token}
    (member : t ∈ tokensAlong (Text.byteLength front) started pieces last)
    (proper : t.kind ≠ .endOfInput) :
    ∃ before rest, front ++ text = before ++ rest ∧ Text.byteLength before = t.span.start ∧
      Trivia.item rest = 0 ∧ rest ≠ [] := by
  induction cut generalizing front started with
  | last _ =>
    obtain rfl := List.mem_singleton.mp member
    exact absurd rfl proper
  | @piece gap rest lexeme pieces last trivia found _ ih =>
    rcases List.mem_cons.mp member with rfl | member
    · exact ⟨front ++ gap, lexeme.text ++ rest, by simp, Text.byteLength_append ..,
        Trivia.item_of_length trivia, by simp [Lexeme.text_ne_nil found]⟩
    · rw [← Text.byteLength_append] at member
      obtain ⟨before, rest', split, found⟩ := ih (front ++ Piece.text ⟨gap, lexeme⟩) member
      exact ⟨before, rest', by simpa [Piece.text] using split, found⟩

/-- **Every text is cut.** -/
theorem exists_cut (v : Vocabulary) (text : List Char) : ∃ pieces last, Cut v text pieces last := by
  induction h : text.length using Nat.strongRecOn generalizing text with
  | _ len ih =>
    obtain ⟨gap, rest, rfl, -, -, trivia⟩ := Trivia.exists_before text
    cases found : Lexeme.first? v rest with
    | none =>
      obtain rfl := Lexeme.first?_eq_none_iff.mp found
      rw [List.append_nil] at trivia ⊢
      exact ⟨[], gap, .last trivia⟩
    | some lexeme =>
      obtain ⟨behind, rfl⟩ := Lexeme.text_prefix found
      have taken := List.length_pos_iff.mpr (Lexeme.text_ne_nil found)
      have shorter : behind.length < len := by
        simp only [List.length_append] at h
        omega
      obtain ⟨pieces, last, cut⟩ := ih _ shorter behind rfl
      exact ⟨⟨gap, lexeme⟩ :: pieces, last, .piece trivia found cut⟩

end Cut

end Lexis
