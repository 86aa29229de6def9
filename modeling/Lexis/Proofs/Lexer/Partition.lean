import Lexis.Proofs.Lexer.Cut

/-!
# Tokens partition the text

The spans of the tokens and the gaps in front of them lie side by side and fill the text. What stands in
a gap is no token on its own, and what stands in a span is the value of the token, unless the token is a
literal that was not closed.

Spans and gaps are read off the tokens alone (`gapsBefore`, `regapped`), by the byte offsets that the
tokens carry; that these are offsets of the text is part of what is shown.
-/

set_option autoImplicit false

namespace Lexis

/-- The spans in front of tokens: from the end of the token before, or a given offset, to the start. -/
def gapsBefore (offset : Nat) : List Token → List Span
  | [] => []
  | t :: tokens => ⟨offset, t.span.start⟩ :: gapsBefore t.span.stop tokens

/-- A text from an offset on with every gap in front of a token rewritten, absent when a gap or a span
is no part of the text. -/
def regapped (rewrite : List Char → List Char) (text : List Char) (offset : Nat) :
    List Token → Option (List Char)
  | [] => some []
  | t :: tokens => do
    let gap ← Text.slice? text offset t.span.start
    let covered ← t.span.slice? text
    let behind ← regapped rewrite text t.span.stop tokens
    return rewrite gap ++ covered ++ behind

/-- The value of a token of a kind that covers a part of a text. -/
def valueOf (kind : TokenKind) (covered : List Char) : String :=
  match kind with
  | .error .unterminatedString => LexicalError.unterminatedString.message
  | .error .unterminatedChar => LexicalError.unterminatedChar.message
  | _ => String.ofList covered

/-- **Tokens partition a text.** -/
structure Partition (v : Vocabulary) (text : List Char) (tokens : List Token) : Prop where
  inOrder : tokens.Pairwise fun s t => s.span.stop ≤ t.span.start
  forward : ∀ t ∈ tokens, t.span.start ≤ t.span.stop
  onBoundaries : ∀ t ∈ tokens,
    (Text.charIndex? text t.span.start).isSome ∧ (Text.charIndex? text t.span.stop).isSome
  /-- One token marks the end, and it stands there. -/
  ends : ∃ front last, tokens = front ++ [last] ∧ last.kind = .endOfInput ∧
    last.span = ⟨Text.byteLength text, Text.byteLength text⟩ ∧ ∀ t ∈ front, t.kind ≠ .endOfInput
  /-- What stands in a gap is nothing but the end on its own. -/
  gaps : ∀ span ∈ gapsBefore 0 tokens, ∃ gap last, span.slice? text = some gap ∧
    tokensOf v gap = [last] ∧ last.kind = .endOfInput
  rebuilds : regapped id text 0 tokens = some text
  values : ∀ t ∈ tokens, ∃ covered, t.span.slice? text = some covered ∧
    t.value = valueOf t.kind covered ∧ (t.kind = .error .unrecognisedCharacter → ∃ c, covered = [c])

/-! ## Where pieces stand -/

theorem gapsBefore_tokensAlong {pieces : List Piece} {last : List Char} {span : Span}
    (front : List Char) (started : Bool)
    (member : span ∈ gapsBefore (Text.byteLength front)
      (tokensAlong (Text.byteLength front) started pieces last)) :
    ∃ before gap behind,
      front ++ (pieces.flatMap Piece.text ++ last) = before ++ (gap ++ behind) ∧
      span = ⟨Text.byteLength before, Text.byteLength before + Text.byteLength gap⟩ ∧
      (gap = last ∨ ∃ p ∈ pieces, gap = p.gap) := by
  induction pieces generalizing front started with
  | nil =>
    simp only [tokensAlong, gapsBefore, endToken, List.mem_cons, List.not_mem_nil, or_false] at member
    exact ⟨front, last, [], by simp, member, .inl rfl⟩
  | cons p pieces ih =>
    rcases List.mem_cons.mp member with rfl | member
    · refine ⟨front, p.gap, p.lexeme.text ++ (pieces.flatMap Piece.text ++ last), ?_, rfl,
        .inr ⟨p, List.mem_cons_self .., rfl⟩⟩
      simp [Piece.text]
    · have stop : (p.token (Text.byteLength front) started).span.stop =
          Text.byteLength (front ++ p.text) := by
        simp only [Piece.token, Piece.text, Text.byteLength_append, Nat.add_assoc]
      have offset : Text.byteLength front + Text.byteLength p.text =
          Text.byteLength (front ++ p.text) := (Text.byteLength_append _ _).symm
      rw [stop, offset] at member
      obtain ⟨before, gap, behind, split, here, which⟩ := ih (front ++ p.text) true member
      refine ⟨before, gap, behind, ?_, here, ?_⟩
      · rw [← split]
        simp
      · rcases which with h | ⟨q, member, h⟩
        · exact .inl h
        · exact .inr ⟨q, List.mem_cons_of_mem _ member, h⟩

/-- A token stands where a lexeme of the pieces stands in a text, or where nothing stands as the end. -/
def Token.Covers (t : Token) (pieces : List Piece) (text : List Char) : Prop :=
  ∃ before covered behind, text = before ++ (covered ++ behind) ∧
    t.span = ⟨Text.byteLength before, Text.byteLength before + Text.byteLength covered⟩ ∧
    ((∃ p ∈ pieces, covered = p.lexeme.text ∧ t.kind = p.lexeme.kind ∧ t.value = p.lexeme.value) ∨
      (covered = [] ∧ t.kind = .endOfInput ∧ t.value = ""))

theorem covers_tokensAlong {pieces : List Piece} {last : List Char} {t : Token}
    (front : List Char) (started : Bool)
    (member : t ∈ tokensAlong (Text.byteLength front) started pieces last) :
    t.Covers pieces (front ++ (pieces.flatMap Piece.text ++ last)) := by
  induction pieces generalizing front started with
  | nil =>
    simp only [tokensAlong, List.mem_cons, List.not_mem_nil, or_false] at member
    subst member
    refine ⟨front ++ last, [], [], by simp, ?_, .inr ⟨rfl, rfl, rfl⟩⟩
    simp [endToken]
  | cons p pieces ih =>
    rcases List.mem_cons.mp member with rfl | member
    · refine ⟨front ++ p.gap, p.lexeme.text, pieces.flatMap Piece.text ++ last, ?_, ?_,
        .inl ⟨p, List.mem_cons_self .., rfl, rfl, rfl⟩⟩
      · simp [Piece.text]
      · simp only [Piece.token, Text.byteLength_append]
    · rw [← Text.byteLength_append] at member
      obtain ⟨before, covered, behind, split, here, which⟩ := ih (front ++ p.text) true member
      refine ⟨before, covered, behind, ?_, here, ?_⟩
      · rw [← split]
        simp
      · rcases which with ⟨q, member, h⟩ | h
        · exact .inl ⟨q, List.mem_cons_of_mem _ member, h⟩
        · exact .inr h

namespace Token.Covers

variable {t : Token} {pieces : List Piece} {text : List Char}

theorem start_le_stop (covers : t.Covers pieces text) : t.span.start ≤ t.span.stop := by
  obtain ⟨before, covered, behind, -, span, -⟩ := covers
  rw [span]
  exact Nat.le_add_right _ _

theorem onBoundaries (covers : t.Covers pieces text) :
    (Text.charIndex? text t.span.start).isSome ∧ (Text.charIndex? text t.span.stop).isSome := by
  obtain ⟨before, covered, behind, rfl, span, -⟩ := covers
  rw [span]
  constructor
  · rw [Text.charIndex?_byteLength]
    rfl
  · rw [← List.append_assoc, ← Text.byteLength_append, Text.charIndex?_byteLength]
    rfl

/-- What a token covers is found by its span. -/
theorem exists_slice? (covers : t.Covers pieces text) :
    ∃ covered, t.span.slice? text = some covered ∧
      ((∃ p ∈ pieces, covered = p.lexeme.text ∧ t.kind = p.lexeme.kind ∧ t.value = p.lexeme.value) ∨
        (covered = [] ∧ t.kind = .endOfInput ∧ t.value = "")) := by
  obtain ⟨before, covered, behind, rfl, span, which⟩ := covers
  refine ⟨covered, ?_, which⟩
  rw [span]
  exact Text.slice?_byteLength before covered behind

end Token.Covers

/-- Rewriting the gaps between the tokens rewrites the gaps of the pieces. -/
theorem regapped_tokensAlong (rewrite : List Char → List Char) (pieces : List Piece)
    (last front : List Char) (started : Bool) :
    regapped rewrite (front ++ (pieces.flatMap Piece.text ++ last)) (Text.byteLength front)
        (tokensAlong (Text.byteLength front) started pieces last) =
      some (pieces.flatMap (fun p => rewrite p.gap ++ p.lexeme.text) ++ rewrite last) := by
  induction pieces generalizing front started with
  | nil =>
    have gap := Text.slice?_byteLength front last []
    have covered := Text.slice?_byteLength (front ++ last) [] []
    simp only [List.append_nil, Text.byteLength_append, Text.byteLength_nil, Nat.add_zero] at gap covered
    simp [tokensAlong, endToken, regapped, Span.slice?, gap, covered]
  | cons p pieces ih =>
    have gap := Text.slice?_byteLength front p.gap
      (p.lexeme.text ++ (pieces.flatMap Piece.text ++ last))
    have covered := Text.slice?_byteLength (front ++ p.gap) p.lexeme.text
      (pieces.flatMap Piece.text ++ last)
    have behind := ih (front ++ p.text) true
    simp only [Piece.text, List.append_assoc, Text.byteLength_append, Nat.add_assoc] at gap covered behind
    simp [tokensAlong, Piece.token, regapped, Span.slice?, Piece.text, gap, covered, behind,
      Nat.add_assoc]

/-- Tokens follow one another, and none starts in front of the first. -/
theorem inOrder_tokensAlong (pieces : List Piece) (last : List Char) (offset : Nat) (started : Bool) :
    (∀ t ∈ tokensAlong offset started pieces last, offset ≤ t.span.start) ∧
      (tokensAlong offset started pieces last).Pairwise fun s t => s.span.stop ≤ t.span.start := by
  induction pieces generalizing offset started with
  | nil =>
    refine ⟨fun t member => ?_, List.pairwise_singleton _ _⟩
    obtain rfl := List.mem_singleton.mp member
    exact Nat.le_add_right _ _
  | cons p pieces ih =>
    obtain ⟨behind, sorted⟩ := ih (offset + Text.byteLength p.text) true
    refine ⟨fun t member => ?_, List.pairwise_cons.mpr ⟨fun t member => ?_, sorted⟩⟩
    · rcases List.mem_cons.mp member with rfl | member
      · exact Nat.le_add_right _ _
      · exact (Nat.le_add_right _ _).trans (behind t member)
    · have stop : (p.token offset started).span.stop = offset + Text.byteLength p.text := by
        simp only [Piece.token, Piece.text, Text.byteLength_append, Nat.add_assoc]
      rw [stop]
      exact behind t member

/-! ## The partition -/

theorem valueOf_lexeme (lexeme : Lexeme) : lexeme.value = valueOf lexeme.kind lexeme.text := rfl

namespace Cut

variable {v : Vocabulary} {text last : List Char} {pieces : List Piece}

theorem covers (cut : Cut v text pieces last) {t : Token} (member : t ∈ tokensOf v text) :
    t.Covers pieces text := by
  rw [cut.tokensOf_eq] at member
  rw [cut.text_eq]
  exact covers_tokensAlong [] false member

/-- A token of a text has its value from what it covers. -/
theorem exists_covered (cut : Cut v text pieces last) {t : Token} (member : t ∈ tokensOf v text) :
    ∃ covered, t.span.slice? text = some covered ∧ t.value = valueOf t.kind covered ∧
      (t.kind = .error .unrecognisedCharacter → ∃ c, covered = [c]) := by
  obtain ⟨covered, slice, which⟩ := (cut.covers member).exists_slice?
  refine ⟨covered, slice, ?_⟩
  rcases which with ⟨p, among, rfl, kind, value⟩ | ⟨rfl, kind, value⟩
  · obtain ⟨cs, found⟩ := cut.exists_first? among
    rw [kind, value]
    exact ⟨valueOf_lexeme p.lexeme, (Lexeme.kind_of_first? found).2⟩
  · rw [kind, value]
    exact ⟨rfl, by simp⟩

/-- A gap of a text on its own holds nothing but the end. -/
theorem exists_gap (cut : Cut v text pieces last) {span : Span}
    (member : span ∈ gapsBefore 0 (tokensOf v text)) :
    ∃ gap last, span.slice? text = some gap ∧ tokensOf v gap = [last] ∧ last.kind = .endOfInput := by
  rw [cut.tokensOf_eq] at member
  obtain ⟨before, gap, behind, split, here, which⟩ := gapsBefore_tokensAlong [] false member
  have whole : text = before ++ (gap ++ behind) := cut.text_eq.trans split
  have trivia : Trivia.length gap = gap.length := by
    rcases which with rfl | ⟨p, among, rfl⟩
    · exact cut.length_gap.2
    · exact cut.length_gap.1 p among
  refine ⟨gap, endToken 0 false gap, ?_, (Cut.last trivia).tokensOf_eq, rfl⟩
  rw [here, whole]
  exact Text.slice?_byteLength before gap behind

/-- A text with its gaps rewritten is put together from its pieces with their gaps rewritten. -/
theorem regapped_eq (cut : Cut v text pieces last) (rewrite : List Char → List Char) :
    regapped rewrite text 0 (tokensOf v text) =
      some (pieces.flatMap (fun p => rewrite p.gap ++ p.lexeme.text) ++ rewrite last) := by
  have rewritten := regapped_tokensAlong rewrite pieces last [] false
  rw [List.nil_append, ← cut.text_eq, Text.byteLength_nil, ← cut.tokensOf_eq] at rewritten
  exact rewritten

end Cut

/-- **The tokens of a text partition it**, in every vocabulary. -/
theorem partition_tokensOf (v : Vocabulary) (text : List Char) :
    Partition v text (tokensOf v text) := by
  obtain ⟨pieces, last, cut⟩ := Cut.exists_cut v text
  have tokens := cut.tokensOf_eq
  refine
    { inOrder := ?_
      forward := fun t member => (cut.covers member).start_le_stop
      onBoundaries := fun t member => (cut.covers member).onBoundaries
      ends := ?_
      gaps := fun span member => cut.exists_gap member
      rebuilds := ?_
      values := fun t member => cut.exists_covered member }
  · rw [tokens]
    exact (inOrder_tokensAlong pieces last 0 false).2
  · refine ⟨_, _, tokens.trans (tokensAlong_eq pieces last 0 false), rfl, ?_, cut.kind_ne_endOfInput⟩
    rw [cut.text_eq]
    simp [endToken]
  · rw [cut.regapped_eq]
    exact congrArg some cut.text_eq.symm

end Lexis
