import Lexis.Proofs.Lexer.LineFeed

/-!
# Tokens on a line each

The texts of the tokens of a text, joined by line feeds, are cut into the same tokens again
(`relined_tokenize`). Each token was ended by a look at what followed it: a longer symbol, the digits of
an exponent, a quote behind a word. With all of that gone it still ends where it ended, be it well formed
or an error. The exception is a hexadecimal literal that ends with its point: the point belongs to it
only in front of an underscore.

The proof puts a line end in the place of whatever followed a lexeme (`Lexeme.Before.lineEnd`), piece by
piece (`Cut.relined`).
-/

set_option autoImplicit false

namespace Lexis

/-- What a token is but for its place and its line. -/
def Token.content (t : Token) : TokenKind × String := (t.kind, t.value)

/-- Whether a token is a hexadecimal literal that ends with its point. -/
def Token.endsInHexPoint (t : Token) : Bool :=
  match t.kind with
  | .literal _ => Numeral.hasRadix ['x', 'X'] t.value.toList && t.value.toList.getLast? == some '.'
  | _ => false

/-- The texts that the tokens of a text cover, but for the one that marks its end. Absent when a span is
no part of the text. -/
def tokenTexts? (text : List Char) : Option (List (List Char)) :=
  (properTokens text).mapM fun t => t.span.slice? text

/-- **The tokens of a text on a line each**: the joined texts are cut into the tokens of the text again,
one for each of the texts and each at the start of its line. -/
structure Relined (text : List Char) (texts : List (List Char)) (joined : List Char) : Prop where
  /-- Behind the tokens that are cut again there is only the one that marks the end. -/
  ends : ∃ last, tokenize joined = properTokens joined ++ [last] ∧ last.kind = .endOfInput
  contents : (properTokens joined).map Token.content = (properTokens text).map Token.content
  texts : tokenTexts? joined = some texts
  lines : ∀ t ∈ properTokens joined, t.startsLine = true

/-! ## What the tokens of pieces cover -/

theorem content_tokens (pieces : List Piece) (offset : Nat) (started : Bool) :
    (Piece.tokens offset started pieces).map Token.content =
      pieces.map fun p => (p.lexeme.kind, p.lexeme.value) := by
  induction pieces generalizing offset started with
  | nil => rfl
  | cons p pieces ih =>
    rw [Piece.tokens, List.map_cons, ih]
    rfl

theorem mapM_slice?_tokens (pieces : List Piece) (last front : List Char) (started : Bool) :
    (Piece.tokens (Text.byteLength front) started pieces).mapM
        (fun t => t.span.slice? (front ++ (pieces.flatMap Piece.text ++ last))) =
      some (pieces.map fun p => p.lexeme.text) := by
  induction pieces generalizing front started with
  | nil => rfl
  | cons p pieces ih =>
    have covered := Text.slice?_byteLength (front ++ p.gap) p.lexeme.text
      (pieces.flatMap Piece.text ++ last)
    have behind := ih (front ++ p.text) true
    simp only [Span.slice?, Piece.text, List.append_assoc, Text.byteLength_append, Nat.add_assoc]
      at covered behind
    simp [Piece.tokens, Piece.token, Span.slice?, Piece.text, covered, behind, Nat.add_assoc]

/-! ## Pieces on a line each -/

/-- Pieces with a line feed between them and a given gap in front of the first. -/
def Piece.relined (gap : List Char) : List Piece → List Piece
  | [] => []
  | p :: pieces => ⟨gap, p.lexeme⟩ :: Piece.relined ['\n'] pieces

theorem map_lexeme_relined {α : Type} (f : Lexeme → α) (gap : List Char) (pieces : List Piece) :
    (Piece.relined gap pieces).map (fun p => f p.lexeme) = pieces.map fun p => f p.lexeme := by
  induction pieces generalizing gap with
  | nil => rfl
  | cons p pieces ih => rw [Piece.relined, List.map_cons, List.map_cons, ih]

/-- The text of pieces on a line each is that of their lexemes, joined by line feeds. -/
theorem text_relined (gap : List Char) (p : Piece) (pieces : List Piece) :
    (Piece.relined gap (p :: pieces)).flatMap Piece.text =
      gap ++ ['\n'].intercalate ((p :: pieces).map fun p => p.lexeme.text) := by
  induction pieces generalizing gap p with
  | nil => simp [Piece.relined, Piece.text]
  | cons q pieces ih =>
    rw [Piece.relined, List.flatMap_cons, ih ['\n'] q, List.map_cons, List.map_cons, List.map_cons,
      List.intercalate_cons_cons]
    simp [Piece.text]

/-- A piece begins a line if it is the first one or a line ends in front of it. -/
theorem startsLine_relined (pieces : List Piece) {gap : List Char} {started : Bool} (offset : Nat)
    (begins : gap.any Text.isLineBreak = true ∨ started = false) :
    ∀ t ∈ Piece.tokens offset started (Piece.relined gap pieces), t.startsLine = true := by
  induction pieces generalizing gap started offset with
  | nil => intro t member; cases member
  | cons p pieces ih =>
    intro t member
    rcases List.mem_cons.mp member with rfl | member
    · rcases begins with line | first
      · simp [Piece.token, line]
      · simp [Piece.token, first]
    · exact ih _ (.inl (by decide)) t member

namespace Cut

variable {v : Vocabulary} {text last : List Char} {pieces : List Piece}

/-- **The lexemes of a text are cut again** when there is nothing between them but line feeds. -/
theorem relined (unspaced : v.Unspaced) (cut : Cut v text pieces last)
    (closed : ∀ p ∈ pieces, ¬ p.lexeme.EndsInHexPoint) (gap : List Char)
    (trivia : ∀ rest, Trivia.Before gap rest) :
    Cut v ((Piece.relined gap pieces).flatMap Piece.text) (Piece.relined gap pieces) [] := by
  induction cut generalizing gap with
  | last => exact .last Trivia.length_nil
  | @piece gap' rest lexeme pieces last taken found cut ih =>
    have behind := ih (fun p member => closed p (List.mem_cons_of_mem _ member)) ['\n']
      fun _ => .lineBreak rfl .nil
    have ends : LineEndFor ((Piece.relined ['\n'] pieces).flatMap Piece.text) rest := by
      refine ⟨?_, ?_⟩
      · cases pieces <;> rfl
      · rintro rfl
        rw [cut.eq_nil.1]
        rfl
    obtain ⟨rest', split, before⟩ := Lexeme.exists_before found
    obtain rfl := List.append_cancel_left split
    have found' := (before.lineEnd unspaced ends (closed _ (List.mem_cons_self ..))).first?_eq
    have start := Trivia.item_append_eq_zero (Lexeme.text_ne_nil found) (Trivia.item_of_length taken)
      ends.space
    have whole := Cut.piece ((trivia _).length_eq start) found' behind
    rwa [← List.append_assoc] at whole

/-- Where no token is a hexadecimal literal that ends with its point, no lexeme is one. -/
theorem not_endsInHexPoint (cut : Cut v text pieces last)
    (closed : ∀ t ∈ tokensOf v text, t.endsInHexPoint = false) :
    ∀ p ∈ pieces, ¬ p.lexeme.EndsInHexPoint := by
  rintro p member ⟨⟨type, literal⟩, hex, point⟩
  have among : (p.lexeme.kind, p.lexeme.value) ∈ (Piece.tokens 0 false pieces).map Token.content := by
    rw [content_tokens]
    exact List.mem_map_of_mem member
  obtain ⟨t, member', same⟩ := List.mem_map.mp among
  obtain ⟨kind, value⟩ := Prod.mk.inj same
  have listed : t ∈ tokensOf v text := by
    rw [cut.tokensOf_eq, tokensAlong_eq]
    exact List.mem_append_left _ member'
  have spelled : t.value = String.ofList p.lexeme.text := by
    rw [value, Lexeme.value, literal]
  have here := closed t listed
  simp [Token.endsInHexPoint, kind, literal, spelled, hex, point] at here

/-- The texts that the tokens cover are those of the lexemes. -/
theorem tokenTexts?_eq (cut : Cut Vocabulary.java text pieces last) :
    tokenTexts? text = some (pieces.map fun p => p.lexeme.text) := by
  have covered := mapM_slice?_tokens pieces last [] false
  rw [List.nil_append, ← cut.text_eq, Text.byteLength_nil] at covered
  rw [tokenTexts?, cut.properTokens_eq, covered]

end Cut

/-- **Tokens on a line each are cut again.** The texts of the tokens of a text, joined by line feeds,
are cut into tokens of the same kinds and values, one for each text and errors among them, unless one of
the tokens is a hexadecimal literal that ends with its point. -/
theorem relined_tokenize (text : List Char) (closed : ∀ t ∈ tokenize text, t.endsInHexPoint = false) :
    ∃ texts, tokenTexts? text = some texts ∧ Relined text texts (['\n'].intercalate texts) := by
  obtain ⟨pieces, last, cut⟩ := Cut.exists_cut Vocabulary.java text
  have again := cut.relined Vocabulary.unspaced_java (cut.not_endsInHexPoint closed) [] fun _ => .nil
  have joined : (Piece.relined [] pieces).flatMap Piece.text =
      ['\n'].intercalate (pieces.map fun p => p.lexeme.text) := by
    cases pieces with
    | nil => rfl
    | cons p pieces => exact text_relined [] p pieces
  rw [joined] at again
  refine ⟨_, cut.tokenTexts?_eq, ?_⟩
  refine { ends := ?_, contents := ?_, texts := ?_, lines := ?_ }
  · rw [again.properTokens_eq]
    exact ⟨_, again.tokensOf_eq.trans (tokensAlong_eq _ _ _ _), rfl⟩
  · rw [again.properTokens_eq, cut.properTokens_eq, content_tokens, content_tokens]
    exact map_lexeme_relined (fun lexeme => (lexeme.kind, lexeme.value)) [] pieces
  · rw [again.tokenTexts?_eq]
    exact congrArg some (map_lexeme_relined Lexeme.text [] pieces)
  · rw [again.properTokens_eq]
    exact startsLine_relined pieces 0 (.inr rfl)

/-- Neither an exponent without digits nor a word between quotes needs what stood behind it. -/
theorem relined_tokenize_openChar :
    let text := ['0', 'x', '1', '.', '8', 'p', 'e', '+', '\'', 'a', 'b', '\'', '1', 'e', '-']
    (∀ t ∈ tokenize text, t.endsInHexPoint = false) ∧
      ∃ texts, tokenTexts? text = some texts ∧ Relined text texts (['\n'].intercalate texts) := by
  intro text
  have closed : ∀ t ∈ tokenize text, t.endsInHexPoint = false := by decide +kernel
  exact ⟨closed, relined_tokenize text closed⟩

/-- The point of a hexadecimal literal is lost when it no longer stands in front of an underscore. -/
example :
    tokenTexts? ['0', 'x', '1', '.', '_'] = some [['0', 'x', '1', '.'], ['_']] ∧
      tokenTexts? ['0', 'x', '1', '.', '\n', '_'] = some [['0', 'x', '1'], ['.'], ['_']] := by
  decide +kernel

end Lexis
