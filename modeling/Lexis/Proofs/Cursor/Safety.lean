import Lexis.Proofs.Cursor.Trivia
import Lexis.Proofs.Cursor.Numeral
import Lexis.Proofs.Cursor.Quotation
import Lexis.Proofs.Lexer.Cut

/-!
# The scanner never stumbles

The walks of a scanner cut what the lexer cuts (`Walk.goes_readToken`), so a scanner goes along with a
lexer, step by step and for ever. With that it is known where its cursor is: on the boundaries of
characters, wherever it is moved in between, and from where the trivia ends not below the start of the token
(`Scanner.surefooted_run`). No part of a text is asked for that cannot be cut from it, and no loop stands
still; either would have ended the run.

What carries the induction is that the lexer is in the text (`Lexer.Inside`): the offset that it counts is
that of the place in front of what it has to read.
-/

set_option autoImplicit false

namespace Lexis

namespace Walk

variable {text rest : List Char}

/-! ## Tokens -/

theorem goes_readWord (cs : List Char) :
    Goes text cs readWord cs (cs.take (Word.length cs)) (cs.drop (Word.length cs)) :=
  goes_cut fun rest => ⟨(), goes_advanceWhile Word.isPart rest⟩

theorem goes_readNumeral (cs : List Char) :
    Goes text cs readNumeral cs (cs.take (Numeral.length cs)) (cs.drop (Numeral.length cs)) :=
  goes_cut passes_numeral

/-- The value of a lexeme is its text, but for a literal that is not closed. -/
private theorem value_eq_text {lexeme : Lexeme} (closed : ¬ Lexeme.Unclosed lexeme.kind) :
    lexeme.value = String.ofList lexeme.text := by
  unfold Lexeme.value
  split
  · next h => exact absurd (.inl h) closed
  · next h => exact absurd (.inr h) closed
  · rfl

private theorem not_unclosed_kindOfWord (v : Vocabulary) (word : List Char) :
    ¬ Lexeme.Unclosed (v.kindOfWord word) := by
  unfold Vocabulary.kindOfWord
  repeat' split
  all_goals simp [Lexeme.Unclosed]

private theorem not_unclosed_symbol {v : Vocabulary} {cs : List Char} {kind : TokenKind} {symbol : String}
    (found : v.symbolAt? cs = some (kind, symbol)) : ¬ Lexeme.Unclosed kind := by
  rcases Lexeme.kind_of_symbolAt? found with rfl | rfl <;> simp [Lexeme.Unclosed]

/-- What is made of a quoted literal is the lexeme and its value. -/
private theorem literalOrError_ofReading (closed : Bool) {reason : LexicalError}
    (unclosed : Lexeme.Unclosed (.error reason)) (mark : Char) (cs rest : List Char) :
    literalOrError (ofReading (mark :: (cs ++ rest)) reason ⟨cs.length + 1, closed⟩) =
      ((Lexeme.quoted closed reason (mark :: cs)).kind,
        (Lexeme.quoted closed reason (mark :: cs)).value) := by
  cases closed with
  | true =>
    rw [ofReading, if_pos rfl, List.take_succ_cons, List.take_left]
    rfl
  | false => rcases unclosed with h | h <;> cases h <;> rfl

/-- **A token is read**, by the reader that its first character calls. -/
theorem goes_readToken {v : Vocabulary} {lexeme : Lexeme} (before : Lexeme.Before v lexeme rest) :
    Goes text (lexeme.text ++ rest) (readToken v) (lexeme.text ++ rest)
      (some (lexeme.kind, lexeme.value)) rest := by
  cases before with
  | @word c cs _ start size =>
    have read : Goes text _ _ _ _ _ := goes_readWord (c :: cs ++ rest)
    rw [size, List.take_left, List.drop_left] at read
    rw [value_eq_text (not_unclosed_kindOfWord v _)]
    refine (goes_peek 0 _).bind ?_
    simp only [List.cons_append, List.getElem?_cons_zero, start, if_true]
    exact read.bind (goes_pure _ _)
  | @numeral c cs _ start digit size =>
    have read : Goes text _ _ _ _ _ := goes_readNumeral (c :: cs ++ rest)
    rw [size, List.take_left, List.drop_left] at read
    refine (goes_peek 0 _).bind ?_
    simp only [Lexeme.literal_text, List.cons_append, List.getElem?_cons_zero, start, digit, if_true,
      if_false, Bool.false_eq_true]
    exact read.bind (goes_pure _ _)
  | @string closed cs _ read =>
    have goes : Goes text _ _ _ _ _ := goes_readString (cs ++ rest)
    have start : ¬ Word.isStart '"' = true := by decide
    have digit : ¬ Char.isDigit '"' = true := by decide
    rw [read, List.drop_succ_cons, List.drop_left] at goes
    rw [Lexeme.quoted_text, ← literalOrError_ofReading closed (.inl rfl) '"' cs rest]
    refine (goes_peek 0 _).bind ?_
    simp only [List.cons_append, List.getElem?_cons_zero, if_neg start, if_neg digit]
    exact goes.bind (goes_pure _ _)
  | @char closed cs _ read =>
    have goes : Goes text _ _ _ _ _ := goes_readChar (cs ++ rest)
    have start : ¬ Word.isStart '\'' = true := by decide
    have digit : ¬ Char.isDigit '\'' = true := by decide
    rw [read, List.drop_succ_cons, List.drop_left] at goes
    rw [Lexeme.quoted_text, ← literalOrError_ofReading closed (.inr rfl) '\'' cs rest]
    refine (goes_peek 0 _).bind ?_
    simp only [List.cons_append, List.getElem?_cons_zero, if_neg start, if_neg digit]
    exact goes.bind (goes_pure _ _)
  | @symbol kind symbol c cs _ unmarked spelled found =>
    have moved : Goes text (c :: cs ++ rest) _ _ _ _ := goes_jump (c :: cs) rest
    rw [← spelled, ← Text.utf8ByteSize_eq_byteLength, spelled] at moved
    have value : Lexeme.value ⟨kind, c :: cs⟩ = symbol := by
      rw [value_eq_text (not_unclosed_symbol found), ← spelled, String.ofList_toList]
    rw [Vocabulary.symbolAt?_eq_searchSymbol?, List.cons_append] at found
    rw [value]
    refine (goes_peek 0 _).bind ?_
    simp only [List.cons_append, List.getElem?_cons_zero, unmarked.word, unmarked.digit, unmarked.quote,
      unmarked.apostrophe, if_false, Bool.false_eq_true]
    refine (goes_ahead _).bind ?_
    rw [found]
    exact moved.bind (goes_pure _ _)
  | @unrecognised c _ unmarked none =>
    rw [Vocabulary.symbolAt?_eq_searchSymbol?] at none
    refine (goes_peek 0 _).bind ?_
    simp only [List.cons_append, List.getElem?_cons_zero, unmarked.word, unmarked.digit, unmarked.quote,
      unmarked.apostrophe, if_false, Bool.false_eq_true]
    refine (goes_ahead _).bind ?_
    rw [List.nil_append, none]
    exact (goes_advance c rest).bind (goes_pure _ _)

theorem goes_readToken_nil (v : Vocabulary) : Goes text [] (readToken v) [] none [] :=
  (goes_peek 0 []).bind (goes_pure none [])

/-! ## Walks and their offsets -/

/-- **An offset at which a text can be cut**: it is in the text, and what is in front of it is whole
characters. -/
structure OnBoundary (text : List Char) (offset : Nat) : Prop where
  within : offset ≤ Text.byteLength text
  whole : ∃ front, front <+: text ∧ Text.byteLength front = offset

/-- A text is cut where its characters can be counted up to an offset. -/
theorem onBoundary_iff {offset : Nat} :
    OnBoundary text offset ↔ (Text.charIndex? text offset).isSome = true := by
  rw [Option.isSome_iff_exists]
  constructor
  · rintro ⟨-, front, ⟨rest, rfl⟩, rfl⟩
    exact ⟨front.length, Text.charIndex?_byteLength front rest⟩
  · rintro ⟨passed, counted⟩
    have bytes := Text.byteLength_take_of_charIndex? counted
    refine ⟨?_, text.take passed, List.take_prefix passed text, bytes⟩
    rw [← bytes, ← List.take_append_drop passed text, Text.byteLength_append, List.take_append_drop]
    exact Nat.le_add_right _ _

theorem onBoundary_offsetOf (inside : rest <:+ text) : OnBoundary text (offsetOf text rest) := by
  refine ⟨offsetOf_le_byteLength text rest, ?_⟩
  obtain ⟨front, rfl⟩ := inside
  exact ⟨front, List.prefix_append _ _, (offsetOf_append front rest).symm⟩

theorem offsetOf_le_offsetOf {place : List Char} (inside : place <:+ rest) :
    offsetOf text rest ≤ offsetOf text place := by
  obtain ⟨part, rfl⟩ := inside
  rw [offsetOf, offsetOf, Text.byteLength_append]
  omega

/-- A walk that goes on from its lowest place comes to its answer, on boundaries and never below where it
began. -/
theorem Goes.exists_run {α : Type} {x : Walk α} {a : α} {left : List Char}
    (goes : Goes text rest x rest a left) (inside : rest <:+ text) :
    left <:+ rest ∧ ∃ trail, x text ⟨offsetOf text rest, []⟩ = .ok (a, ⟨offsetOf text left, trail⟩) ∧
      ∀ offset ∈ trail, OnBoundary text offset ∧ offsetOf text rest ≤ offset := by
  obtain ⟨behind, run⟩ := goes inside (List.suffix_refl rest)
  obtain ⟨trail, run, places⟩ := run []
  rw [List.append_nil] at run
  refine ⟨behind, trail, run, fun offset member => ?_⟩
  obtain ⟨place, below, rfl⟩ := places offset member
  exact ⟨onBoundary_offsetOf (below.trans inside), offsetOf_le_offsetOf below⟩

end Walk

/-- The lexer behind so many tokens. -/
def Lexer.behind (l : Lexer) : Nat → Lexer
  | 0 => l
  | tokens + 1 => (l.behind tokens).next.2

/-- **A lexer is in a text**: what it has to read is the end of the text, it counts the bytes in front, and
the end is marked where it is. -/
structure Lexer.Inside (l : Lexer) (text : List Char) : Prop where
  place : l.rest <:+ text
  offset : l.offset = Walk.offsetOf text l.rest
  last : ∀ last ∈ l.finished?, last.span.start = l.offset

namespace Scanner

/-- The scanner that stands in a text where a lexer does. -/
def ofLexer (text : List Char) (l : Lexer) : Scanner :=
  ⟨l.vocabulary, text, l.offset, l.started, l.finished?⟩

/-- **A step is surefooted**: the cursor is on a boundary before the step and behind it, where the token
starts, and wherever it is moved to. In the trivia it does not fall below where it was, and in the token not
below where that starts. -/
structure Surefooted (s : Scanner) (step : Step) : Prop where
  before : Walk.OnBoundary s.text s.offset
  gap : ∀ offset ∈ step.gap, Walk.OnBoundary s.text offset ∧ s.offset ≤ offset
  start : Walk.OnBoundary s.text step.token.span.start ∧ s.offset ≤ step.token.span.start
  body : ∀ offset ∈ step.body, Walk.OnBoundary s.text offset ∧ step.token.span.start ≤ offset
  after : Walk.OnBoundary s.text step.after.offset ∧ step.token.span.start ≤ step.after.offset
  /-- The cursor is not further back behind the step than before. -/
  forward : s.offset ≤ step.after.offset

/-- A step from a scanner is that of a lexer in a text. -/
structure IsStepOf (text : List Char) (l : Lexer) (s : Scanner) (step : Step) : Prop where
  before : s = ofLexer text l
  token : step.token = l.next.1
  after : step.after = ofLexer text l.next.2

variable {text : List Char} {l : Lexer}

section Walks

variable {sawLineEnd : Bool} {gap body : List Nat} {start stop : Nat}

/-- A step of a scanner whose walk through the trivia ends the text. -/
private theorem next_of_end (running : l.finished? = none)
    (skipped : Walk.skipTrivia text ⟨l.offset, []⟩ = .ok (sawLineEnd, ⟨start, gap⟩))
    (read : Walk.readToken l.vocabulary text ⟨start, []⟩ = .ok (none, ⟨stop, body⟩)) :
    let last : Token := ⟨.endOfInput, "", ⟨start, start⟩, sawLineEnd || !l.started⟩
    (ofLexer text l).next = .ok ⟨last, ⟨l.vocabulary, text, start, true, some last⟩, gap, body⟩ := by
  simp only [next, ofLexer, running, skipped, read, bind, Except.bind]
  rfl

/-- A step of a scanner whose walks come to a token. -/
private theorem next_of_token (running : l.finished? = none) {kind : TokenKind} {value : String}
    (skipped : Walk.skipTrivia text ⟨l.offset, []⟩ = .ok (sawLineEnd, ⟨start, gap⟩))
    (read : Walk.readToken l.vocabulary text ⟨start, []⟩ = .ok (some (kind, value), ⟨stop, body⟩)) :
    (ofLexer text l).next = .ok ⟨⟨kind, value, ⟨start, stop⟩, sawLineEnd || !l.started⟩,
      ⟨l.vocabulary, text, stop, true, none⟩, gap, body⟩ := by
  simp only [next, ofLexer, running, skipped, read, bind, Except.bind]
  rfl

end Walks

/-- **A step of a scanner** is surefooted and is that of the lexer. -/
theorem exists_next (inside : l.Inside text) :
    l.next.2.Inside text ∧ ∃ step, (ofLexer text l).next = .ok step ∧ (ofLexer text l).Surefooted step ∧
      IsStepOf text l (ofLexer text l) step := by
  have before : Walk.OnBoundary text l.offset := inside.offset ▸ Walk.onBoundary_offsetOf inside.place
  cases finished : l.finished? with
  | some last =>
    have same : l.next = (last, l) := by rw [Lexer.next, finished]
    have step : (ofLexer text l).next = .ok ⟨last, ofLexer text l, [], []⟩ := by
      rw [next, ofLexer, finished]
      rfl
    have start := inside.last last finished
    have here : Walk.OnBoundary text last.span.start ∧ l.offset ≤ last.span.start :=
      ⟨start.symm ▸ before, Nat.le_of_eq start.symm⟩
    exact ⟨same ▸ inside, _, step, ⟨before, List.forall_mem_nil _, here, List.forall_mem_nil _,
      ⟨before, Nat.le_of_eq start⟩, Nat.le_refl _⟩, rfl, same ▸ rfl, same ▸ rfl⟩
  | none =>
    obtain ⟨gap, rest, here, -, -, trivia⟩ := Trivia.exists_before l.rest
    rw [here] at trivia
    have whole := inside.place
    have start := inside.offset
    rw [here] at whole start
    have stop : Walk.offsetOf text rest = l.offset + Text.byteLength gap := by
      rw [Walk.offsetOf_part whole, start]
    obtain ⟨between, passed, skipped, gapSafe⟩ := (Walk.goes_skipTrivia (gap ++ rest)).exists_run whole
    rw [trivia, List.take_left, List.drop_left, ← start, stop] at skipped
    rw [← start] at gapSafe
    rw [trivia, List.drop_left] at between
    have place := between.trans whole
    have started := Walk.onBoundary_offsetOf place
    rw [stop] at started
    cases found : Lexeme.first? l.vocabulary rest with
    | none =>
      obtain rfl := Lexeme.first?_eq_none_iff.mp found
      obtain ⟨-, body, read, bodySafe⟩ := (Walk.goes_readToken_nil l.vocabulary).exists_run place
      rw [stop] at read bodySafe
      have step := next_of_end finished skipped read
      rw [List.append_nil] at here trivia
      have same := Lexer.next_last finished (here ▸ trivia)
      rw [here] at same
      have inside' : l.next.2.Inside text :=
        same ▸ ⟨place, stop.symm, fun _ marks => Option.some.inj marks ▸ rfl⟩
      refine ⟨inside', _, step, ⟨before, gapSafe, ⟨started, Nat.le_add_right _ _⟩, bodySafe,
        ⟨started, Nat.le_refl _⟩, Nat.le_add_right _ _⟩, rfl, ?_, ?_⟩
      · rw [same]
        rfl
      · rw [same]
        rfl
    | some lexeme =>
      obtain ⟨left, rfl, lexemeBefore⟩ := Lexeme.exists_before found
      obtain ⟨below, body, read, bodySafe⟩ := (Walk.goes_readToken lexemeBefore).exists_run place
      have stop' : Walk.offsetOf text left = l.offset + Text.byteLength (gap ++ lexeme.text) := by
        rw [Walk.offsetOf_part place, stop, Text.byteLength_append, Nat.add_assoc]
      have behind := Walk.onBoundary_offsetOf (below.trans place)
      rw [stop'] at read behind
      rw [stop] at read bodySafe
      have step := next_of_token finished skipped read
      have same := Lexer.next_piece finished here trivia found
      have inside' : l.next.2.Inside text := by
        rw [same]
        refine ⟨below.trans place, stop'.symm, fun last marks => ?_⟩
        rw [finished] at marks
        cases marks
      have longer : l.offset + Text.byteLength gap ≤ l.offset + Text.byteLength (gap ++ lexeme.text) := by
        rw [Text.byteLength_append, ← Nat.add_assoc]
        exact Nat.le_add_right _ _
      refine ⟨inside', _, step, ⟨before, gapSafe, ⟨started, Nat.le_add_right _ _⟩, bodySafe,
        ⟨behind, longer⟩, Nat.le_add_right _ _⟩, rfl, ?_, ?_⟩
      · rw [same, Text.byteLength_append, ← Nat.add_assoc]
        rfl
      · rw [same, ofLexer, finished]
        rfl

/-- A scanner comes behind every number of tokens, and stands there where the lexer does. -/
private theorem run_start (v : Vocabulary) (text : List Char) (tokens : Nat) :
    ((Lexer.start v text).behind tokens).Inside text ∧
      (start v text).run tokens = .ok (ofLexer text ((Lexer.start v text).behind tokens)) := by
  induction tokens with
  | zero => exact ⟨⟨List.suffix_refl text, (Nat.sub_self _).symm, nofun⟩, rfl⟩
  | succ tokens ih =>
    obtain ⟨inside, run⟩ := ih
    obtain ⟨inside', step, next, -, same⟩ := exists_next inside
    refine ⟨inside', ?_⟩
    rw [Scanner.run, run]
    show (do return (← (ofLexer text _).next).after) = _
    rw [next]
    exact congrArg Except.ok same.after

/-- **A scanner never stumbles.** Behind any number of tokens of any text, in any vocabulary, it takes the
next step surefootedly, and the step is the one that the lexer takes. -/
theorem surefooted_run (v : Vocabulary) (text : List Char) (tokens : Nat) :
    ∃ s step, (start v text).run tokens = .ok s ∧ s.next = .ok step ∧ s.Surefooted step ∧
      IsStepOf text ((Lexer.start v text).behind tokens) s step := by
  obtain ⟨inside, run⟩ := run_start v text tokens
  obtain ⟨-, step, next, surefooted, same⟩ := exists_next inside
  exact ⟨_, step, run, next, surefooted, same⟩

/-- The cursor is moved back in front of the mark of an exponent that no digits follow. -/
example : ((start Vocabulary.java ['1', 'e']).next.toOption.map Step.body) = some [1, 2, 1] := by
  decide +kernel

end Scanner

end Lexis
