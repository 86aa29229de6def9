import Lexis.Scan.Lexeme
import Lexis.Scan.Trivia

/-!
# The lexer

A lexer is a value: the part of a text that is still to be read, and what the next token needs to know
of the part already read. A step skips trivia, cuts one lexeme, and leaves the lexer behind it. Saving
a position is keeping the value.

A step that does not end the text leaves less of it, so reading on always ends. `remaining` lists the
tokens that are still to come, up to the one that marks the end of the text.
-/

set_option autoImplicit false

namespace Lexis

/-- A position in a text that is being cut into tokens. -/
structure Lexer where
  vocabulary : Vocabulary
  /-- The text that is still to be read. -/
  rest : List Char
  /-- The bytes that were read. -/
  offset : Nat
  /-- Whether a token was cut before. -/
  started : Bool
  /-- The token that marks the end, once it was reached. -/
  finished? : Option Token

namespace Lexer

/-- The lexer in front of a text. -/
def start (vocabulary : Vocabulary) (text : List Char) : Lexer where
  vocabulary := vocabulary
  rest := text
  offset := 0
  started := false
  finished? := none

/-- Whether nothing of the text is left to be read. -/
def atEnd (l : Lexer) : Bool := l.rest.isEmpty

/-- The next token, and the lexer behind it. At the end of the text the same token comes every time. -/
def next (l : Lexer) : Token × Lexer :=
  match l.finished? with
  | some last => (last, l)
  | none =>
    let gapLength := Trivia.length l.rest
    let gap := l.rest.take gapLength
    let rest := l.rest.drop gapLength
    let start := l.offset + Text.byteLength gap
    let startsLine := gap.any Text.isLineBreak || !l.started
    match Lexeme.first? l.vocabulary rest with
    | none =>
      let last : Token := ⟨.endOfInput, "", ⟨start, start⟩, startsLine⟩
      (last, { l with rest := rest, offset := start, started := true, finished? := some last })
    | some lexeme =>
      let stop := start + Text.byteLength lexeme.text
      (⟨lexeme.kind, lexeme.value, ⟨start, stop⟩, startsLine⟩,
        { l with rest := rest.drop lexeme.text.length, offset := stop, started := true })

/-- The next token and the lexer behind it, absent once the end was handed out. -/
def next? (l : Lexer) : Option (Token × Lexer) :=
  if l.finished?.isSome then none else some l.next

/-- The steps that a lexer can still take at most. -/
def stepsLeft (l : Lexer) : Nat := if l.finished?.isSome then 0 else l.rest.length + 1

/-- **A step gets nearer to the end.** It either marks the end or takes at least one character. -/
theorem stepsLeft_lt_of_next? {l after : Lexer} {token : Token}
    (step : l.next? = some (token, after)) : after.stepsLeft < l.stepsLeft := by
  unfold next? at step
  split at step
  · cases step
  · next unfinished =>
    have running : l.finished? = none := by simpa using unfinished
    have here : l.stepsLeft = l.rest.length + 1 := by simp [stepsLeft, running]
    have result := Option.some.inj step
    unfold next at result
    simp only [running] at result
    split at result
    · cases result
      rw [here]
      exact Nat.succ_pos _
    · next lexeme found =>
      cases result
      have taken : 0 < lexeme.text.length :=
        List.length_pos_iff.mpr (Lexeme.text_ne_nil found)
      have left : 0 < (l.rest.drop (Trivia.length l.rest)).length := by
        cases h : l.rest.drop (Trivia.length l.rest) with
        | nil => rw [h] at found; cases found
        | cons c cs => simp
      rw [here]
      simp only [stepsLeft, Option.isSome_none, Bool.false_eq_true, if_false, List.length_drop]
      simp only [List.length_drop] at left
      omega

/-- Reads to the end: all tokens that were still to come, and the lexer behind the last. -/
def drain (l : Lexer) : List Token × Lexer := go [] l
where
  /-- Goes on from the tokens already cut, the last of them first. -/
  go (cut : List Token) (l : Lexer) : List Token × Lexer :=
    match _step : l.next? with
    | none => (cut.reverse, l)
    | some (token, after) => go (token :: cut) after
  termination_by l.stepsLeft
  decreasing_by exact stepsLeft_lt_of_next? _step

/-- All tokens that are still to come, the last of which marks the end. -/
def remaining (l : Lexer) : List Token := l.drain.1

private theorem drain_go (cut : List Token) (l : Lexer) :
    (drain.go cut l).1 = cut.reverse ++ l.remaining := by
  induction h : l.stepsLeft using Nat.strongRecOn generalizing cut l with
  | _ steps ih =>
    unfold remaining drain
    rw [drain.go, drain.go]
    split
    · simp
    · next token after step =>
      have fewer : after.stepsLeft < steps := h ▸ stepsLeft_lt_of_next? step
      rw [ih _ fewer (token :: cut) after rfl, ih _ fewer [token] after rfl]
      simp

/-- Nothing remains behind the end. -/
theorem remaining_of_done {l : Lexer} (done : l.next? = none) : l.remaining = [] := by
  unfold remaining drain
  rw [drain.go]
  split
  · rfl
  · next step => rw [done] at step; cases step

/-- **Reading on unfolds once.** What remains is the next token and what remains behind it. -/
theorem remaining_of_next? {l after : Lexer} {token : Token}
    (step : l.next? = some (token, after)) : l.remaining = token :: after.remaining := by
  unfold remaining drain
  rw [drain.go]
  split
  · next done => rw [step] at done; cases done
  · next first behind found =>
    rw [step] at found
    cases found
    rw [drain_go]
    rfl

end Lexer

/-- **The tokens of a text** in a vocabulary. -/
def tokensOf (vocabulary : Vocabulary) (text : List Char) : List Token :=
  (Lexer.start vocabulary text).remaining

/-- The tokens of a Java text. -/
def tokenize (text : List Char) : List Token := tokensOf Vocabulary.java text

end Lexis
