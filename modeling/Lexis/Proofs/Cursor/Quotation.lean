import Lexis.Proofs.Cursor.Scanner
import Lexis.Proofs.Scan.Quotation

/-!
# Walking through quoted literals

The walks through string and character literals come as far as the readings of the two say, whatever these
come to: closed, ended by a line, cut short inside an escape, or with a word behind that a quote closes
(`goes_readString`, `goes_readChar`). The word is passed by its bytes and one more. Its bytes are whole
characters, and one byte is a quote where the next character was seen to be one.
-/

set_option autoImplicit false

namespace Lexis.Walk

open Quotation (Escape StringItem CharItem)

variable {text low rest : List Char}

/-! ## Escapes -/

/-- So many characters are passed, or as many as there are. -/
theorem goes_advanceTimes (n : Nat) (cs : List Char) :
    Goes text low (advanceTimes n) cs (n ≤ cs.length) (cs.drop n) := by
  induction n generalizing cs with
  | zero => exact goes_pure _ _
  | succ n ih =>
    cases cs with
    | nil => exact goes_advance_nil.bind (goes_pure _ _)
    | cons c rest =>
      have size : decide (n + 1 ≤ (c :: rest).length) = decide (n ≤ rest.length) := by
        simp
      rw [size]
      exact (goes_advance c rest).bind (ih rest)

private theorem goes_escapeBody_marks (marks : Nat) {four : List Char} (other : four.head? ≠ some 'u') :
    Goes text low escapeBody ('u' :: (List.replicate marks 'u' ++ four)) (4 ≤ four.length)
      (four.drop 4) := by
  have passed : Goes text low (advanceWhile (· == 'u')) (List.replicate (marks + 1) 'u' ++ four) _ _ :=
    goes_advanceWhile _ _
  rw [Quotation.run_marks (marks + 1) other, List.drop_left' List.length_replicate] at passed
  exact (goes_peek 0 _).bind (passed.bind (goes_advanceTimes 4 four))

private theorem goes_escapeBody_of_ne {c : Char} (rest : List Char) (other : c ≠ 'u') :
    Goes text low escapeBody (c :: rest) true rest := by
  refine (goes_peek 0 _).bind ?_
  split
  · next nothing => cases nothing
  · next mark => exact absurd (Option.some.inj mark) other
  · exact (goes_advance c rest).bind (goes_pure _ _)

/-- What follows a backslash is passed. -/
theorem goes_escapeBody {x : List Char} (rest : List Char) (escape : Escape ('\\' :: x)) :
    Goes text low escapeBody (x ++ rest) true rest := by
  cases escape with
  | single other => exact goes_escapeBody_of_ne rest other
  | @unicode marks a b c d other =>
    have first : (a :: b :: c :: d :: rest).head? ≠ some 'u' := by simpa using other
    have passed : Goes text low escapeBody _ _ _ := goes_escapeBody_marks marks first
    rw [List.cons_append, List.append_assoc]
    simpa using passed

/-- Where an escape is cut short, what there is of it is passed. -/
theorem goes_escapeBody_short {cs : List Char} (short : Quotation.escape ('\\' :: cs) = 0) :
    Goes text low escapeBody cs false [] := by
  obtain rfl | ⟨marks, four, rfl, other, few⟩ := Quotation.exists_cutShort short
  · exact (goes_peek 0 []).bind (goes_pure _ _)
  · have passed : Goes text low escapeBody _ _ _ := goes_escapeBody_marks marks other
    rwa [decide_eq_false (Nat.not_le.mpr few), List.drop_eq_nil_of_le (Nat.le_of_lt few)] at passed

/-! ## Strings -/

/-- What a scanner makes of a reading of a quoted literal at the front of a text. -/
def ofReading (cs : List Char) (otherwise : LexicalError) (r : Quotation.Reading) :
    Except LexicalError (List Char) :=
  if r.closed then .ok (cs.take r.length) else .error otherwise

/-- A turn through a string passes one item. -/
private theorem goes_stringTurn (start : Nat) (unclosed : Except LexicalError (List Char))
    (x rest : List Char) (item : StringItem x) :
    Goes text low (stringTurn start unclosed) (x ++ rest) (.yield unclosed) rest := by
  cases item with
  | @plain c quote slash line =>
    refine (goes_peek 0 _).bind ?_
    split
    · next h => exact absurd (Option.some.inj h) quote
    · next h => exact absurd (Option.some.inj h) slash
    · next h =>
      obtain rfl := Option.some.inj h
      rw [line]
      exact (goes_advance c rest).bind (goes_pure _ _)
    · next h => cases h
  | escape escape =>
    have body : ∃ y, x = '\\' :: y := by
      cases escape with
      | single other => exact ⟨_, rfl⟩
      | unicode other => exact ⟨_, rfl⟩
    obtain ⟨y, rfl⟩ := body
    exact (goes_peek 0 _).bind ((goes_advance _ _).bind
      ((goes_escapeBody rest escape).bind (goes_pure _ _)))

private theorem goes_stringTurn_nil (start : Nat) (unclosed : Except LexicalError (List Char)) :
    Goes text low (stringTurn start unclosed) [] (.done unclosed) [] :=
  (goes_peek 0 []).bind (goes_pure _ _)

/-- A line end is left where it is. -/
private theorem goes_stringTurn_ended (start : Nat) (unclosed : Except LexicalError (List Char))
    (ended : rest.head?.all Text.isLineBreak = true) :
    Goes text low (stringTurn start unclosed) rest (.done unclosed) rest := by
  cases rest with
  | nil => exact goes_stringTurn_nil start unclosed
  | cons c rest =>
    have breaks : Text.isLineBreak c = true := by simpa using ended
    refine (goes_peek 0 _).bind ?_
    split
    · next h =>
      obtain rfl := Option.some.inj h
      cases breaks
    · next h =>
      obtain rfl := Option.some.inj h
      cases breaks
    · next h =>
      obtain rfl := Option.some.inj h
      rw [if_pos breaks]
      exact goes_pure _ _
    · next h => cases h

/-- **A string literal is read.** -/
theorem goes_readString (cs : List Char) :
    Goes text ('"' :: cs) readString ('"' :: cs)
      (ofReading ('"' :: cs) .unterminatedString (Quotation.readString cs))
      (('"' :: cs).drop (Quotation.readString cs).length) := by
  refine (goes_offset _).bind ((goes_advance _ cs).bind ?_)
  have nonempty := Quotation.spells_stringItem.nonempty
  obtain ⟨body, rest, rfl, items, ⟨behind, rfl, read⟩ | ⟨ended, read⟩ | ⟨behind, rfl, short, read⟩⟩ :=
    Quotation.readString_cases cs
  · have whole : '"' :: (body ++ '"' :: behind) = '"' :: (body ++ ['"']) ++ behind := by simp
    have size : ('"' :: (body ++ ['"'])).length = body.length + 2 := by simp
    rw [read, ofReading, if_pos rfl, whole, List.take_left' size, List.drop_left' size]
    refine goes_turns_row nonempty (goes_stringTurn _ _) items (goes_turns_done ?_)
    exact (goes_peek 0 _).bind ((goes_advance _ behind).bind
      ((goes_sliceFrom _ behind).bind (goes_pure _ _)))
  · rw [read, ofReading, if_neg Bool.false_ne_true, List.drop_succ_cons, List.drop_left]
    exact goes_turns_row nonempty (goes_stringTurn _ _) items
      (goes_turns_done (goes_stringTurn_ended _ _ ended))
  · have all : ('"' :: (body ++ '\\' :: behind)).drop ((body ++ '\\' :: behind).length + 1) = [] :=
      List.drop_length
    rw [read, ofReading, if_neg Bool.false_ne_true, all]
    have first : ∀ start unclosed, Goes text ('"' :: (body ++ '\\' :: behind))
        (stringTurn start unclosed) ('\\' :: behind) (.yield unclosed) [] := fun _ _ =>
      (goes_peek 0 _).bind ((goes_advance _ behind).bind
        ((goes_escapeBody_short short).bind (goes_pure _ _)))
    exact goes_turns_row nonempty (goes_stringTurn _ _) items
      (goes_turns_yield (first _ _) (Nat.succ_pos _) (goes_turns_done (goes_stringTurn_nil _ _)))

/-! ## Characters -/

/-- The end of a text is cut by the bytes in front of it. -/
private theorem slice?_behind (front back : List Char) :
    Text.slice? (front ++ back) (Text.byteLength front) (Text.byteLength (front ++ back)) = some back := by
  have cut := Text.slice?_byteLength front back []
  rwa [List.append_nil, ← Text.byteLength_append] at cut

/-- A word that a quote closes is passed with the quote. -/
private theorem goes_skipUnclosedWord {word after : List Char}
    (taken : (word ++ '\'' :: after).takeWhile Word.isPart = word) :
    Goes text low skipUnclosedWord (word ++ '\'' :: after) () after := by
  have bytes : Text.byteLength word + 1 = Text.byteLength (word ++ ['\'']) := by
    rw [Text.byteLength_append]
    rfl
  refine (goes_ahead _).bind ?_
  have moved : Goes text low _ _ _ _ := goes_jump (word ++ ['\'']) after
  rw [List.append_assoc, List.singleton_append] at moved
  simpa only [taken, slice?_behind, bytes] using moved

/-- A word that no quote closes is left where it is. -/
private theorem goes_skipUnclosedWord_open {word behind : List Char}
    (taken : (word ++ behind).takeWhile Word.isPart = word) (unclosed : ∀ after, behind ≠ '\'' :: after) :
    Goes text low skipUnclosedWord (word ++ behind) () (word ++ behind) := by
  refine (goes_ahead _).bind ?_
  simp only [taken, slice?_behind]
  exact goes_pure _ _

/-- **What can stand behind the one item of a character literal**: its quote, a word that a quote closes,
or anything else. -/
private theorem closeChar_cases (item : Nat) (rest : List Char) :
    (∃ after, rest = '\'' :: after ∧ Quotation.closeChar item rest = ⟨item + 2, true⟩) ∨
      (rest.head? ≠ some '\'' ∧ ∃ word behind, rest = word ++ behind ∧
        (word ++ behind).takeWhile Word.isPart = word ∧
        ((∃ after, behind = '\'' :: after ∧
            Quotation.closeChar item rest = ⟨item + word.length + 2, false⟩) ∨
          (∀ after, behind ≠ '\'' :: after) ∧ Quotation.closeChar item rest = ⟨item + 1, false⟩)) := by
  by_cases closed : rest.head? = some '\''
  · obtain ⟨after, rfl⟩ := List.head?_eq_some_iff.mp closed
    exact .inl ⟨after, rfl, rfl⟩
  refine .inr ⟨closed, rest.takeWhile Word.isPart, rest.dropWhile Word.isPart,
    (List.takeWhile_append_dropWhile ..).symm, congrArg _ List.takeWhile_append_dropWhile, ?_⟩
  have behind : rest.drop (Word.length rest) = rest.dropWhile Word.isPart := by
    have split := List.takeWhile_append_dropWhile (p := Word.isPart) (l := rest)
    calc rest.drop (Word.length rest)
      _ = (rest.takeWhile Word.isPart ++ rest.dropWhile Word.isPart).drop (Word.length rest) := by
        rw [split]
      _ = rest.dropWhile Word.isPart := List.drop_left
  simp only [Quotation.closeChar, behind]
  split
  · next after h =>
    have some : (Word.length rest == 0) = false := by
      by_contra none
      have none : Word.length rest = 0 := by simpa using none
      rw [none, List.drop_zero, h] at behind
      exact closed (behind ▸ rfl)
    exact .inl ⟨after, h, by rw [some]; rfl⟩
  · next h => exact .inr ⟨h, rfl⟩

/-- What closes a character literal behind its one item is passed, or nothing. -/
theorem goes_closeChar (front : List Char) {item : Nat} (size : front.length = item + 1)
    (rest : List Char) :
    Goes text (front ++ rest) (closeChar (offsetOf text (front ++ rest))) rest
      (ofReading (front ++ rest) .unterminatedChar (Quotation.closeChar item rest))
      ((front ++ rest).drop (Quotation.closeChar item rest).length) := by
  obtain ⟨after, rfl, read⟩ |
      ⟨uneaten, word, behind, rfl, taken, ⟨after, rfl, read⟩ | ⟨unclosed, read⟩⟩ :=
    closeChar_cases item rest
  · have whole : front ++ '\'' :: after = front ++ ['\''] ++ after := by simp
    have size' : (front ++ ['\'']).length = item + 2 := by simp [size]
    rw [read, ofReading, if_pos rfl, whole, List.take_left' size', List.drop_left' size']
    exact (goes_eatAny (contains_singleton '\'') _).bind ((goes_sliceFrom _ after).bind (goes_pure _ _))
  · have whole : front ++ (word ++ '\'' :: after) = front ++ (word ++ ['\'']) ++ after := by simp
    have size' : (front ++ (word ++ ['\''])).length = item + word.length + 2 := by
      simp only [List.length_append, List.length_singleton, size]
      omega
    rw [read, ofReading, if_neg Bool.false_ne_true, whole, List.drop_left' size']
    exact (goes_eatAny_of_ne uneaten).bind ((goes_skipUnclosedWord taken).bind (goes_pure _ _))
  · rw [read, ofReading, if_neg Bool.false_ne_true, List.drop_left' size]
    exact (goes_eatAny_of_ne uneaten).bind
      ((goes_skipUnclosedWord_open taken unclosed).bind (goes_pure _ _))

/-- **A character literal is read.** -/
theorem goes_readChar (cs : List Char) :
    Goes text ('\'' :: cs) readChar ('\'' :: cs)
      (ofReading ('\'' :: cs) .unterminatedChar (Quotation.readChar cs))
      (('\'' :: cs).drop (Quotation.readChar cs).length) := by
  refine (goes_offset _).bind ((goes_advance _ cs).bind ((goes_peek 0 _).bind ?_))
  rcases Quotation.readChar_cases cs with ⟨ended, read⟩ | ⟨rest, rfl, read⟩ | ⟨rest, rfl, ended, read⟩ |
    ⟨rest, rfl, more, short, read⟩ | ⟨item, rest, rfl, plain, read⟩
  · rw [read, ofReading, if_neg Bool.false_ne_true, List.drop_succ_cons, List.drop_zero]
    cases cs with
    | nil => exact goes_pure _ _
    | cons c rest =>
      have breaks : Text.isLineBreak c = true := by simpa using ended
      split
      · exact goes_pure _ _
      · next h =>
        obtain rfl := Option.some.inj h
        cases breaks
      · next h =>
        obtain rfl := Option.some.inj h
        cases breaks
      · next h =>
        obtain rfl := Option.some.inj h
        rw [if_pos breaks]
        exact goes_pure _ _
  · rw [read, ofReading, if_neg Bool.false_ne_true]
    exact (goes_advance _ rest).bind (goes_pure _ _)
  · rw [read, ofReading, if_neg Bool.false_ne_true, List.drop_succ_cons, List.drop_succ_cons, List.drop_zero]
    refine (goes_advance _ rest).bind ((goes_peek 0 _).bind ?_)
    cases rest with
    | nil => exact ((goes_peek 0 []).bind (goes_pure false _)).bind (goes_pure _ _)
    | cons c rest =>
      have breaks : Text.isLineBreak c = true := by simpa using ended
      rw [List.getElem?_cons_zero, Option.any_some, if_pos breaks]
      exact goes_pure _ _
  · have all : ('\'' :: '\\' :: rest).drop (('\\' :: rest).length + 1) = [] := List.drop_length
    rw [read, ofReading, if_neg Bool.false_ne_true, all]
    refine (goes_advance _ rest).bind ((goes_peek 0 _).bind ?_)
    have inside : ¬ rest[0]?.any Text.isLineBreak = true := by
      cases rest with
      | nil => cases more
      | cons c rest => simpa using more
    rw [if_neg inside]
    exact (goes_escapeBody_short short).bind (goes_pure _ _)
  · rw [read]
    cases plain with
    | @plain c quote slash line =>
      split
      · next h => cases h
      · next h => exact absurd (Option.some.inj h) quote
      · next h => exact absurd (Option.some.inj h) slash
      · next h =>
        obtain rfl := Option.some.inj h
        rw [line]
        exact (goes_advance c rest).bind (goes_closeChar ['\'', c] rfl rest)
    | @escape c x escape line =>
      refine (goes_advance _ _).bind ((goes_peek 0 _).bind ?_)
      have inside : ¬ (c :: (x ++ rest))[0]?.any Text.isLineBreak = true := by simpa using line
      show Goes text _ (if (c :: (x ++ rest))[0]?.any Text.isLineBreak = true then _ else _) _ _ _
      rw [if_neg inside]
      exact (goes_escapeBody rest escape).bind (goes_closeChar ('\'' :: '\\' :: c :: x) rfl rest)

end Lexis.Walk
