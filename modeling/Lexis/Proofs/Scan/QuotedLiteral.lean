import Lexis.Proofs.Scan.Lexeme

/-!
# What the readers of quoted literals accept

A string literal is a row of items between two quotes, and the items are told apart without a look at
what follows them. So a text begins with one string literal at most, and the reader takes it
(`first?_string`). Where there is none, the string is an error, and what stands behind the longest row
of items decides how far it goes: up to a line end, and otherwise to the end of the text.

A character literal is one item between two quotes (`first?_char`). Where there is none, what the reader
takes is told by the ways in which a literal can be left open (`OpenChar`). Only one of them reaches to a
later quote: when nothing but a word stands between it and the item.
-/

set_option autoImplicit false

namespace Lexis

namespace Quotation

open Munch (Longest)

/-! ## Strings -/

/-- **A string literal**: items of a string between two quotes. -/
inductive StringLiteral : List Char → Prop
  | intro {items : List Char} : Body items → StringLiteral ('"' :: (items ++ ['"']))

/-- **What a string is taken for**, behind whose opening quote a text stands: what is taken of it, and
whether it is closed. -/
structure ReadsString (cs taken : List Char) (closed : Bool) : Prop where
  closes : closed = true ↔ ∃ literal, StringLiteral literal ∧ literal <+: '"' :: cs
  /-- A text begins with one literal at most, and that one is taken. -/
  only : ∀ literal, StringLiteral literal → literal <+: '"' :: cs → literal = taken
  /-- A string that is not closed goes as far as its items in front of a line end, and otherwise to the
  end of the text. -/
  stops : closed = false → ∃ items behind, cs = items ++ behind ∧ Longest Body cs items ∧
    taken = '"' :: (if behind.head?.any Text.isLineBreak then items else cs)

theorem readString_of_literal {cs literal : List Char} (string : StringLiteral literal)
    (begins : literal <+: '"' :: cs) : readString cs = ⟨literal.length, true⟩ := by
  obtain ⟨body⟩ := string
  obtain ⟨behind, split⟩ := begins
  obtain rfl := (List.cons.inj split).2
  simp [readString_closed behind body]

/-- Where a string is not closed, no item stands behind its items: there is a line end, an escape that is
cut short, or nothing. -/
theorem exists_longest_body {cs : List Char} (unclosed : (readString cs).closed = false) :
    ∃ items behind, cs = items ++ behind ∧ Longest Body cs items ∧
      (readString cs).length =
        ('"' :: (if behind.head?.any Text.isLineBreak then items else cs)).length := by
  obtain ⟨items, behind, rfl, body, ⟨_, -, read⟩ | ⟨ended, read⟩ | ⟨after, rfl, short, read⟩⟩ :=
    readString_cases cs
  · rw [read] at unclosed
    cases unclosed
  · rw [read]
    cases behind with
    | nil => exact ⟨items, [], rfl, spells_stringItem.longest_row body rfl, by simp⟩
    | cons c behind =>
      have line : Text.isLineBreak c = true := by simpa using ended
      have none := stringItem_eq_zero behind (.inr line)
      exact ⟨items, c :: behind, rfl, spells_stringItem.longest_row body none, by simp [line]⟩
  · have none : stringItem ('\\' :: after) = 0 := by simp [stringItem, Munch.orElse, short, Munch.one]
    have plain : Text.isLineBreak '\\' = false := by decide
    rw [read]
    exact ⟨items, '\\' :: after, rfl, spells_stringItem.longest_row body none, by simp [plain]⟩

/-- Fronts of a text that are of one length are the same. -/
private theorem eq_take_of_begins {cs front : List Char} {n : Nat} (begins : front <+: cs)
    (size : n = front.length) : front = cs.take n := by
  rw [size]
  exact List.prefix_iff_eq_take.mp begins

theorem readsString (cs : List Char) :
    ReadsString cs (('"' :: cs).take (readString cs).length) (readString cs).closed where
  closes := by
    refine ⟨fun closed => ?_, fun ⟨literal, string, begins⟩ => by
      rw [readString_of_literal string begins]⟩
    obtain ⟨items, behind, rfl, body, ⟨after, rfl, -⟩ | ⟨-, read⟩ | ⟨-, -, -, read⟩⟩ :=
      readString_cases cs
    · exact ⟨_, ⟨body⟩, after, by simp⟩
    · rw [read] at closed
      cases closed
    · rw [read] at closed
      cases closed
  only literal string begins :=
    eq_take_of_begins begins (by rw [readString_of_literal string begins])
  stops unclosed := by
    obtain ⟨items, behind, split, longest, size⟩ := exists_longest_body unclosed
    refine ⟨items, behind, split, longest, (eq_take_of_begins ?_ size).symm⟩
    split
    · exact (List.cons_prefix_cons).mpr ⟨rfl, longest.begins⟩
    · exact List.prefix_refl _

/-! ## Characters -/

/-- **A character literal**: one item between two quotes. -/
inductive CharLiteral : List Char → Prop
  | intro {item : List Char} : CharItem item → CharLiteral ('\'' :: (item ++ ['\'']))

/-- A word that is not empty and the quote that closes it. -/
inductive ClosedWord : List Char → Prop
  | intro {letters : List Char} : letters ≠ [] → (∀ c ∈ letters, Word.isPart c = true) →
      ClosedWord (letters ++ ['\''])

/-- No quote stands at the front of a text, and none behind a word there. -/
def Unreached (cs : List Char) : Prop :=
  ∀ letters, (∀ c ∈ letters, Word.isPart c = true) → ¬ letters ++ ['\''] <+: cs

/-- **What a character literal takes that is not closed**, of the text behind its opening quote: two
quotes stand together, the line or the text ends behind the quote or behind a backslash, an escape is cut
short, or one item stands there, and a word behind it belongs to the error if a quote closes the word. -/
inductive OpenChar : List Char → List Char → Prop
  | empty {rest : List Char} : OpenChar ('\'' :: rest) ['\'']
  | ended {cs : List Char} : cs.head?.all Text.isLineBreak = true → OpenChar cs []
  | slash {rest : List Char} :
      rest.head?.all Text.isLineBreak = true → OpenChar ('\\' :: rest) ['\\']
  | cutShort (marks : Nat) {few : List Char} : few.head? ≠ some 'u' → few.length < 4 →
      OpenChar ('\\' :: 'u' :: (List.replicate marks 'u' ++ few))
        ('\\' :: 'u' :: (List.replicate marks 'u' ++ few))
  | item {item rest : List Char} : CharItem item → Unreached rest → OpenChar (item ++ rest) item
  | word {item word rest : List Char} : CharItem item → ClosedWord word →
      OpenChar (item ++ (word ++ rest)) (item ++ word)

/-- **What a character literal is taken for**, behind whose opening quote a text stands: what is taken of
it, and whether it is closed. -/
structure ReadsChar (cs taken : List Char) (closed : Bool) : Prop where
  closes : closed = true ↔ ∃ literal, CharLiteral literal ∧ literal <+: '\'' :: cs
  /-- A text begins with one literal at most, and that one is taken. -/
  only : ∀ literal, CharLiteral literal → literal <+: '\'' :: cs → literal = taken
  stops : ∀ front, OpenChar cs front ↔ closed = false ∧ taken = '\'' :: front

/-- A word in front of a quote is all that can be inside a word. -/
private theorem length_letters {letters : List Char} (word : ∀ c ∈ letters, Word.isPart c = true)
    (rest : List Char) : Word.length (letters ++ '\'' :: rest) = letters.length := by
  have quote : Word.isPart '\'' = false := by decide
  rw [Word.length, Munch.run, List.takeWhile_append_of_pos word]
  simp [quote]

theorem closeChar_word {letters : List Char} (word : ∀ c ∈ letters, Word.isPart c = true)
    (item : Nat) (rest : List Char) :
    closeChar item (letters ++ '\'' :: rest) = ⟨item + letters.length + 2, letters.isEmpty⟩ := by
  simp only [closeChar, length_letters word, List.drop_left]
  cases letters <;> rfl

theorem closeChar_unreached {rest : List Char} (none : Unreached rest) (item : Nat) :
    closeChar item rest = ⟨item + 1, false⟩ := by
  simp only [closeChar]
  split
  · next after quote =>
    -- what can be inside a word and the quote behind it are at the front
    refine absurd ?_ (none (rest.takeWhile Word.isPart) fun c => List.mem_takeWhile_imp)
    have front : rest.take (Word.length rest) = rest.takeWhile Word.isPart :=
      (List.prefix_iff_eq_take.mp (List.takeWhile_prefix _)).symm
    refine ⟨after, ?_⟩
    rw [List.append_assoc, List.singleton_append, ← quote, ← front, List.take_append_drop]
  · rfl

theorem readChar_of_literal {cs literal : List Char} (char : CharLiteral literal)
    (begins : literal <+: '\'' :: cs) : readChar cs = ⟨literal.length, true⟩ := by
  obtain @⟨item, one⟩ := char
  obtain ⟨behind, split⟩ := begins
  have text : cs = item ++ ([] ++ '\'' :: behind) := by simpa using split.symm
  rw [text, readChar_item _ one, closeChar_word (by simp)]
  simp

theorem readChar_of_open {cs front : List Char} (open' : OpenChar cs front) :
    readChar cs = ⟨front.length + 1, false⟩ := by
  cases open' with
  | empty => exact readChar_empty _
  | ended ended => exact readChar_ended ended
  | slash ended => exact readChar_slash_ended ended
  | cutShort marks other few =>
    have slash : Text.isLineBreak '\\' = false := by decide
    have mark : Text.isLineBreak 'u' = false := by decide
    simp [readChar, slash, mark, escape_eq_zero marks other few]
  | item one none => rw [readChar_item _ one, closeChar_unreached none]
  | @word item word rest one closed =>
    obtain @⟨letters, some, parts⟩ := closed
    have text : letters ++ ['\''] ++ rest = letters ++ '\'' :: rest := by simp
    have more : letters.isEmpty = false := by simpa using some
    rw [text, readChar_item _ one, closeChar_word parts, more]
    simp [Nat.add_assoc]

/-- **A character literal is closed or open**: the cases of the reader are those of the relation. -/
theorem exists_open {cs : List Char} (unclosed : (readChar cs).closed = false) :
    ∃ front, OpenChar cs front := by
  rcases readChar_cases cs with ⟨ended, -⟩ | ⟨rest, rfl, -⟩ | ⟨rest, rfl, ended, -⟩ |
    ⟨rest, rfl, more, short, -⟩ | ⟨item, rest, rfl, one, read⟩
  · exact ⟨_, .ended ended⟩
  · exact ⟨_, .empty⟩
  · exact ⟨_, .slash ended⟩
  · obtain rfl | ⟨marks, few, rfl, other, short⟩ := exists_cutShort short
    · cases more
    · exact ⟨_, .cutShort marks other short⟩
  · by_cases none : Unreached rest
    · exact ⟨_, .item one none⟩
    · obtain ⟨letters, parts, behind, rfl⟩ :
          ∃ letters, (∀ c ∈ letters, Word.isPart c = true) ∧ letters ++ ['\''] <+: rest := by
        simpa [Unreached] using none
      refine ⟨_, .word one (.intro ?_ parts)⟩
      -- the quote does not stand directly behind the item, or the literal would be closed
      rintro rfl
      rw [read, List.append_assoc, List.singleton_append, closeChar_word parts] at unclosed
      cases unclosed

theorem OpenChar.begins {cs front : List Char} (open' : OpenChar cs front) : front <+: cs := by
  cases open' with
  | empty => exact ⟨_, rfl⟩
  | ended => exact List.nil_prefix
  | slash => exact ⟨_, rfl⟩
  | cutShort => exact List.prefix_refl _
  | item => exact List.prefix_append _ _
  | word => exact ⟨_, List.append_assoc _ _ _⟩

theorem readsChar (cs : List Char) :
    ReadsChar cs (('\'' :: cs).take (readChar cs).length) (readChar cs).closed where
  closes := by
    refine ⟨fun closed => ?_, fun ⟨literal, char, begins⟩ => by
      rw [readChar_of_literal char begins]⟩
    rcases readChar_cases cs with ⟨-, read⟩ | ⟨_, -, read⟩ | ⟨_, -, -, read⟩ | ⟨_, -, -, -, read⟩ |
      ⟨item, rest, rfl, one, read⟩
    case inr.inr.inr.inr =>
      have whole : closeChar item.length rest = ⟨(closeChar item.length rest).length, true⟩ := by
        rw [← closed, read]
      obtain ⟨-, after, rfl⟩ := closeChar_closing whole
      exact ⟨_, .intro one, after, by simp⟩
    all_goals
      rw [read] at closed
      cases closed
  only literal char begins := eq_take_of_begins begins (by rw [readChar_of_literal char begins])
  stops front := by
    have front_of_open : ∀ front, OpenChar cs front →
        (readChar cs).closed = false ∧ ('\'' :: cs).take (readChar cs).length = '\'' :: front := by
      intro front open'
      rw [readChar_of_open open']
      refine ⟨rfl, (eq_take_of_begins (List.cons_prefix_cons.mpr ⟨rfl, open'.begins⟩) ?_).symm⟩
      rw [List.length_cons]
    refine ⟨front_of_open front, fun ⟨unclosed, taken⟩ => ?_⟩
    obtain ⟨front', open'⟩ := exists_open unclosed
    obtain rfl : front' = front :=
      (List.cons.inj ((front_of_open front' open').2.symm.trans taken)).2
    exact open'

end Quotation

/-- **A string is a literal where one stands at the front of a text**, and otherwise an error that goes
as far as a line end behind the longest row of items, or takes the whole text. -/
theorem Lexeme.first?_string (v : Vocabulary) (cs : List Char) :
    ∃ closed taken rest, '"' :: cs = taken ++ rest ∧
      Quotation.readString cs = ⟨taken.length, closed⟩ ∧
      first? v ('"' :: cs) = some (quoted closed .unterminatedString taken) ∧
      Quotation.ReadsString cs taken closed := by
  have start : Word.isStart '"' = false := by decide
  have digit : Char.isDigit '"' = false := by decide
  have size : (('"' :: cs).take (Quotation.readString cs).length).length =
      (Quotation.readString cs).length := by
    rw [List.length_take, List.length_cons]
    exact Nat.min_eq_left (Quotation.readString_length_le cs)
  refine ⟨_, _, _, (List.take_append_drop (Quotation.readString cs).length _).symm, by rw [size], ?_,
    Quotation.readsString cs⟩
  simp [first?, start, digit, ofReading_eq]

/-- **A character is a literal where one stands at the front of a text**, and otherwise an error that
takes what an open character literal takes. -/
theorem Lexeme.first?_char (v : Vocabulary) (cs : List Char) :
    ∃ closed taken rest, '\'' :: cs = taken ++ rest ∧
      Quotation.readChar cs = ⟨taken.length, closed⟩ ∧
      first? v ('\'' :: cs) = some (quoted closed .unterminatedChar taken) ∧
      Quotation.ReadsChar cs taken closed := by
  have start : Word.isStart '\'' = false := by decide
  have digit : Char.isDigit '\'' = false := by decide
  have size : (('\'' :: cs).take (Quotation.readChar cs).length).length =
      (Quotation.readChar cs).length :=
    List.length_take_of_le (Quotation.readChar_length_le cs)
  refine ⟨_, _, _, (List.take_append_drop (Quotation.readChar cs).length _).symm, by rw [size], ?_,
    Quotation.readsChar cs⟩
  simp [first?, start, digit, ofReading_eq]

-- a quote behind a word belongs to the error, and one behind more than a word does not
example : Quotation.readChar ['a', 'b', '\'', ';'] = ⟨4, false⟩ ∧
    Quotation.readChar ['a', ';', ' ', 'x', '=', '\'', 'b', '\''] = ⟨2, false⟩ := by
  exact ⟨rfl, rfl⟩

end Lexis
