import Lexis.Proofs.Scan.Numeral
import Lexis.Proofs.Scan.Quotation
import Lexis.Proofs.Scan.Symbol

/-!
# Lexemes and what stands behind them

A lexeme is the front of the text that it is cut from (`exists_before`), and the relation `Before` says
which lexemes can stand in front of which texts. Which lexeme it is depends on the text behind it only in
so far as that could be part of it: another text that begins with trivia may stand in for trivia
(`Before.standsIn`), and a line end may stand in for anything (`Before.lineEnd`), where a hexadecimal
literal does not end with its point.
-/

set_option autoImplicit false

namespace Lexis.Lexeme

/-- A literal that was not closed. -/
def Unclosed (kind : TokenKind) : Prop :=
  kind = .error .unterminatedString ∨ kind = .error .unterminatedChar

/-- A kind that marks neither the end of the text nor a character that begins nothing. -/
def Recognised (kind : TokenKind) : Prop :=
  kind ≠ .endOfInput ∧ kind ≠ .error .unrecognisedCharacter

/-- A hexadecimal literal that ends with its point. -/
def EndsInHexPoint (lexeme : Lexeme) : Prop :=
  (∃ type, lexeme.kind = .literal type) ∧ Numeral.hasRadix ['x', 'X'] lexeme.text = true ∧
    lexeme.text.getLast? = some '.'

/-! ## What stands in front of a text -/

/-- The lexeme of a quoted literal. -/
def quoted (closed : Bool) (reason : LexicalError) (text : List Char) : Lexeme :=
  if closed then literal text else ⟨.error reason, text⟩

theorem ofReading_eq (cs : List Char) (reason : LexicalError) (r : Quotation.Reading) :
    ofReading cs reason r = quoted r.closed reason (cs.take r.length) := rfl

@[simp] theorem literal_text (text : List Char) : (literal text).text = text := rfl

@[simp] theorem quoted_text (closed : Bool) (reason : LexicalError) (text : List Char) :
    (quoted closed reason text).text = text := by
  cases closed <;> rfl

/-- A character that neither a word nor a numeral nor a quoted literal begins with. -/
structure Unmarked (c : Char) : Prop where
  word : Word.isStart c = false
  digit : c.isDigit = false
  quote : (c == '"') = false
  apostrophe : (c == '\'') = false

/-- **A lexeme stands in front of a text**: the reader that its first character calls takes all of the
lexeme there and nothing behind it. -/
inductive Before (v : Vocabulary) : Lexeme → List Char → Prop
  | word {c : Char} {cs rest : List Char} :
      Word.isStart c = true → Word.length (c :: cs ++ rest) = (c :: cs).length →
      Before v ⟨v.kindOfWord (c :: cs), c :: cs⟩ rest
  | numeral {c : Char} {cs rest : List Char} :
      Word.isStart c = false → c.isDigit = true →
      Numeral.length (c :: cs ++ rest) = (c :: cs).length → Before v (literal (c :: cs)) rest
  | string {closed : Bool} {cs rest : List Char} :
      Quotation.readString (cs ++ rest) = ⟨cs.length + 1, closed⟩ →
      Before v (quoted closed .unterminatedString ('"' :: cs)) rest
  | char {closed : Bool} {cs rest : List Char} :
      Quotation.readChar (cs ++ rest) = ⟨cs.length + 1, closed⟩ →
      Before v (quoted closed .unterminatedChar ('\'' :: cs)) rest
  | symbol {kind : TokenKind} {symbol : String} {c : Char} {cs rest : List Char} :
      Unmarked c → symbol.toList = c :: cs → v.symbolAt? (c :: cs ++ rest) = some (kind, symbol) →
      Before v ⟨kind, c :: cs⟩ rest
  | unrecognised {c : Char} {rest : List Char} :
      Unmarked c → v.symbolAt? (c :: rest) = none → Before v ⟨.error .unrecognisedCharacter, [c]⟩ rest

/-- What a reader takes that takes the first character and no more than there is. -/
private theorem exists_taken {n : Nat} {c : Char} {cs : List Char} (pos : 0 < n)
    (le : n ≤ (c :: cs).length) :
    ∃ taken rest, cs = taken ++ rest ∧ n = taken.length + 1 ∧ (c :: cs).take n = c :: taken := by
  obtain ⟨n, rfl⟩ := Nat.exists_eq_succ_of_ne_zero (Nat.ne_of_gt pos)
  have size : (cs.take n).length = n := by
    rw [List.length_take, Nat.min_eq_left (Nat.le_of_succ_le_succ le)]
  exact ⟨cs.take n, cs.drop n, (List.take_append_drop n cs).symm, by rw [size], List.take_succ_cons⟩

/-- **The lexeme of a text stands at its front**, in front of what is behind it. -/
theorem exists_before {v : Vocabulary} {cs : List Char} {lexeme : Lexeme}
    (found : first? v cs = some lexeme) : ∃ rest, cs = lexeme.text ++ rest ∧ Before v lexeme rest := by
  cases cs with
  | nil => cases found
  | cons c cs =>
    have nonempty := text_ne_nil found
    simp only [first?] at found
    split at found
    · next start =>
      have pos : 0 < Word.length (c :: cs) := Munch.run_pos cs (by simp [Word.isPart, start])
      obtain ⟨taken, rest, rfl, size, front⟩ := exists_taken pos (Word.bounded_length _)
      rw [front] at found
      cases found
      exact ⟨rest, rfl, .word start size⟩
    · next start =>
      split at found
      · next digit =>
        obtain ⟨taken, rest, rfl, size, front⟩ :=
          exists_taken (Numeral.length_pos cs digit) (Numeral.bounded_length _)
        rw [front] at found
        cases found
        exact ⟨rest, rfl, .numeral (by simpa using start) digit size⟩
      · next digit =>
        split at found
        · next quote =>
          obtain rfl : c = '"' := by simpa using quote
          obtain ⟨taken, rest, rfl, size, front⟩ := exists_taken (c := '"')
            (Quotation.readString_length_pos cs) (Quotation.readString_length_le _)
          rw [ofReading_eq, front] at found
          obtain rfl := Option.some.inj found
          exact ⟨rest, by rw [quoted_text]; rfl, .string (by rw [← size])⟩
        · next quote =>
          split at found
          · next apostrophe =>
            obtain rfl : c = '\'' := by simpa using apostrophe
            obtain ⟨taken, rest, rfl, size, front⟩ := exists_taken (c := '\'')
              (Quotation.readChar_length_pos cs) (Quotation.readChar_length_le _)
            rw [ofReading_eq, front] at found
            obtain rfl := Option.some.inj found
            exact ⟨rest, by rw [quoted_text]; rfl, .char (by rw [← size])⟩
          · next apostrophe =>
            rw [Bool.not_eq_true] at start digit quote apostrophe
            have unmarked : Unmarked c := ⟨start, digit, quote, apostrophe⟩
            split at found
            · next kind symbol here =>
              obtain ⟨rest, split⟩ := (Vocabulary.symbolAt?_longest here).1
              cases found
              obtain ⟨d, ds, spelled⟩ := List.exists_cons_of_ne_nil nonempty
              have spelled : symbol.toList = d :: ds := spelled
              rw [spelled] at split ⊢
              obtain ⟨rfl, rfl⟩ := List.cons.inj split
              exact ⟨rest, rfl, .symbol unmarked spelled here⟩
            · next none =>
              cases found
              exact ⟨cs, rfl, .unrecognised unmarked none⟩

/-- A lexeme that stands in front of a text is cut from there. -/
theorem Before.first?_eq {v : Vocabulary} {lexeme : Lexeme} {rest : List Char}
    (before : Before v lexeme rest) : first? v (lexeme.text ++ rest) = some lexeme := by
  cases before with
  | word start size =>
    simp only [List.cons_append] at size
    simp [first?, start, size]
  | numeral start digit size =>
    simp only [List.cons_append] at size
    simp [first?, start, digit, size]
  | string read =>
    have start : Word.isStart '"' = false := by decide
    have digit : Char.isDigit '"' = false := by decide
    simp [first?, start, digit, read, ofReading_eq]
  | char read =>
    have start : Word.isStart '\'' = false := by decide
    have digit : Char.isDigit '\'' = false := by decide
    simp [first?, start, digit, read, ofReading_eq]
  | symbol unmarked spelled found =>
    simp only [List.cons_append] at found
    simp [first?, unmarked.word, unmarked.digit, unmarked.quote, unmarked.apostrophe, found, spelled]
  | unrecognised unmarked none =>
    simp [first?, unmarked.word, unmarked.digit, unmarked.quote, unmarked.apostrophe, none]

/-- **A lexeme is the front of the text** that it is cut from. -/
theorem text_prefix {v : Vocabulary} {cs : List Char} {lexeme : Lexeme}
    (found : first? v cs = some lexeme) : lexeme.text <+: cs := by
  obtain ⟨rest, rfl, -⟩ := exists_before found
  exact List.prefix_append _ _

/-! ## Kinds of lexemes -/

theorem recognised_quoted (closed : Bool) {reason : LexicalError}
    (other : reason ≠ .unrecognisedCharacter) (text : List Char) :
    Recognised (quoted closed reason text).kind := by
  cases closed <;> simp [Recognised, quoted, literal, other]

theorem recognised_kindOfWord (v : Vocabulary) (word : List Char) :
    Recognised (v.kindOfWord word) := by
  unfold Vocabulary.kindOfWord
  repeat' split
  all_goals simp [Recognised]

theorem kind_of_symbolAt? {v : Vocabulary} {cs : List Char} {kind : TokenKind} {symbol : String}
    (found : v.symbolAt? cs = some (kind, symbol)) : kind = .operator ∨ kind = .separator := by
  unfold Vocabulary.symbolAt? at found
  repeat' split at found
  all_goals cases found <;> simp

/-- No lexeme marks the end of the text, and one that nothing begins with is a single character. -/
theorem kind_of_first? {v : Vocabulary} {cs : List Char} {lexeme : Lexeme}
    (found : first? v cs = some lexeme) :
    lexeme.kind ≠ .endOfInput ∧
      (lexeme.kind = .error .unrecognisedCharacter → ∃ c, lexeme.text = [c]) := by
  have enough : Recognised lexeme.kind → lexeme.kind ≠ .endOfInput ∧
      (lexeme.kind = .error .unrecognisedCharacter → ∃ c, lexeme.text = [c]) :=
    fun known => ⟨known.1, fun h => absurd h known.2⟩
  obtain ⟨rest, -, before⟩ := exists_before found
  cases before with
  | word => exact enough (recognised_kindOfWord v _)
  | numeral => exact enough ⟨by simp [literal], by simp [literal]⟩
  | string => exact enough (recognised_quoted _ (by decide) _)
  | char => exact enough (recognised_quoted _ (by decide) _)
  | symbol _ _ here =>
    rcases kind_of_symbolAt? here with rfl | rfl <;> exact enough (by simp [Recognised])
  | unrecognised => exact ⟨by simp, fun _ => ⟨_, rfl⟩⟩

/-! ## Another text behind a lexeme -/

/-- What a reader is asked of a literal that ends with its text: it holds no backslash if it is open. -/
private theorem plain_of_unclosed {closed : Bool} {reason : LexicalError} {mark : Char}
    {cs more behind : List Char} {r : Quotation.Reading} (read : r = ⟨cs.length + 1, closed⟩)
    (unclosed : Unclosed (.error reason))
    (whole : behind = [] → Unclosed (quoted closed reason (mark :: cs)).kind → more = [] →
      '\\' ∉ (quoted closed reason (mark :: cs)).text) :
    behind = [] → r.closed = false → r.length = (cs ++ more).length + 1 → '\\' ∉ cs ++ more := by
  intro nothing here full slash
  subst read
  obtain rfl : closed = false := here
  obtain rfl : more = [] := by simpa using full
  rw [List.append_nil] at slash
  exact whole nothing unclosed rfl (List.mem_cons_of_mem mark slash)

/-- **A lexeme stands in front of what stands in** for the text behind it. A literal that the end of the
text leaves open may hold no backslash for that: an escape could go on. -/
theorem Before.standsIn {v : Vocabulary} {lexeme : Lexeme} {more behind behind' : List Char}
    (unspaced : v.Unspaced) (stands : StandsInFor behind' behind)
    (before : Before v lexeme (more ++ behind))
    (whole : behind = [] → Unclosed lexeme.kind → more = [] → '\\' ∉ lexeme.text) :
    Before v lexeme (more ++ behind') := by
  cases before with
  | @word c cs _ start size =>
    rw [← List.append_assoc] at size
    refine .word start ?_
    rw [← List.append_assoc, stands.munch_eq Word.stopsAt_length, size]
  | @numeral c cs _ start digit size =>
    rw [← List.append_assoc] at size
    refine .numeral start digit ?_
    rw [← List.append_assoc, stands.munch_eq Numeral.stopsAt_length, size]
  | @string closed cs _ read =>
    rw [← List.append_assoc] at read
    refine .string ?_
    rw [← List.append_assoc, ← read]
    refine Quotation.readString_standsIn stands ?_ (plain_of_unclosed read (.inl rfl) whole)
    rw [read, List.length_append]
    exact Nat.succ_le_succ (Nat.le_add_right _ _)
  | @char closed cs _ read =>
    rw [← List.append_assoc] at read
    refine .char ?_
    rw [← List.append_assoc, ← read]
    refine Quotation.readChar_standsIn stands ?_ (plain_of_unclosed read (.inr rfl) whole)
    rw [read, List.length_append]
    exact Nat.succ_le_succ (Nat.le_add_right _ _)
  | @symbol kind symbol c cs _ unmarked spelled found =>
    rw [← List.append_assoc] at found
    refine .symbol unmarked spelled ?_
    rw [← List.append_assoc, ← found]
    refine Vocabulary.symbolAt?_spaced unspaced stands.space ?_
    rw [found]
    simp [spelled]
  | @unrecognised c _ unmarked none =>
    rw [← List.singleton_append, ← List.append_assoc] at none
    refine .unrecognised unmarked ?_
    rw [← List.singleton_append, ← List.append_assoc, ← none]
    refine Vocabulary.symbolAt?_spaced unspaced stands.space ?_
    rw [none]
    simp

/-- **A lexeme is cut again** when another text stands in for what is behind the front that it lies in.
A literal that the end of the text leaves open may hold no backslash for that: an escape could go on. -/
theorem first?_standsIn {v : Vocabulary} {front behind behind' : List Char} {lexeme : Lexeme}
    (unspaced : v.Unspaced) (stands : StandsInFor behind' behind)
    (found : first? v (front ++ behind) = some lexeme)
    (inside : lexeme.text.length ≤ front.length)
    (whole : behind = [] → Unclosed lexeme.kind → lexeme.text.length = front.length →
      '\\' ∉ lexeme.text) :
    first? v (front ++ behind') = some lexeme := by
  obtain ⟨rest, split, before⟩ := exists_before found
  obtain ⟨more, rfl, rfl⟩ := exists_append_of_length_le split.symm inside
  rw [List.append_assoc]
  refine (before.standsIn unspaced stands fun nothing unclosed none => ?_).first?_eq
  exact whole nothing unclosed (by rw [none, List.append_nil])

/-- **A lexeme stands in front of a line end** where it stood in front of anything else, unless it is a
hexadecimal literal that ends with its point. -/
theorem Before.lineEnd {v : Vocabulary} {lexeme : Lexeme} {behind behind' : List Char}
    (unspaced : v.Unspaced) (ends : LineEndFor behind' behind) (before : Before v lexeme behind)
    (closed : ¬ lexeme.EndsInHexPoint) : Before v lexeme behind' := by
  cases before with
  | @word c cs _ start size =>
    refine .word start ?_
    rw [Word.stopsAt_length _ _ ends.opener, Word.settled_length _ behind size.le, size]
  | @numeral c cs _ start digit size =>
    have settled : Munch.SettledBy Numeral.length (c :: cs) :=
      Numeral.settledBy_length fun hex point => closed ⟨⟨_, rfl⟩, hex, point⟩
    refine .numeral start digit ?_
    rw [Numeral.stopsAt_length _ _ ends.opener, settled behind size.le, size]
  | string read => exact .string (Quotation.readString_lineEnd ends read)
  | char read => exact .char (Quotation.readChar_lineEnd ends read)
  | @symbol kind symbol c cs _ unmarked spelled found =>
    refine .symbol unmarked spelled ?_
    rw [← found]
    refine Vocabulary.symbolAt?_spaced unspaced ends.space ?_
    rw [found]
    simp [spelled]
  | @unrecognised c _ unmarked none =>
    rw [← List.singleton_append] at none
    refine .unrecognised unmarked ?_
    rw [← List.singleton_append, ← none]
    refine Vocabulary.symbolAt?_spaced unspaced ends.space ?_
    rw [none]
    simp

end Lexis.Lexeme
