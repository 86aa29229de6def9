import Lexis.Report
import Lexis.Proofs.Lexer.Condense
import Lexis.Proofs.Scan.LongestMatch
import Lexis.Proofs.Scan.LongestNumeral
import Lexis.Proofs.Scan.QuotedLiteral

/-!
# The listing tells the tokens apart

The listing writes one token behind the other, without a space between them and without escapes, and the
values of some may hold anything: brackets, commas, line ends, whole entries. It can still be read back
(`unplaced_eq_of_render_eq`). Each entry is opened by a word of its own, and behind the value stands a mark
that ends it: either no value holds the mark, or none begins another.
-/

set_option autoImplicit false

namespace Lexis

namespace Listing

open Quotation (CharLiteral StringLiteral)

/-! ## Marks that end a value -/

/-- **A mark ends the values of a set** when no two of them can be taken for one another in front of it. -/
def EndsAt (mark : Char) (Value : List Char → Prop) : Prop :=
  ∀ ⦃v v' x y : List Char⦄, Value v → Value v' → v ++ mark :: x = v' ++ mark :: y → v = v'

section EndsAt

variable {mark : Char} {Value : List Char → Prop}

/-- In front of a mark that ends it a value is cut off, and what is behind the mark is left. -/
theorem EndsAt.cancel {v v' x y : List Char} (ends : EndsAt mark Value) (value : Value v)
    (value' : Value v') (same : v ++ mark :: x = v' ++ mark :: y) : v = v' ∧ x = y := by
  obtain rfl := ends value value' same
  exact ⟨rfl, (List.cons.inj (List.append_cancel_left same)).2⟩

theorem endsAt_of_not_mem (apart : ∀ v, Value v → mark ∉ v) : EndsAt mark Value := by
  have front : ∀ v x, Value v → (v ++ mark :: x).takeWhile (· != mark) = v := by
    intro v x value
    rw [List.takeWhile_append_of_pos, List.takeWhile_cons_of_neg (by simp), List.append_nil]
    intro c member
    simpa using fun here : c = mark => apart v value (here ▸ member)
  intro v v' x y value value' same
  rw [← front v x value, same, front v' y value']

theorem endsAt_of_prefixFree (apart : ∀ v v', Value v → Value v' → v <+: v' → v = v') :
    EndsAt mark Value := by
  intro v v' x y value value' same
  rcases List.prefix_or_prefix_of_prefix (List.prefix_append v _) (same ▸ List.prefix_append v' _) with
    begins | begins
  · exact apart v v' value value' begins
  · exact (apart v' v value' value begins).symm

end EndsAt

/-! ## Values -/

/-- The value of an error: its wording where a literal was not closed, and otherwise the character. -/
inductive ErrorValue : LexicalError → List Char → Prop
  | string : ErrorValue .unterminatedString LexicalError.unterminatedString.message.toList
  | char : ErrorValue .unterminatedChar LexicalError.unterminatedChar.message.toList
  | unrecognised {c : Char} : Word.isStart c = false → ErrorValue .unrecognisedCharacter [c]

/-- The value of a literal. Only between quotes may it hold a comma. -/
inductive LiteralValue : List Char → Prop
  | plain {c : Char} {cs : List Char} : c ≠ '"' → c ≠ '\'' → ',' ∉ c :: cs → LiteralValue (c :: cs)
  | string {cs : List Char} : StringLiteral cs → LiteralValue cs
  | char {cs : List Char} : CharLiteral cs → LiteralValue cs

/-- The value of a word. -/
def WordValue (cs : List Char) : Prop := ∀ c ∈ cs, Word.isPart c = true

/-- The value of a symbol. -/
def SymbolValue (s : Symbols) (cs : List Char) : Prop := ∃ symbol ∈ s.entries, symbol.toList = cs

/-- The values that the tokens of a kind have. -/
def Value : TokenKind → List Char → Prop
  | .endOfInput, cs => cs = []
  | .error reason, cs => ErrorValue reason cs
  | .identifier, cs => WordValue cs
  | .keyword, cs => WordValue cs
  | .literal type, cs => LiteralValue cs ∧ LiteralType.ofText cs = type
  | .operator, cs => SymbolValue Vocabulary.java.operators cs
  | .separator, cs => SymbolValue Vocabulary.java.separators cs

/-- No wording begins with a character that is an error of its own. -/
theorem ErrorValue.unique {reason reason' : LexicalError} {v v' : List Char}
    (value : ErrorValue reason v) (value' : ErrorValue reason' v') (begins : v <+: v') :
    v = v' ∧ reason = reason' := by
  have letter : ∀ {c : Char} {cs : List Char}, Word.isStart c = false → ¬ [c] <+: 'U' :: cs := by
    intro c cs other begins
    obtain ⟨rfl, -⟩ := List.cons_prefix_cons.mp begins
    exact absurd other (by decide)
  cases value with
  | string =>
    cases value' with
    | string => exact ⟨rfl, rfl⟩
    | char => exact absurd begins (by decide)
    | unrecognised => exact absurd begins.length_le (by simp [LexicalError.message])
  | char =>
    cases value' with
    | string => exact absurd begins (by decide)
    | char => exact ⟨rfl, rfl⟩
    | unrecognised => exact absurd begins.length_le (by simp [LexicalError.message])
  | unrecognised other =>
    cases value' with
    | string => exact absurd begins (letter other)
    | char => exact absurd begins (letter other)
    | unrecognised => exact ⟨begins.eq_of_length rfl, rfl⟩

theorem endsAt_error : EndsAt ')' (fun cs => ∃ reason, ErrorValue reason cs) :=
  endsAt_of_prefixFree fun _ _ ⟨_, value⟩ ⟨_, value'⟩ begins => (value.unique value' begins).1

theorem endsAt_word : EndsAt ')' WordValue := by
  refine endsAt_of_not_mem fun v value member => ?_
  have part := value _ member
  exact absurd part (by decide)

theorem endsAt_operator : EndsAt ')' (SymbolValue Vocabulary.java.operators) := by
  refine endsAt_of_not_mem ?_
  rintro _ ⟨symbol, member, rfl⟩
  have free : ∀ symbol ∈ Vocabulary.java.operators.entries, ')' ∉ symbol.toList := by decide
  exact free symbol member

theorem endsAt_separator : EndsAt ')' (SymbolValue Vocabulary.java.separators) := by
  have apart : ∀ symbol ∈ Vocabulary.java.separators.entries,
      ∀ symbol' ∈ Vocabulary.java.separators.entries,
        symbol.toList <+: symbol'.toList → symbol = symbol' := by
    decide
  refine endsAt_of_prefixFree ?_
  rintro _ _ ⟨symbol, member, rfl⟩ ⟨symbol', member', rfl⟩ begins
  rw [apart symbol member symbol' member' begins]

/-- No string literal begins another. -/
theorem endsAt_string : EndsAt ',' StringLiteral := by
  refine endsAt_of_prefixFree fun v v' string string' begins => ?_
  obtain @⟨items, body⟩ := string'
  have whole := Quotation.readString_of_literal (.intro body) (List.prefix_refl _)
  rw [Quotation.readString_of_literal string begins] at whole
  exact begins.eq_of_length (Quotation.Reading.mk.inj whole).1

/-- No character literal begins another. -/
theorem endsAt_char : EndsAt ',' CharLiteral := by
  refine endsAt_of_prefixFree fun v v' char char' begins => ?_
  obtain @⟨item, one⟩ := char'
  have whole := Quotation.readChar_of_literal (.intro one) (List.prefix_refl _)
  rw [Quotation.readChar_of_literal char begins] at whole
  exact begins.eq_of_length (Quotation.Reading.mk.inj whole).1

/-- The first character tells how a literal is read. -/
theorem endsAt_literal : EndsAt ',' LiteralValue := by
  have plain : EndsAt ',' (fun v => ',' ∉ v) := endsAt_of_not_mem fun _ => id
  intro v v' x y value value' same
  cases value with
  | plain quote apostrophe free =>
    cases value' with
    | plain _ _ free' => exact plain free free' same
    | string string => obtain ⟨-⟩ := string; exact absurd (List.cons.inj same).1 quote
    | char char => obtain ⟨-⟩ := char; exact absurd (List.cons.inj same).1 apostrophe
  | string string =>
    cases value' with
    | plain quote _ _ => obtain ⟨-⟩ := string; exact absurd (List.cons.inj same).1.symm quote
    | string string' => exact endsAt_string string string' same
    | char char => obtain ⟨-⟩ := string; obtain ⟨-⟩ := char; cases same
  | char char =>
    cases value' with
    | plain _ apostrophe _ => obtain ⟨-⟩ := char; exact absurd (List.cons.inj same).1.symm apostrophe
    | string string => obtain ⟨-⟩ := string; obtain ⟨-⟩ := char; cases same
    | char char' => exact endsAt_char char char' same

/-! ## Entries -/

/-- What an entry writes in front of the value. -/
def opening : TokenKind → List Char
  | .endOfInput => ['E', 'O', 'F']
  | .error _ => ['E', 'R', 'R', '(']
  | .identifier => ['I', 'D', '(']
  | .keyword => ['K', 'E', 'Y', '(']
  | .literal _ => ['L', 'I', 'T', '(']
  | .operator => ['O', 'P', '(']
  | .separator => ['S', 'E', 'P', '(']

/-- What an entry writes behind the value. -/
def closing : TokenKind → List Char
  | .endOfInput => []
  | .literal type => ',' :: ' ' :: (type.name.toList ++ [')'])
  | _ => [')']

/-- The entry of a kind and a value. -/
def shown (kind : TokenKind) (value : List Char) : List Char :=
  opening kind ++ (value ++ closing kind)

/-- Kinds whose entries open with the same word. -/
inductive SameOpening : TokenKind → TokenKind → Prop
  | endOfInput : SameOpening .endOfInput .endOfInput
  | error (reason reason' : LexicalError) : SameOpening (.error reason) (.error reason')
  | identifier : SameOpening .identifier .identifier
  | keyword : SameOpening .keyword .keyword
  | literal (type type' : LiteralType) : SameOpening (.literal type) (.literal type')
  | operator : SameOpening .operator .operator
  | separator : SameOpening .separator .separator

/-- The opening of one kind does not begin that of another. -/
theorem sameOpening_of_append {kind kind' : TokenKind} {x y : List Char}
    (same : opening kind ++ x = opening kind' ++ y) : SameOpening kind kind' ∧ x = y := by
  cases kind <;> cases kind' <;> simp [opening] at same <;>
    exact ⟨by constructor, same⟩

theorem display_eq {t : Token} (value : Value t.kind t.value.toList) :
    t.display.toList = shown t.kind t.value.toList := by
  obtain ⟨kind, text, _, _⟩ := t
  cases kind with
  | endOfInput =>
    have none : text.toList = [] := value
    simp [Token.display, shown, opening, closing, none]
  | _ => simp [Token.display, shown, opening, closing, toString]

/-- **An entry can be told apart from what is behind it**, and tells its kind and its value. -/
theorem shown_unique {kind kind' : TokenKind} {v v' x y : List Char} (value : Value kind v)
    (value' : Value kind' v') (same : shown kind v ++ x = shown kind' v' ++ y) :
    kind = kind' ∧ v = v' ∧ x = y := by
  simp only [shown, List.append_assoc] at same
  obtain ⟨kinds, rest⟩ := sameOpening_of_append same
  cases kinds with
  | endOfInput =>
    obtain rfl : v = [] := value
    obtain rfl : v' = [] := value'
    exact ⟨rfl, rfl, rest⟩
  | error reason reason' =>
    -- the reason is not written, but the value tells it
    obtain ⟨rfl, behind⟩ := endsAt_error.cancel ⟨reason, value⟩ ⟨reason', value'⟩ rest
    obtain ⟨-, rfl⟩ := ErrorValue.unique value value' (List.prefix_refl _)
    exact ⟨rfl, rfl, behind⟩
  | identifier =>
    obtain ⟨rfl, behind⟩ := endsAt_word.cancel value value' rest
    exact ⟨rfl, rfl, behind⟩
  | keyword =>
    obtain ⟨rfl, behind⟩ := endsAt_word.cancel value value' rest
    exact ⟨rfl, rfl, behind⟩
  | literal type type' =>
    -- the type is written behind the value, which tells it already
    obtain ⟨literal, rfl⟩ := value
    obtain ⟨literal', rfl⟩ := value'
    obtain ⟨rfl, behind⟩ := endsAt_literal.cancel literal literal' rest
    exact ⟨rfl, rfl, by simpa using behind⟩
  | operator =>
    obtain ⟨rfl, behind⟩ := endsAt_operator.cancel value value' rest
    exact ⟨rfl, rfl, behind⟩
  | separator =>
    obtain ⟨rfl, behind⟩ := endsAt_separator.cancel value value' rest
    exact ⟨rfl, rfl, behind⟩

/-- No entry begins with a line end. -/
theorem head?_shown (kind : TokenKind) (v x : List Char) : (shown kind v ++ x).head? ≠ some '\n' := by
  cases kind <;> simp [shown, opening]

/-! ## Sequences -/

/-- What opens a new line of the listing, if a token starts one. -/
def lineMark (line : Nat) (starts : Bool) : List Char :=
  if starts then '\n' :: ((toString line).toList ++ ['\t']) else []

/-- What the listing writes of tokens when the next line has the given number. -/
def written (line : Nat) : List Token → List Char
  | [] => []
  | t :: ts =>
    lineMark line t.startsLine ++
      (t.display.toList ++ written (if t.startsLine then line + 1 else line) ts)

theorem toList_append (before : String) (line : Nat) (ts : List Token) :
    (append false before line ts).toList = before.toList ++ written line ts := by
  induction ts generalizing before line with
  | nil => simp [append, written]
  | cons t ts ih =>
    rw [append, written]
    cases starts : t.startsLine with
    | true =>
      rw [if_pos rfl, ih]
      simp [entry, lineMark, toString]
    | false =>
      rw [if_neg (by simp), ih]
      simp [entry, lineMark]

theorem toList_render (ts : List Token) :
    (render false ts).toList = written 1 ts ++ ['\n', '\n'] := by
  simp [render, toList_append]

/-- The tokens of a text: each has a value of its kind, and the last, and no other, marks the end. -/
inductive Sequence : List Token → Prop
  | last {t : Token} : t.kind = .endOfInput → Value t.kind t.value.toList → Sequence [t]
  | more {t : Token} {ts : List Token} :
      t.kind ≠ .endOfInput → Value t.kind t.value.toList → Sequence ts → Sequence (t :: ts)

/-- Since no entry begins with a line end, it shows whether a token starts a line. -/
theorem lineMark_unique {line : Nat} {starts starts' : Bool} {x y : List Char}
    (entry : x.head? ≠ some '\n') (entry' : y.head? ≠ some '\n')
    (same : lineMark line starts ++ x = lineMark line starts' ++ y) : starts = starts' ∧ x = y := by
  cases starts with
  | true =>
    cases starts' with
    | true => exact ⟨rfl, List.append_cancel_left same⟩
    | false => exact absurd (congrArg List.head? same).symm entry'
  | false =>
    cases starts' with
    | true => exact absurd (congrArg List.head? same) entry
    | false => exact ⟨rfl, same⟩

/-- The first token of what is written can be told apart from the others. -/
theorem first_unique {line : Nat} {t t' : Token} {ts ts' : List Token}
    (value : Value t.kind t.value.toList) (value' : Value t'.kind t'.value.toList)
    (same : written line (t :: ts) = written line (t' :: ts')) :
    t.unplaced = t'.unplaced ∧
      written (if t.startsLine then line + 1 else line) ts =
        written (if t.startsLine then line + 1 else line) ts' := by
  rw [written, written, display_eq value, display_eq value'] at same
  obtain ⟨starts, entries⟩ := lineMark_unique (head?_shown _ _ _) (head?_shown _ _ _) same
  obtain ⟨kind, text, rest⟩ := shown_unique value value' entries
  rw [← starts] at rest
  exact ⟨by rw [Token.unplaced, Token.unplaced, kind, String.toList_inj.mp text, starts], rest⟩

/-- **What is written of sequences tells their tokens.** -/
theorem unplaced_eq_of_written_eq {line : Nat} {ts ts' : List Token} (sequence : Sequence ts)
    (sequence' : Sequence ts') (same : written line ts = written line ts') :
    ts.map Token.unplaced = ts'.map Token.unplaced := by
  -- both end with the first token that marks the end, since no other token of either does
  induction sequence generalizing line ts' with
  | last ends value =>
    cases sequence' with
    | last _ value' => rw [List.map_singleton, List.map_singleton, (first_unique value value' same).1]
    | more other value' _ =>
      have kind := congrArg Prod.fst (first_unique value value' same).1
      exact absurd (kind.symm.trans ends) other
  | more other value _ ih =>
    cases sequence' with
    | last ends value' =>
      have kind := congrArg Prod.fst (first_unique value value' same).1
      exact absurd (kind.trans ends) other
    | more _ value' sequence' =>
      obtain ⟨first, rest⟩ := first_unique value value' same
      rw [List.map_cons, List.map_cons, first, ih sequence' rest]

end Listing

/-! ## The values of tokens -/

namespace Numeral

open LiteralType (eq_false_of_apart holds holds_append holds_cons holds_eq_false mem_of_beq_or)

/-- No numeral holds a comma. -/
theorem Spelled.not_mem_comma {cs : List Char} (spelled : Spelled cs) : ',' ∉ cs := by
  have free : holds [','] cs = false := by
    cases spelled with
    | hex letter form =>
      obtain ⟨digits, _, rfl, run, fraction, tail, rfl, fraction', tail'⟩ := form
      have first : [','].contains _ = false := eq_false_of_apart (by decide) (mem_of_beq_or letter)
      rw [holds_cons, holds_cons, holds_append, holds_append, first, holds_eq_false run.all (by decide),
        holds_eq_false fraction'.all (by decide), holds_eq_false tail'.all (by decide)]
      rfl
    | binary letter form =>
      obtain ⟨digits, mark, rfl, run, mark'⟩ := form
      have first : [','].contains _ = false := eq_false_of_apart (by decide) (mem_of_beq_or letter)
      rw [holds_cons, holds_cons, holds_append, first, holds_eq_false run.all (by decide),
        holds_eq_false mark'.all (by decide)]
      rfl
    | decimal _ form =>
      obtain ⟨digits, _, split, run, fraction, _, rfl, fraction', exponent, mark, rfl, exponent', mark'⟩ :=
        form
      rw [split, holds_append, holds_append, holds_append, holds_eq_false run.all (by decide),
        holds_eq_false fraction'.all (by decide), holds_eq_false exponent'.all (by decide),
        holds_eq_false mark'.all (by decide)]
      rfl
  intro member
  have held := List.any_eq_false.mp free ',' member
  exact held (by decide)

end Numeral

/-- A symbol is one of those that its kind has. -/
theorem Vocabulary.value_of_symbolAt? {cs : List Char} {kind : TokenKind} {symbol : String}
    (found : java.symbolAt? cs = some (kind, symbol)) : Listing.Value kind symbol.toList := by
  have listed : ∀ {s : Symbols} {symbol : String}, s.longestPrefix? cs = some symbol →
      Listing.SymbolValue s symbol.toList :=
    fun found => ⟨_, (Symbols.longestPrefix?_eq_some.mp found).begins.member, rfl⟩
  unfold symbolAt? at found
  split at found
  · split at found <;> cases found
    · exact listed ‹_›
    · exact listed ‹_›
  · cases found
    exact listed ‹_›
  · cases found
    exact listed ‹_›
  · cases found

/-- The value of a literal is its text. -/
theorem Lexeme.value_literal {text : List Char} (value : Listing.LiteralValue text) :
    Listing.Value (literal text).kind (literal text).value.toList := by
  have spelled : (literal text).value.toList = text := String.toList_ofList
  rw [spelled]
  exact ⟨value, rfl⟩

theorem Vocabulary.value_of_kindOfWord {word : List Char} (more : word ≠ [])
    (parts : Listing.WordValue word) :
    Listing.Value (java.kindOfWord word) (Lexeme.value ⟨java.kindOfWord word, word⟩).toList := by
  unfold kindOfWord
  split
  · simpa [Lexeme.value, Listing.Value] using parts
  · split
    · obtain ⟨c, cs, rfl⟩ := List.exists_cons_of_ne_nil more
      refine Lexeme.value_literal (.plain ?_ ?_ fun member => ?_)
      · rintro rfl
        exact absurd (parts _ (List.mem_cons_self ..)) (by decide)
      · rintro rfl
        exact absurd (parts _ (List.mem_cons_self ..)) (by decide)
      · exact absurd (parts _ member) (by decide)
    · simpa [Lexeme.value, Listing.Value] using parts

/-- **A lexeme has a value of its kind.** -/
theorem Lexeme.Before.value {lexeme : Lexeme} {rest : List Char}
    (before : Before Vocabulary.java lexeme rest) :
    Listing.Value lexeme.kind lexeme.value.toList := by
  cases before with
  | @word c cs _ start size =>
    have parts : Listing.WordValue ((c :: cs ++ rest).take (Word.length (c :: cs ++ rest))) :=
      Munch.takes_run Word.isPart _
    rw [size, List.take_left] at parts
    exact Vocabulary.value_of_kindOfWord (List.cons_ne_nil _ _) parts
  | @numeral c cs _ start digit size =>
    have spelled := Numeral.spelled_length (cs ++ rest) digit
    rw [← List.cons_append, size, List.take_left] at spelled
    exact value_literal (.plain (LiteralType.ne_of_isDigit digit (by decide))
      (LiteralType.ne_of_isDigit digit (by decide)) spelled.not_mem_comma)
  | @string closed cs _ read =>
    cases closed with
    | true =>
      obtain ⟨body, items, rfl⟩ := Quotation.readString_closing read
      exact value_literal (.string (.intro items))
    | false => exact .string
  | @char closed cs _ read =>
    cases closed with
    | true =>
      obtain ⟨item, one, rfl⟩ := Quotation.readChar_closing read
      exact value_literal (.char (.intro one))
    | false => exact .char
  | @symbol kind symbol c cs _ _ spelled found =>
    have value := Vocabulary.value_of_symbolAt? found
    rw [spelled] at value
    rcases kind_of_symbolAt? found with rfl | rfl <;> simpa [Lexeme.value] using value
  | @unrecognised c _ unmarked =>
    have value : Listing.ErrorValue .unrecognisedCharacter [c] := .unrecognised unmarked.word
    simpa [Lexeme.value, Listing.Value] using value

/-- The tokens of a text end with the mark of its end. -/
theorem Listing.sequence_tokenize (text : List Char) : Sequence (tokenize text) := by
  obtain ⟨pieces, last, cut⟩ := Cut.exists_cut Vocabulary.java text
  have along : ∀ offset started, Sequence (tokensAlong offset started pieces last) := by
    induction cut with
    | last => exact fun _ _ => .last rfl rfl
    | piece _ found _ ih =>
      obtain ⟨_, -, before⟩ := Lexeme.exists_before found
      exact fun _ _ => .more (Lexeme.kind_of_first? found).1 before.value (ih _ _)
  rw [tokenize, cut.tokensOf_eq]
  exact along 0 false

/-- **The listing is unambiguous**: texts with the same listing have the same tokens but for where they
stand. -/
theorem unplaced_eq_of_render_eq {a b : List Char}
    (same : Listing.render false (tokenize a) = Listing.render false (tokenize b)) :
    (tokenize a).map Token.unplaced = (tokenize b).map Token.unplaced := by
  have texts := congrArg String.toList same
  rw [Listing.toList_render, Listing.toList_render] at texts
  exact Listing.unplaced_eq_of_written_eq (Listing.sequence_tokenize a) (Listing.sequence_tokenize b)
    (List.append_cancel_right texts)

/-- A string may look like entries. Trivia behind it is not listed. -/
theorem unplaced_eq_of_render_eq_string :
    let a := ['"', ')', 'I', 'D', '(', '"', 'x']
    let b := ['\n', '"', ')', 'I', 'D', '(', '"', '/', '*', '*', '/', 'x']
    Listing.render false (tokenize a) = Listing.render false (tokenize b) ∧
      (tokenize a).map Token.unplaced = (tokenize b).map Token.unplaced := by
  intro a b
  have same : Listing.render false (tokenize a) = Listing.render false (tokenize b) := by decide +kernel
  exact ⟨same, unplaced_eq_of_render_eq same⟩

end Lexis
