import Lexis.Scan.Quotation
import Lexis.Proofs.Scan.Border

/-!
# Quoted literals and what stands behind them

The escapes and the items of a string are sets of texts, and the readers take exactly these: an item is
never changed by what comes behind it. What a reader makes of a literal that is closed is settled by the
literal alone. One that is not closed is settled by the literal and by whether its line goes on behind
it; only an escape that the end of the text cuts short would take more of a longer text.

`readString_cases` and `readChar_cases` list what the readers can come to, and the lemmas on the single
outcomes say when each of them comes about. From these it follows that a literal is read again where its
line ends behind it (`readString_lineEnd`, `readChar_lineEnd`), and in front of other trivia
(`readString_standsIn`, `readChar_standsIn`).
-/

set_option autoImplicit false

namespace Lexis.Quotation

open Munch (Row Spells)

/-! ## Items -/

/-- An escape: a backslash and one character, or one or more letters `u` and four characters of which
the first is none. -/
inductive Escape : List Char → Prop
  | single {c : Char} : c ≠ 'u' → Escape ['\\', c]
  | unicode {marks : Nat} {a b c d : Char} :
      a ≠ 'u' → Escape ('\\' :: 'u' :: (List.replicate marks 'u' ++ [a, b, c, d]))

/-- An item of a string. -/
inductive StringItem : List Char → Prop
  | plain {c : Char} : c ≠ '"' → c ≠ '\\' → Text.isLineBreak c = false → StringItem [c]
  | escape {x : List Char} : Escape x → StringItem x

private theorem escapeBody_of_ne {c : Char} (cs : List Char) (other : c ≠ 'u') :
    escapeBody (c :: cs) = 1 := by
  unfold escapeBody
  split
  · next h => exact absurd (List.cons.inj h).1 other
  · rfl
  · next h => cases h

/-- Letters `u` stand together up to the first character that is none. -/
theorem run_marks (marks : Nat) {four : List Char} (other : four.head? ≠ some 'u') :
    Munch.run (· == 'u') (List.replicate marks 'u' ++ four) = marks := by
  have stop : four.takeWhile (· == 'u') = [] := by
    cases four with
    | nil => rfl
    | cons a four =>
      have first : a ≠ 'u' := by simpa using other
      simp [first]
  rw [Munch.run, List.takeWhile_append_of_pos (by simp), stop, List.append_nil, List.length_replicate]

private theorem escapeBody_marks (marks : Nat) {four : List Char} (other : four.head? ≠ some 'u') :
    escapeBody ('u' :: (List.replicate marks 'u' ++ four)) =
      if (four.drop 3).isEmpty then 0 else marks + 5 := by
  have behind : (List.replicate marks 'u' ++ four).drop (marks + 3) = four.drop 3 := by
    rw [List.drop_append, List.length_replicate]
    simp
  simp only [escapeBody, run_marks marks other, behind]

/-- The letters `u` at the front of a text. -/
private theorem exists_marks (cs : List Char) :
    ∃ marks rest, cs = List.replicate marks 'u' ++ rest ∧ rest.head? ≠ some 'u' := by
  induction cs with
  | nil => exact ⟨0, [], rfl, by simp⟩
  | cons c cs ih =>
    by_cases mark : c = 'u'
    · obtain ⟨marks, rest, rfl, head⟩ := ih
      exact ⟨marks + 1, rest, by rw [mark, List.replicate_succ, List.cons_append], head⟩
    · exact ⟨0, c :: cs, rfl, by simpa using mark⟩

theorem spells_escape : Spells escape Escape where
  nonempty := by
    rintro x (_ | _) <;> exact List.cons_ne_nil _ _
  takes := by
    rintro x rest (@⟨c, other⟩ | @⟨marks, a, b, c, d, other⟩)
    · simp [escape, escapeBody_of_ne rest other]
    · have first : (a :: b :: c :: d :: rest).head? ≠ some 'u' := by simpa using other
      have body := escapeBody_marks marks first
      simp only [List.drop_succ_cons, List.drop_zero, List.isEmpty_cons, Bool.false_eq_true,
        if_false] at body
      simp [escape, body]
  only := by
    intro cs taken
    unfold escape at taken
    split at taken
    · next cs =>
      match cs with
      | [] => cases taken
      | c :: cs =>
        by_cases mark : c = 'u'
        · subst mark
          obtain ⟨marks, rest, rfl, head⟩ := exists_marks cs
          match rest, head with
          | a :: b :: c :: d :: rest, head =>
            have other : a ≠ 'u' := fun h => head (congrArg some h)
            exact ⟨'\\' :: 'u' :: (List.replicate marks 'u' ++ [a, b, c, d]), rest, by simp,
              .unicode other⟩
          | [_, _, _], head | [_, _], head | [_], head | [], head =>
            rw [escapeBody_marks marks head] at taken
            cases taken
        · exact ⟨['\\', c], cs, rfl, .single mark⟩
    · cases taken

/-- Letters `u` with fewer than four characters behind them are no escape. -/
theorem escape_eq_zero (marks : Nat) {few : List Char} (other : few.head? ≠ some 'u')
    (short : few.length < 4) : escape ('\\' :: 'u' :: (List.replicate marks 'u' ++ few)) = 0 := by
  have none : few.drop 3 = [] := List.drop_eq_nil_of_le (Nat.le_of_lt_succ short)
  simp [escape, escapeBody_marks marks other, none]

/-- **An escape that the text cuts short**: a backslash at the end, or letters `u` with fewer than four
characters behind them. -/
theorem exists_cutShort {cs : List Char} (short : escape ('\\' :: cs) = 0) :
    cs = [] ∨ ∃ marks four, cs = 'u' :: (List.replicate marks 'u' ++ four) ∧
      four.head? ≠ some 'u' ∧ four.length < 4 := by
  cases cs with
  | nil => exact .inl rfl
  | cons c cs =>
    by_cases mark : c = 'u'
    · subst mark
      obtain ⟨marks, four, rfl, head⟩ := exists_marks cs
      refine .inr ⟨marks, four, rfl, head, ?_⟩
      have none : (four.drop 3).isEmpty = true := by
        by_contra enough
        simp [escape, escapeBody_marks marks head, enough] at short
      rw [List.isEmpty_iff, List.drop_eq_nil_iff] at none
      exact Nat.lt_succ_of_le none
    · have taken := spells_escape.takes _ cs (.single mark)
      simp only [List.cons_append, List.nil_append] at taken
      rw [taken] at short
      cases short

private theorem escape_of_ne {c : Char} (cs : List Char) (other : c ≠ '\\') :
    escape (c :: cs) = 0 := by
  unfold escape
  split
  · next h => exact absurd (List.cons.inj h).1 other
  · rfl

theorem spells_stringItem : Spells stringItem StringItem where
  nonempty := by
    rintro x (_ | escape)
    · exact List.cons_ne_nil _ _
    · exact spells_escape.nonempty x escape
  takes := by
    rintro x rest (@⟨c, quote, slash, line⟩ | escape)
    · simp [stringItem, Munch.orElse, escape_of_ne _ slash, Munch.one, quote, slash, line]
    · have taken := spells_escape.takes x rest escape
      have nonempty := spells_escape.nonempty x escape
      simp only [stringItem, Munch.orElse, taken]
      split
      · next none => exact absurd (List.length_eq_zero_iff.mp none) nonempty
      · next n size => exact size.symm
  only := by
    intro cs taken
    simp only [stringItem, Munch.orElse] at taken
    split at taken
    · cases cs with
      | nil => cases taken
      | cons c cs =>
        simp only [Munch.one] at taken
        split at taken
        · next plain =>
          simp only [Bool.not_eq_true', Bool.or_eq_false_iff, beq_eq_false_iff_ne, ne_eq] at plain
          exact ⟨[c], cs, rfl, .plain plain.1.1 plain.1.2 plain.2⟩
        · exact absurd taken (Nat.lt_irrefl 0)
    · next n size =>
      obtain ⟨x, rest, rfl, item⟩ := spells_escape.only cs (by omega)
      exact ⟨x, rest, rfl, .escape item⟩

/-- A character that ends a line is none of those that end no line. -/
private theorem beq_of_isLineBreak {c d : Char} (line : Text.isLineBreak c = true)
    (other : Text.isLineBreak d = false) : (c == d) = false := by
  by_cases same : c = d
  · rw [same, other] at line
    cases line
  · simpa using same

/-- The characters at which no item of a string begins. -/
theorem stringItem_eq_zero {c : Char} (cs : List Char)
    (ends : c = '"' ∨ Text.isLineBreak c = true) : stringItem (c :: cs) = 0 := by
  have slash : c ≠ '\\' := by
    rintro rfl
    rcases ends with h | h <;> exact absurd h (by decide)
  rcases ends with rfl | h
  · simp [stringItem, Munch.orElse, escape_of_ne _ slash, Munch.one]
  · simp [stringItem, Munch.orElse, escape_of_ne _ slash, Munch.one, h]

/-! ## Strings -/

/-- What stands between the quotes of a string. -/
abbrev Body : List Char → Prop := Row StringItem

private theorem many_body {body : List Char} (rest : List Char) (items : Body body)
    (none : stringItem rest = 0) :
    Munch.many stringItem (body ++ rest) = body.length := by
  rw [spells_stringItem.many_append items, Munch.many_eq_zero none, Nat.add_zero]

theorem readString_closed {body : List Char} (rest : List Char) (items : Body body) :
    readString (body ++ '"' :: rest) = ⟨body.length + 2, true⟩ := by
  unfold readString
  simp only [many_body _ items (stringItem_eq_zero rest (.inl rfl)), List.drop_left]
  rfl

/-- A string that is not closed before its line or the text ends. -/
theorem readString_ended {body rest : List Char} (items : Body body)
    (ended : rest.head?.all Text.isLineBreak = true) :
    readString (body ++ rest) = ⟨body.length + 1, false⟩ := by
  cases rest with
  | nil =>
    unfold readString
    simp only [many_body [] items rfl, List.drop_left]
  | cons c rest =>
    have line : Text.isLineBreak c = true := by simpa using ended
    have quote : (c == '"') = false := beq_of_isLineBreak line rfl
    unfold readString
    simp only [many_body _ items (stringItem_eq_zero rest (.inr line)), List.drop_left, quote, line]
    rfl

/-- **What a string can come to**: closed, ended by its line or the text, or cut short inside an
escape. -/
theorem readString_cases (cs : List Char) :
    ∃ body rest, cs = body ++ rest ∧ Body body ∧
      ((∃ behind, rest = '"' :: behind ∧ readString cs = ⟨body.length + 2, true⟩) ∨
        (rest.head?.all Text.isLineBreak = true ∧ readString cs = ⟨body.length + 1, false⟩) ∨
        (∃ behind, rest = '\\' :: behind ∧ escape rest = 0 ∧
          readString cs = ⟨cs.length + 1, false⟩)) := by
  obtain ⟨body, rest, rfl, items, none, taken⟩ := spells_stringItem.exists_row cs
  refine ⟨body, rest, rfl, items, ?_⟩
  cases rest with
  | nil => exact .inr (.inl ⟨rfl, readString_ended items rfl⟩)
  | cons c behind =>
    by_cases quote : c = '"'
    · subst quote
      exact .inl ⟨behind, rfl, readString_closed behind items⟩
    · by_cases line : Text.isLineBreak c = true
      · have ended : (c :: behind).head?.all Text.isLineBreak = true := by simpa using line
        exact .inr (.inl ⟨ended, readString_ended items ended⟩)
      · -- no item begins here, so the character is the backslash of an escape that is cut short
        simp only [stringItem, Munch.orElse] at none
        split at none
        · next short =>
          have slash : c = '\\' := by
            by_contra other
            simp [Munch.one, quote, line, other] at none
          subst slash
          refine .inr (.inr ⟨behind, rfl, short, ?_⟩)
          have all : (body ++ '\\' :: behind).length + 1 = body.length + behind.length + 2 := by
            simp only [List.length_append, List.length_cons]
            omega
          rw [all]
          unfold readString
          simp only [taken, List.drop_left]
          rfl
        · cases none

theorem readString_length_le (cs : List Char) : (readString cs).length ≤ cs.length + 1 := by
  obtain ⟨body, rest, rfl, -, ⟨after, rfl, read⟩ | ⟨-, read⟩ | ⟨after, -, -, read⟩⟩ :=
    readString_cases cs
  · rw [read]
    simp only [List.length_append, List.length_cons]
    omega
  · rw [read]
    simp only [List.length_append]
    omega
  · rw [read]

/-- An escape that is cut short takes the whole text, so nothing is behind what it takes. -/
private theorem not_cutShort {body after front behind : List Char}
    (split : front ++ behind = body ++ '\\' :: after)
    (inside : (front ++ behind).length + 1 ≤ front.length + 1)
    (whole : behind = [] → '\\' ∉ front) : False := by
  have nothing : behind = [] := by
    rw [List.length_append] at inside
    exact List.length_eq_zero_iff.mp (by omega)
  rw [nothing, List.append_nil] at split
  exact whole nothing (by rw [split]; simp)

/-- A string is read in the same way when another text stands in for what is behind it. -/
theorem readString_standsIn {front behind behind' : List Char}
    (stands : StandsInFor behind' behind)
    (inside : (readString (front ++ behind)).length ≤ front.length + 1)
    (whole : behind = [] → (readString (front ++ behind)).closed = false →
      (readString (front ++ behind)).length = front.length + 1 → '\\' ∉ front) :
    readString (front ++ behind') = readString (front ++ behind) := by
  obtain ⟨body, rest, split, items, ⟨after, rfl, read⟩ | ⟨ended, read⟩ | ⟨after, rfl, -, read⟩⟩ :=
    readString_cases (front ++ behind)
  · rw [read] at inside ⊢
    have split' : (body ++ ['"']) ++ after = front ++ behind := by rw [split]; simp
    obtain ⟨more, rfl, -⟩ := exists_append_of_length_le split' (by simpa using inside)
    simpa using readString_closed (more ++ behind') items
  · rw [read] at inside ⊢
    obtain ⟨more, rfl, rfl⟩ := exists_append_of_length_le split.symm (by simpa using inside)
    rw [List.append_assoc]
    exact readString_ended items (stands.line_append ended)
  · rw [read] at inside whole
    exact (not_cutShort split inside fun nothing => whole nothing rfl (by simp [nothing])).elim

/-- A string that was read as closed ends with its quote. -/
theorem readString_closing {cs behind : List Char}
    (read : readString (cs ++ behind) = ⟨cs.length + 1, true⟩) :
    ∃ body, Body body ∧ cs = body ++ ['"'] := by
  obtain ⟨body, rest, split, items, ⟨after, rfl, here⟩ | ⟨-, here⟩ | ⟨-, -, -, here⟩⟩ :=
    readString_cases (cs ++ behind)
  · rw [read] at here
    have split' : cs ++ behind = (body ++ ['"']) ++ after := by rw [split]; simp
    exact ⟨body, items, (List.append_inj split' (by simpa using here)).1⟩
  · exact absurd (read.symm.trans here) (by simp)
  · exact absurd (read.symm.trans here) (by simp)

/-- A string is read in the same way when a line end takes the place of what is behind it. -/
theorem readString_lineEnd {closed : Bool} {cs behind behind' : List Char}
    (ends : LineEndFor behind' behind)
    (read : readString (cs ++ behind) = ⟨cs.length + 1, closed⟩) :
    readString (cs ++ behind') = ⟨cs.length + 1, closed⟩ := by
  obtain ⟨body, rest, split, items, ⟨after, rfl, here⟩ | ⟨ended, here⟩ | ⟨after, rfl, -, here⟩⟩ :=
    readString_cases (cs ++ behind)
  · rw [read] at here
    obtain ⟨-, rfl⟩ := Reading.mk.inj here
    obtain ⟨body, items, rfl⟩ := readString_closing read
    rw [List.append_assoc, List.length_append, List.length_singleton]
    exact readString_closed behind' items
  · rw [read] at here
    obtain ⟨size, rfl⟩ := Reading.mk.inj here
    obtain ⟨rfl, -⟩ := List.append_inj split (Nat.succ.inj size)
    exact readString_ended items ends.line
  · rw [read] at here
    obtain ⟨rfl, rfl⟩ : behind = [] ∧ closed = false := by simpa using here
    rwa [ends.atEnd rfl]

/-! ## Characters -/

/-- The one item of a character literal. -/
inductive CharItem : List Char → Prop
  | plain {c : Char} : c ≠ '\'' → c ≠ '\\' → Text.isLineBreak c = false → CharItem [c]
  | escape {c : Char} {x : List Char} :
      Escape ('\\' :: c :: x) → Text.isLineBreak c = false → CharItem ('\\' :: c :: x)

theorem CharItem.length_pos {item : List Char} (h : CharItem item) : 0 < item.length := by
  cases h <;> exact Nat.succ_pos _

/-- A character literal with nothing on its line behind the opening quote. -/
theorem readChar_ended {cs : List Char} (ended : cs.head?.all Text.isLineBreak = true) :
    readChar cs = ⟨1, false⟩ := by
  cases cs with
  | nil => rfl
  | cons c cs =>
    have line : Text.isLineBreak c = true := by simpa using ended
    have quote : (c == '\'') = false := beq_of_isLineBreak line rfl
    simp only [readChar, quote, line]
    rfl

theorem readChar_empty (cs : List Char) : readChar ('\'' :: cs) = ⟨2, false⟩ := rfl

/-- A character literal with nothing on its line behind a backslash. -/
theorem readChar_slash_ended {cs : List Char} (ended : cs.head?.all Text.isLineBreak = true) :
    readChar ('\\' :: cs) = ⟨2, false⟩ := by
  have line : Text.isLineBreak '\\' = false := by decide
  simp only [readChar, line, ended]
  rfl

/-- An item is read by itself, and the rest decides how the literal is closed. -/
theorem readChar_item {item : List Char} (rest : List Char) (h : CharItem item) :
    readChar (item ++ rest) = closeChar item.length rest := by
  cases h with
  | @plain c quote slash line => simp [readChar, quote, slash, line]
  | @escape c x escape' line =>
    have taken := spells_escape.takes _ rest escape'
    simp only [List.cons_append, List.length_cons] at taken
    have slash : Text.isLineBreak '\\' = false := by decide
    simp [readChar, taken, line, slash]

/-- **What a character literal can come to**: nothing, two quotes, a backslash alone, an escape that is
cut short, or an item and what closes it. -/
theorem readChar_cases (cs : List Char) :
    (cs.head?.all Text.isLineBreak = true ∧ readChar cs = ⟨1, false⟩) ∨
      (∃ rest, cs = '\'' :: rest ∧ readChar cs = ⟨2, false⟩) ∨
      (∃ rest, cs = '\\' :: rest ∧ rest.head?.all Text.isLineBreak = true ∧
        readChar cs = ⟨2, false⟩) ∨
      (∃ rest, cs = '\\' :: rest ∧ rest.head?.all Text.isLineBreak = false ∧ escape cs = 0 ∧
        readChar cs = ⟨cs.length + 1, false⟩) ∨
      (∃ item rest, cs = item ++ rest ∧ CharItem item ∧
        readChar cs = closeChar item.length rest) := by
  match cs with
  | [] => exact .inl ⟨rfl, rfl⟩
  | c :: cs =>
    by_cases line : Text.isLineBreak c = true
    · have ended : (c :: cs).head?.all Text.isLineBreak = true := by simpa using line
      exact .inl ⟨ended, readChar_ended ended⟩
    by_cases quote : c = '\''
    · subst quote
      exact .inr (.inl ⟨cs, rfl, readChar_empty cs⟩)
    by_cases slash : c = '\\'
    · subst slash
      cases ended : cs.head?.all Text.isLineBreak with
      | true => exact .inr (.inr (.inl ⟨cs, rfl, ended, readChar_slash_ended ended⟩))
      | false =>
        cases taken : escape ('\\' :: cs) with
        | zero =>
          refine .inr (.inr (.inr (.inl ⟨cs, rfl, ended, rfl, ?_⟩)))
          have slash : Text.isLineBreak '\\' = false := by decide
          simp [readChar, slash, ended, taken]
        | succ n =>
          obtain ⟨x, rest, split, escape'⟩ := spells_escape.only ('\\' :: cs) (by omega)
          have item : CharItem x := by
            cases escape' with
            | @single d other =>
              obtain ⟨-, rfl⟩ := List.cons.inj split
              exact .escape (.single other) (by simpa using ended)
            | unicode other => exact .escape (.unicode other) (by decide)
          refine .inr (.inr (.inr (.inr ⟨x, rest, split, item, ?_⟩)))
          rw [split]
          exact readChar_item rest item
    · have item : CharItem [c] := .plain quote slash (by simpa using line)
      exact .inr (.inr (.inr (.inr ⟨[c], cs, rfl, item, readChar_item cs item⟩)))

private theorem closeChar_length_le (item : Nat) (rest : List Char) :
    (closeChar item rest).length ≤ item + rest.length + 1 := by
  have inside := Word.bounded_length rest
  simp only [closeChar]
  split
  · next after behind =>
    have word : Word.length rest + (after.length + 1) = rest.length := by
      have := congrArg List.length behind
      simp only [List.length_drop, List.length_cons] at this
      omega
    show item + Word.length rest + 2 ≤ item + rest.length + 1
    omega
  · show item + 1 ≤ item + rest.length + 1
    omega

theorem readChar_length_le (cs : List Char) : (readChar cs).length ≤ cs.length + 1 := by
  rcases readChar_cases cs with ⟨-, read⟩ | ⟨rest, rfl, read⟩ | ⟨rest, rfl, -, read⟩ |
    ⟨rest, rfl, -, -, read⟩ | ⟨item, rest, rfl, -, read⟩
  · rw [read]
    exact Nat.succ_le_succ (Nat.zero_le _)
  · rw [read]
    simp
  · rw [read]
    simp
  · rw [read]
  · rw [read, List.length_append]
    exact closeChar_length_le item.length rest

theorem lt_closeChar_length (item : Nat) (rest : List Char) :
    item < (closeChar item rest).length := by
  simp only [closeChar]
  split
  · show item < item + Word.length rest + 2
    omega
  · exact Nat.lt_succ_self item

/-- What closes a character literal, or is left to the next lexeme, lies in front of trivia. -/
theorem closeChar_standsIn {behind behind' : List Char} (stands : StandsInFor behind' behind)
    (item : Nat) (rest : List Char) :
    closeChar item (rest ++ behind') = closeChar item (rest ++ behind) := by
  have apart : ∀ edge : List Char, edge.head?.all Trivia.isOpener = true →
      ∀ rest, edge ≠ '\'' :: rest := by
    rintro edge opener rest rfl
    have quote : Trivia.isOpener '\'' = true := opener
    exact absurd quote (by decide)
  have inside := Word.bounded_length rest
  have word : Word.length (rest ++ behind) = Word.length rest :=
    Word.stopsAt_length rest behind stands.opener
  simp only [closeChar, stands.munch_eq Word.stopsAt_length rest, word,
    List.drop_append_of_le_length inside]
  cases rest.drop (Word.length rest) with
  | nil =>
    rw [List.nil_append, List.nil_append]
    split
    · next h => exact absurd rfl (apart _ stands.opener' _)
    · split
      · next h => exact absurd rfl (apart _ stands.opener _)
      · rfl
  | cons c after =>
    by_cases quote : c = '\''
    · subst quote; rfl
    · simp [quote]

/-- A character literal is read in the same way when another text stands in for what is behind it. -/
theorem readChar_standsIn {front behind behind' : List Char}
    (stands : StandsInFor behind' behind)
    (inside : (readChar (front ++ behind)).length ≤ front.length + 1)
    (whole : behind = [] → (readChar (front ++ behind)).closed = false →
      (readChar (front ++ behind)).length = front.length + 1 → '\\' ∉ front) :
    readChar (front ++ behind') = readChar (front ++ behind) := by
  rcases readChar_cases (front ++ behind) with ⟨ended, read⟩ | ⟨rest, split, read⟩ |
    ⟨rest, split, ended, read⟩ | ⟨rest, split, -, -, read⟩ | ⟨item, rest, split, h, read⟩
  · rw [read]
    exact readChar_ended (stands.line_append ended)
  · rw [read] at inside ⊢
    have split' : ['\''] ++ rest = front ++ behind := split.symm
    obtain ⟨more, rfl, -⟩ := exists_append_of_length_le split' (by simpa using inside)
    exact readChar_empty _
  · rw [read] at inside ⊢
    have split' : ['\\'] ++ rest = front ++ behind := split.symm
    obtain ⟨more, rfl, rfl⟩ := exists_append_of_length_le split' (by simpa using inside)
    exact readChar_slash_ended (stands.line_append ended)
  · rw [read] at inside whole
    have split' : front ++ behind = [] ++ '\\' :: rest := split
    exact (not_cutShort split' inside fun nothing => whole nothing rfl (by simp [nothing])).elim
  · have long := lt_closeChar_length item.length rest
    rw [read] at inside ⊢
    obtain ⟨more, rfl, rfl⟩ := exists_append_of_length_le split.symm (by omega)
    rw [List.append_assoc, readChar_item _ h]
    exact closeChar_standsIn stands item.length more

/-- What closes a character literal is the quote behind its item. -/
theorem closeChar_closing {item length : Nat} {rest : List Char}
    (read : closeChar item rest = ⟨length, true⟩) :
    length = item + 2 ∧ ∃ after, rest = '\'' :: after := by
  simp only [closeChar] at read
  split at read
  · next after quote =>
    obtain ⟨rfl, none⟩ := Reading.mk.inj read
    have none : Word.length rest = 0 := by simpa using none
    rw [none] at quote ⊢
    exact ⟨rfl, after, quote⟩
  · exact absurd read (by simp)

/-- A character literal that was read as closed holds an item and ends with its quote. -/
theorem readChar_closing {cs behind : List Char}
    (read : readChar (cs ++ behind) = ⟨cs.length + 1, true⟩) :
    ∃ item, CharItem item ∧ cs = item ++ ['\''] := by
  rcases readChar_cases (cs ++ behind) with ⟨-, here⟩ | ⟨rest, -, here⟩ | ⟨rest, -, -, here⟩ |
    ⟨rest, -, -, -, here⟩ | ⟨item, rest, split, h, here⟩
  · exact absurd (read.symm.trans here) (by simp)
  · exact absurd (read.symm.trans here) (by simp)
  · exact absurd (read.symm.trans here) (by simp)
  · exact absurd (read.symm.trans here) (by simp)
  · obtain ⟨size, after, rfl⟩ := closeChar_closing (here.symm.trans read)
    have split' : cs ++ behind = (item ++ ['\'']) ++ after := by rw [split]; simp
    exact ⟨item, h, (List.append_inj split' (by simpa using size)).1⟩

/-- What closes a character literal closes it when a line end takes the place of what is behind it. -/
private theorem closeChar_lineEnd {closed : Bool} {item : Nat} {cs behind behind' : List Char}
    (ends : LineEndFor behind' behind)
    (read : closeChar item (cs ++ behind) = ⟨item + cs.length + 1, closed⟩) :
    closeChar item (cs ++ behind') = ⟨item + cs.length + 1, closed⟩ := by
  have word : Word.length (cs ++ behind') = Word.length cs :=
    Word.stopsAt_length cs behind' ends.opener
  simp only [closeChar, word] at read ⊢
  split at read
  · -- the word is all but the quote
    next after quote =>
    obtain ⟨size, rfl⟩ := Reading.mk.inj read
    have alone : Word.length cs = Word.length (cs ++ behind) := Word.settled_length cs behind (by omega)
    rw [← alone] at size quote ⊢
    have one : (cs.drop (Word.length cs)).length = 1 := by
      rw [List.length_drop]
      omega
    obtain ⟨c, only⟩ := List.length_eq_one_iff.mp one
    rw [List.drop_append_of_le_length (by omega), only] at quote ⊢
    obtain ⟨rfl, -⟩ := List.cons.inj quote
    exact congrArg (Reading.mk · _) size
  · obtain ⟨size, rfl⟩ := Reading.mk.inj read
    obtain rfl : cs = [] := List.length_eq_zero_iff.mp (by omega)
    have none : Word.length ([] : List Char) = 0 := rfl
    rw [none, List.nil_append, List.drop_zero]
    split
    · have line : Text.isLineBreak '\'' = true := ends.line
      exact absurd line (by decide)
    · rfl

/-- A character literal is read in the same way when a line end takes the place of what is behind it. -/
theorem readChar_lineEnd {closed : Bool} {cs behind behind' : List Char}
    (ends : LineEndFor behind' behind)
    (read : readChar (cs ++ behind) = ⟨cs.length + 1, closed⟩) :
    readChar (cs ++ behind') = ⟨cs.length + 1, closed⟩ := by
  rcases readChar_cases (cs ++ behind) with ⟨-, here⟩ | ⟨rest, split, here⟩ | ⟨rest, split, -, here⟩ |
    ⟨rest, -, -, -, here⟩ | ⟨item, rest, split, h, here⟩
  · rw [read] at here
    obtain ⟨rfl, rfl⟩ : cs = [] ∧ closed = false := by simpa using here
    exact readChar_ended ends.line
  · rw [read] at here
    obtain ⟨size, rfl⟩ : cs.length = 1 ∧ closed = false := by simpa using here
    have split' : cs ++ behind = ['\''] ++ rest := split
    obtain ⟨rfl, -⟩ := List.append_inj split' size
    exact readChar_empty behind'
  · rw [read] at here
    obtain ⟨size, rfl⟩ : cs.length = 1 ∧ closed = false := by simpa using here
    have split' : cs ++ behind = ['\\'] ++ rest := split
    obtain ⟨rfl, -⟩ := List.append_inj split' size
    exact readChar_slash_ended ends.line
  · rw [read] at here
    obtain ⟨rfl, rfl⟩ : behind = [] ∧ closed = false := by simpa using here
    rwa [ends.atEnd rfl]
  · have long := lt_closeChar_length item.length rest
    rw [← here, read] at long
    obtain ⟨more, rfl, rfl⟩ := exists_append_of_length_le split.symm (Nat.le_of_lt_succ long)
    rw [read, List.length_append] at here
    rw [List.append_assoc, readChar_item _ h, List.length_append]
    exact closeChar_lineEnd ends here.symm

end Lexis.Quotation
