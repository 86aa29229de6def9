import Lexis.Proofs.Scan.Quotation

/-!
# Line ends inside quoted literals

The readers of quoted literals stop in front of a line end, but an escape takes it along. In a string
that is the line end directly behind a backslash; in a string and in a character literal it is also one
of the four characters of a `\u` escape, which may be any. Nowhere else does a literal hold a line end:
`lineEndsBehind_readString` and `lineEndsBehind_readChar` say so for what the readers take, whether they
close it or not.
-/

set_option autoImplicit false

namespace Lexis.Quotation

open Munch (Row)

/-- The front of a `\u` escape, as far as one of its four characters. -/
inductive UnicodeFront : List Char → Prop
  | intro (marks : Nat) {taken : List Char} : taken.head? ≠ some 'u' → taken.length < 4 →
      UnicodeFront ('\\' :: 'u' :: (List.replicate marks 'u' ++ taken))

/-- The front of a string behind its opening quote, as far as a character that an escape shields: items,
and behind them a backslash, or the front of a `\u` escape. -/
def StringFront (cs : List Char) : Prop :=
  ∃ items front, cs = items ++ front ∧ Body items ∧ (front = ['\\'] ∨ UnicodeFront front)

/-- Every line end of a text stands behind a front of some kind. -/
def LineEndsBehind (Front : List Char → Prop) (cs : List Char) : Prop :=
  ∀ before c behind, cs = before ++ c :: behind → Text.isLineBreak c = true → Front before

namespace LineEndsBehind

variable {Front Front' : List Char → Prop} {cs ds : List Char}

theorem of_none (none : ∀ c ∈ cs, Text.isLineBreak c = false) : LineEndsBehind Front cs := by
  rintro before c behind rfl line
  rw [none c (by simp)] at line
  cases line

theorem single {c : Char} (plain : Text.isLineBreak c = false) : LineEndsBehind Front [c] :=
  .of_none (by simpa using plain)

theorem imp (h : LineEndsBehind Front cs) (also : ∀ before, Front before → Front' before) :
    LineEndsBehind Front' cs :=
  fun before c behind split line => also before (h before c behind split line)

theorem append (h : LineEndsBehind Front cs) (h' : LineEndsBehind (fun before => Front (cs ++ before)) ds) :
    LineEndsBehind Front (cs ++ ds) := by
  intro before c behind split line
  rcases List.append_eq_append_iff.mp split with ⟨more, rfl, rest⟩ | ⟨more, rfl, rest⟩
  · exact h' more c behind rest line
  · cases more with
    | nil =>
      have front := h' [] c behind rest.symm line
      simpa using front
    | cons d more =>
      obtain ⟨rfl, -⟩ := List.cons.inj rest
      exact h before c more rfl line

theorem cons {c : Char} (plain : Text.isLineBreak c = false)
    (h : LineEndsBehind (fun before => Front (c :: before)) ds) : LineEndsBehind Front (c :: ds) :=
  (single plain).append h

end LineEndsBehind

/-! ## Escapes -/

/-- In a `\u` escape a line end is one of the four characters. The text may cut the escape short. -/
theorem lineEndsBehind_unicode (marks : Nat) {four : List Char} (other : four.head? ≠ some 'u')
    (few : four.length ≤ 4) :
    LineEndsBehind UnicodeFront ('\\' :: 'u' :: (List.replicate marks 'u' ++ four)) := by
  have plain : ∀ c ∈ '\\' :: 'u' :: List.replicate marks 'u', Text.isLineBreak c = false := by
    intro c member
    have marked : c = '\\' ∨ c = 'u' := by
      simp only [List.mem_cons, List.mem_replicate] at member
      tauto
    rcases marked with rfl | rfl <;> decide
  refine (LineEndsBehind.of_none plain).append ?_
  rintro taken c behind rfl -
  refine .intro marks ?_ ?_
  · cases taken with
    | nil => simp
    | cons a taken => simpa using other
  · simp only [List.length_append, List.length_cons] at few
    omega

theorem lineEndsBehind_escape {escape : List Char} (h : Escape escape) :
    LineEndsBehind (fun before => before = ['\\'] ∨ UnicodeFront before) escape := by
  cases h with
  | @single c _ =>
    intro before d behind split line
    match before, split with
    | [], split =>
      obtain ⟨rfl, -⟩ := List.cons.inj split
      exact absurd line (by decide)
    | [_], split => exact .inl (by rw [(List.cons.inj split).1])
    | _ :: _ :: before, split => simp at split
  | @unicode marks a b c d other =>
    have first : [a, b, c, d].head? ≠ some 'u' := by simpa using other
    exact (lineEndsBehind_unicode marks first (by simp)).imp fun _ => .inr

/-- What is left of an escape that the text cuts short. -/
theorem lineEndsBehind_cutShort {cs : List Char} (short : escape ('\\' :: cs) = 0) :
    LineEndsBehind UnicodeFront ('\\' :: cs) := by
  obtain rfl | ⟨marks, four, rfl, other, few⟩ := exists_cutShort short
  · exact .single (by decide)
  · exact lineEndsBehind_unicode marks other (Nat.le_of_lt few)

/-! ## Strings -/

theorem StringFront.append {items cs : List Char} (body : Body items) (h : StringFront cs) :
    StringFront (items ++ cs) := by
  obtain ⟨more, front, rfl, row, which⟩ := h
  refine ⟨items ++ more, front, (List.append_assoc _ _ _).symm, ?_, which⟩
  induction body with
  | nil => exact row
  | cons item _ ih => rw [List.append_assoc]; exact .cons item ih

theorem lineEndsBehind_body {items : List Char} (body : Body items) : LineEndsBehind StringFront items := by
  induction body with
  | nil => exact .of_none (by simp)
  | @cons item row first _ ih =>
    have one : Body item := by simpa using Row.cons first .nil
    refine LineEndsBehind.append ?_ (ih.imp fun _ => StringFront.append one)
    cases first with
    | @plain c _ _ line => exact .of_none (by simpa using line)
    | escape h => exact (lineEndsBehind_escape h).imp fun front which => ⟨[], front, rfl, .nil, which⟩

/-- **A line end of a string is shielded** where no quote closes the string. -/
theorem lineEndsBehind_readString {cs rest : List Char}
    (read : readString (cs ++ rest) = ⟨cs.length + 1, false⟩) : LineEndsBehind StringFront cs := by
  obtain ⟨items, behind, split, body, ⟨_, -, here⟩ | ⟨-, here⟩ | ⟨after, rfl, short, here⟩⟩ :=
    readString_cases (cs ++ rest)
  · exact absurd (read.symm.trans here) (by simp)
  · rw [read] at here
    obtain ⟨rfl, -⟩ := List.append_inj split (Nat.succ.inj (Reading.mk.inj here).1)
    exact lineEndsBehind_body body
  · -- an escape that is cut short takes all of the text
    rw [read] at here
    obtain rfl : rest = [] := by simpa using here
    rw [List.append_nil] at split
    subst split
    refine (lineEndsBehind_body body).append ((lineEndsBehind_cutShort short).imp fun front unicode => ?_)
    exact ⟨items, front, rfl, body, .inr unicode⟩

/-! ## Characters -/

theorem isPart_of_isLineBreak {c : Char} (line : Text.isLineBreak c = true) : Word.isPart c = false :=
  Word.isPart_of_isOpener c (Trivia.isOpener_of_isSpace (by simp [Trivia.isSpace, line]))

/-- The item of a character literal holds a line end in a `\u` escape only. -/
theorem lineEndsBehind_charItem {item : List Char} (h : CharItem item) :
    LineEndsBehind UnicodeFront item := by
  cases h with
  | @plain c _ _ line => exact .of_none (by simpa using line)
  | @escape c cs escape line =>
    cases escape with
    | single _ =>
      refine .of_none fun d member => ?_
      obtain rfl | rfl : d = '\\' ∨ d = c := by simpa using member
      · decide
      · exact line
    | @unicode marks x y z w other => exact lineEndsBehind_unicode marks (by simpa using other) (by simp)

/-- What is behind the item holds no line end: it is the closing quote, or a word in front of one. -/
theorem isLineBreak_closeChar {closed : Bool} {item : Nat} {cs rest : List Char}
    (read : closeChar item (cs ++ rest) = ⟨item + cs.length + 1, closed⟩) :
    ∀ c ∈ cs, Text.isLineBreak c = false := by
  simp only [closeChar] at read
  split at read
  · next after quote =>
    have size : cs.length = Word.length (cs ++ rest) + 1 := by
      have := (Reading.mk.inj read).1
      omega
    have word : (cs ++ rest).take (Word.length (cs ++ rest)) = (cs ++ rest).takeWhile Word.isPart :=
      (List.prefix_iff_eq_take.mp (List.takeWhile_prefix _)).symm
    have split : cs ++ rest = ((cs ++ rest).takeWhile Word.isPart ++ ['\'']) ++ after := by
      rw [← word, List.append_assoc, List.singleton_append, ← quote, List.take_append_drop]
    have taken := (List.append_inj split (by rw [size, List.length_append]; rfl)).1
    intro c member
    rw [taken] at member
    rcases List.mem_append.mp member with part | quote
    · have part := List.mem_takeWhile_imp part
      cases line : Text.isLineBreak c with
      | false => rfl
      | true => rw [isPart_of_isLineBreak line] at part; cases part
    · rw [List.mem_singleton.mp quote]
      decide
  · have size := (Reading.mk.inj read).1
    obtain rfl : cs = [] := List.length_eq_zero_iff.mp (by omega)
    simp

/-- **A line end of a character literal is shielded**, whether the literal is closed or not. -/
theorem lineEndsBehind_readChar {closed : Bool} {cs rest : List Char}
    (read : readChar (cs ++ rest) = ⟨cs.length + 1, closed⟩) : LineEndsBehind UnicodeFront cs := by
  rcases readChar_cases (cs ++ rest) with ⟨-, here⟩ | ⟨after, split, here⟩ | ⟨after, split, -, here⟩ |
    ⟨after, split, -, short, here⟩ | ⟨item, after, split, h, here⟩
  · rw [read] at here
    obtain ⟨rfl, -⟩ : cs = [] ∧ closed = false := by simpa using here
    exact .of_none (by simp)
  · rw [read] at here
    have size : cs.length = 1 := Nat.succ.inj (Reading.mk.inj here).1
    have split' : cs ++ rest = ['\''] ++ after := split
    obtain ⟨rfl, -⟩ := List.append_inj split' size
    exact .single (by decide)
  · rw [read] at here
    have size : cs.length = 1 := Nat.succ.inj (Reading.mk.inj here).1
    have split' : cs ++ rest = ['\\'] ++ after := split
    obtain ⟨rfl, -⟩ := List.append_inj split' size
    exact .single (by decide)
  · rw [read] at here
    obtain ⟨rfl, -⟩ : rest = [] ∧ closed = false := by simpa using here
    rw [List.append_nil] at split short
    subst split
    exact lineEndsBehind_cutShort short
  · have long := lt_closeChar_length item.length after
    rw [← here, read] at long
    obtain ⟨more, rfl, rfl⟩ := exists_append_of_length_le split.symm (Nat.le_of_lt_succ long)
    rw [read, List.length_append] at here
    exact (lineEndsBehind_charItem h).append (.of_none (isLineBreak_closeChar here.symm))

end Lexis.Quotation
