import Lexis.Scan.Numeral
import Lexis.Scan.Trivia
import Lexis.Proofs.Scan.Trivia

/-!
# Words and numerals end where trivia begins

Words and numerals hold none of the characters that trivia begins with, and no numeral looks behind
one. So where a word or a numeral is cut depends on the text up to such a character only.

`StandsInFor` says when one text may take the place of another behind a lexeme: trivia gives way to
trivia that begins with a blank or a line end, and a line that ends still ends. `LineEndFor` says when a
line end may take the place of whatever is there: not where it would go on from the end of the text.
-/

set_option autoImplicit false

namespace Lexis

/-- **A text that may take the place of another** behind a lexeme. -/
structure StandsInFor (behind' behind : List Char) : Prop where
  opener : behind.head?.all Trivia.isOpener = true
  space : behind'.head?.all Trivia.isSpace = true
  line : behind.head?.all Text.isLineBreak = true → behind'.head?.all Text.isLineBreak = true

namespace StandsInFor

variable {behind behind' : List Char}

theorem opener' (stands : StandsInFor behind' behind) : behind'.head?.all Trivia.isOpener = true :=
  Trivia.opener_of_space stands.space

/-- A form that stops at trivia takes the same. -/
theorem munch_eq (stands : StandsInFor behind' behind) {m : Munch}
    (stops : Munch.StopsAt Trivia.isOpener m) (front : List Char) :
    m (front ++ behind') = m (front ++ behind) := by
  rw [stops front behind' stands.opener', stops front behind stands.opener]

/-- A line that ends still ends when there is something in front. -/
theorem line_append (stands : StandsInFor behind' behind) {front : List Char}
    (ended : (front ++ behind).head?.all Text.isLineBreak = true) :
    (front ++ behind').head?.all Text.isLineBreak = true := by
  cases front with
  | nil => exact stands.line ended
  | cons c front => exact ended

end StandsInFor

/-- **A line end that may take the place** of what is behind a lexeme. The end of the text is one, and
where it was behind the lexeme, it stays. -/
structure LineEndFor (behind' behind : List Char) : Prop where
  line : behind'.head?.all Text.isLineBreak = true
  atEnd : behind = [] → behind' = []

namespace LineEndFor

variable {behind behind' : List Char}

theorem space (ends : LineEndFor behind' behind) : behind'.head?.all Trivia.isSpace = true := by
  cases behind' with
  | nil => rfl
  | cons c behind' =>
    have line : Text.isLineBreak c = true := by simpa using ends.line
    simp [Trivia.isSpace, line]

theorem opener (ends : LineEndFor behind' behind) : behind'.head?.all Trivia.isOpener = true :=
  Trivia.opener_of_space ends.space

end LineEndFor

/-- The front of a text in two divisions of it, of which the first is no longer. -/
theorem exists_append_of_length_le {front rest text behind : List Char}
    (split : front ++ rest = text ++ behind) (le : front.length ≤ text.length) :
    ∃ more, text = front ++ more ∧ rest = more ++ behind := by
  rcases List.append_eq_append_iff.mp split with h | ⟨more, rfl, rfl⟩
  · exact h
  · rw [List.length_append] at le
    obtain rfl : more = [] := List.length_eq_zero_iff.mp (by omega)
    exact ⟨[], by simp, rfl⟩

namespace Word

theorem isPart_of_isOpener : ∀ c, Trivia.isOpener c = true → isPart c = false :=
  Trivia.apart_of_isOpener (by decide)

theorem bounded_length : Munch.Bounded length := Munch.bounded_run isPart

theorem stopsAt_length : Munch.StopsAt Trivia.isOpener length :=
  Munch.stopsAt_run isPart_of_isOpener

theorem settled_length : Munch.Settled length := Munch.settled_run isPart

end Word

namespace Numeral

open Munch (Bounded StopsAt)

/-! ## Runs of digits -/

section Run

variable {isDigit : Char → Bool}

theorem bounded_runItem : Bounded (runItem isDigit) := by
  intro cs
  cases cs with
  | nil => exact Nat.le_refl 0
  | cons c cs =>
    simp only [runItem, List.length_cons]
    split
    · omega
    · split <;> omega

theorem bounded_run : Bounded (run isDigit) := bounded_runItem.many

theorem stopsAt_run (apart : ∀ c, Trivia.isOpener c = true → isDigit c = false) :
    StopsAt Trivia.isOpener (run isDigit) := by
  refine StopsAt.many bounded_runItem (Munch.stopsAt_of_cons fun cs c rest opener => ?_)
  have digit : isDigit c = false := apart c opener
  have underscore : (c == '_') = false :=
    Trivia.apart_of_isOpener (p := (· == '_')) (by decide) c opener
  match cs with
  | [] => simp [runItem, digit, underscore]
  | [d] => simp [runItem, digit]
  | d :: e :: cs => rfl

end Run

/-! ## Parts of a numeral -/

theorem bounded_fraction (mayFollow isDigit : Char → Bool) : Bounded (fraction mayFollow isDigit) := by
  intro cs
  unfold fraction
  split
  · next cs =>
    have : run isDigit cs ≤ cs.length := bounded_run cs
    simp only [List.length_cons]
    split <;> omega
  · exact Nat.zero_le _

theorem stopsAt_fraction {mayFollow isDigit : Char → Bool}
    (apart : ∀ c, Trivia.isOpener c = true → isDigit c = false)
    (apart' : ∀ c, Trivia.isOpener c = true → mayFollow c = false) :
    StopsAt Trivia.isOpener (fraction mayFollow isDigit) := by
  apply Munch.stopsAt_of_cons
  intro cs c rest opener
  have point : c ≠ '.' := by
    simpa using Trivia.apart_of_isOpener (p := (· == '.')) (by decide) c opener
  match cs with
  | [] =>
    unfold fraction
    split
    · next h => exact absurd (List.cons.inj h).1 point
    · rfl
  | d :: cs =>
    by_cases dot : d = '.'
    · subst dot
      have digits := stopsAt_run apart cs (c :: rest) (by simpa using opener)
      have head : (cs ++ c :: rest).head?.any mayFollow = cs.head?.any mayFollow := by
        cases cs with
        | nil => simp [apart' c opener]
        | cons e cs => rfl
      simp only [fraction, List.cons_append, head, digits]
    · have none : ∀ cs, fraction mayFollow isDigit (d :: cs) = 0 := by
        intro cs
        unfold fraction
        split
        · next h => exact absurd (List.cons.inj h).1 dot
        · rfl
      rw [List.cons_append, none, none]

theorem bounded_sign : Bounded sign := Munch.bounded_one _

theorem stopsAt_sign : StopsAt Trivia.isOpener sign :=
  Munch.stopsAt_one (Trivia.apart_of_isOpener (by decide))

theorem bounded_floatingSuffix : Bounded floatingSuffix := Munch.bounded_one _

theorem stopsAt_floatingSuffix : StopsAt Trivia.isOpener floatingSuffix :=
  Munch.stopsAt_one (Trivia.apart_of_isOpener (by decide))

theorem bounded_wholeSuffix : Bounded wholeSuffix := Munch.bounded_one _

theorem stopsAt_wholeSuffix : StopsAt Trivia.isOpener wholeSuffix :=
  Munch.stopsAt_one (Trivia.apart_of_isOpener (by decide))

theorem isDigit_of_isOpener : ∀ c, Trivia.isOpener c = true → c.isDigit = false :=
  Trivia.apart_of_isOpener (by decide)

theorem isHexDigit_of_isOpener : ∀ c, Trivia.isOpener c = true → Text.isHexDigit c = false :=
  Trivia.apart_of_isOpener (by decide)

private theorem bounded_scaled :
    Bounded (sign.andThen ((run Char.isDigit).andThen floatingSuffix)) :=
  bounded_sign.andThen (bounded_run.andThen bounded_floatingSuffix)

theorem bounded_hexExponent : Bounded hexExponent := by
  intro cs
  cases cs with
  | nil => exact Nat.le_refl 0
  | cons c cs =>
    have := bounded_scaled cs
    simp only [hexExponent, List.length_cons]
    split <;> omega

theorem stopsAt_hexExponent : StopsAt Trivia.isOpener hexExponent := by
  apply Munch.stopsAt_of_cons
  intro cs c rest opener
  cases cs with
  | nil =>
    have marker : (c == 'p' || c == 'P') = false :=
      Trivia.apart_of_isOpener (p := fun c => c == 'p' || c == 'P') (by decide) c opener
    simp only [hexExponent, List.nil_append, marker, Bool.false_eq_true, if_false]
  | cons d cs =>
    have scaled := stopsAt_sign.andThen bounded_sign
      ((stopsAt_run isDigit_of_isOpener).andThen bounded_run stopsAt_floatingSuffix)
    simp only [hexExponent, List.cons_append, scaled cs (c :: rest) (by simpa using opener)]

theorem bounded_decimalExponent : Bounded decimalExponent := by
  intro cs
  cases cs with
  | nil => exact Nat.le_refl 0
  | cons c cs =>
    have signed := bounded_sign cs
    have digits : run Char.isDigit (cs.drop (sign cs)) ≤ (cs.drop (sign cs)).length := bounded_run _
    rw [List.length_drop] at digits
    simp only [decimalExponent, List.length_cons]
    split
    · split
      · exact Nat.zero_le _
      · omega
    · exact Nat.zero_le _

theorem stopsAt_decimalExponent : StopsAt Trivia.isOpener decimalExponent := by
  apply Munch.stopsAt_of_cons
  intro cs c rest opener
  have edge : (c :: rest).head?.all Trivia.isOpener = true := by simpa using opener
  cases cs with
  | nil =>
    have marker : (c == 'e' || c == 'E') = false :=
      Trivia.apart_of_isOpener (p := fun c => c == 'e' || c == 'E') (by decide) c opener
    simp only [decimalExponent, List.nil_append, marker, Bool.false_eq_true, if_false]
  | cons d cs =>
    simp only [decimalExponent, List.cons_append]
    rw [stopsAt_sign cs _ edge, List.drop_append_of_le_length (bounded_sign cs),
      stopsAt_run isDigit_of_isOpener _ _ edge]

/-! ## Numerals -/

private theorem bounded_hexRest : Bounded hexRest :=
  bounded_run.andThen ((bounded_fraction _ _).andThen
    (bounded_hexExponent.orElse bounded_wholeSuffix))

private theorem stopsAt_hexRest : StopsAt Trivia.isOpener hexRest := by
  have digits := stopsAt_run isHexDigit_of_isOpener
  have point : StopsAt Trivia.isOpener
      (fraction (fun c => Text.isHexDigit c || c == '_') Text.isHexDigit) :=
    stopsAt_fraction isHexDigit_of_isOpener (Trivia.apart_of_isOpener (by decide))
  exact digits.andThen bounded_run (point.andThen (bounded_fraction _ _)
    (stopsAt_hexExponent.orElse stopsAt_wholeSuffix))

private theorem bounded_binaryRest : Bounded binaryRest := bounded_run.andThen bounded_wholeSuffix

private theorem stopsAt_binaryRest : StopsAt Trivia.isOpener binaryRest :=
  (stopsAt_run (Trivia.apart_of_isOpener (by decide))).andThen bounded_run stopsAt_wholeSuffix

theorem bounded_decimal : Bounded decimal :=
  bounded_run.andThen ((bounded_fraction _ _).andThen
    (bounded_decimalExponent.andThen (bounded_floatingSuffix.orElse bounded_wholeSuffix)))

theorem stopsAt_decimal : StopsAt Trivia.isOpener decimal := by
  have point := stopsAt_fraction isDigit_of_isOpener isDigit_of_isOpener
  exact (stopsAt_run isDigit_of_isOpener).andThen bounded_run
    (point.andThen (bounded_fraction _ _)
      (stopsAt_decimalExponent.andThen bounded_decimalExponent
        (stopsAt_floatingSuffix.orElse stopsAt_wholeSuffix)))

theorem bounded_length : Bounded length := by
  intro cs
  unfold length
  split
  · next c cs =>
    have hex := bounded_hexRest cs
    have binary := bounded_binaryRest cs
    have other := bounded_decimal ('0' :: c :: cs)
    simp only [List.length_cons] at other ⊢
    split
    · omega
    · split <;> omega
  · exact bounded_decimal _

theorem length_of_ne_zero {d : Char} (cs : List Char) (first : d ≠ '0') :
    length (d :: cs) = decimal (d :: cs) := by
  unfold length
  split
  · next h => exact absurd (List.cons.inj h).1 first
  · rfl

/-- **A numeral ends where trivia begins**, whatever the trivia and what is behind it. -/
theorem stopsAt_length : StopsAt Trivia.isOpener length := by
  apply Munch.stopsAt_of_cons
  intro cs c rest opener
  have edge : (c :: rest).head?.all Trivia.isOpener = true := by simpa using opener
  have plain := stopsAt_decimal cs (c :: rest) edge
  cases cs with
  | nil =>
    have zero : c ≠ '0' := by
      simpa using Trivia.apart_of_isOpener (p := (· == '0')) (by decide) c opener
    rw [List.nil_append, length_of_ne_zero rest zero]
    exact plain
  | cons d cs =>
    by_cases first : d = '0'
    · subst first
      cases cs with
      | nil =>
        -- the prefix of a radix is no opener, so a lone zero stays decimal
        have hex : (c == 'x' || c == 'X') = false :=
          Trivia.apart_of_isOpener (p := fun c => c == 'x' || c == 'X') (by decide) c opener
        have binary : (c == 'b' || c == 'B') = false :=
          Trivia.apart_of_isOpener (p := fun c => c == 'b' || c == 'B') (by decide) c opener
        simp only [List.cons_append, List.nil_append] at plain
        simp [length, hex, binary, plain]
      | cons e cs =>
        simp only [List.cons_append] at plain
        simp only [List.cons_append, length, plain, stopsAt_hexRest cs _ edge,
          stopsAt_binaryRest cs _ edge]
    · rw [List.cons_append, length_of_ne_zero _ first, length_of_ne_zero _ first]
      exact plain

end Numeral

end Lexis
