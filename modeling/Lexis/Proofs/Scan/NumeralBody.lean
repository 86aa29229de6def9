import Lexis.LiteralType
import Lexis.Proofs.Scan.Peel

/-!
# The bodies of numerals as languages

To infer the type of a literal, a numeral is read as a body and a suffix. There are three bodies: a
hexadecimal one with an exponent, one in another base without an exponent, and a decimal one. Each is a
product of parts that are single marks, rows of digits and underscores, or absent.

The checks go through a body from left to right: they are the steps that peel it (`peels_hexFloating`,
`peels_hexFront`, `peels_decimal`). A digit of base sixteen may also be the mark of a suffix or of an
exponent of ten, so what a step would take is told for each body on its own.
-/

set_option autoImplicit false

namespace Lexis.LiteralType

open Peel
open scoped Computability

/-! ## Languages -/

/-- A point, and any number of characters of a class. -/
def fraction (isPart : Char → Bool) : Language Char := oneOf ['.'] * (ofClass isPart)∗

/-- The front of a numeral in a base that one of the given letters names. -/
def hexFront (letters : List Char) : Language Char :=
  oneOf ['0'] * (oneOf letters * ((ofClass isHexPart)∗ * (1 + fraction isHexPart)))

/-- An exponent of two, which may have no digits. -/
def binaryExponent : Language Char :=
  oneOf ['p', 'P'] * ((1 + oneOf ['+', '-']) * (ofClass isDecimalPart)∗)

/-- A hexadecimal numeral with an exponent, without its suffix. -/
def hexFloating : Language Char := hexFront ['x', 'X'] * binaryExponent

/-- A hexadecimal or binary numeral without an exponent and without its suffix. -/
def radix : Language Char := hexFront ['x', 'X', 'b', 'B']

/-- The digits in front of a decimal numeral. -/
def digits : Language Char := ofClass Char.isDigit * (ofClass isDecimalPart)∗

/-- An exponent of ten, which has at least one digit or underscore. -/
def exponent : Language Char :=
  oneOf ['e', 'E'] * ((1 + oneOf ['+', '-']) * (ofClass isDecimalPart * (ofClass isDecimalPart)∗))

/-- A decimal numeral without its suffix. -/
def decimal : Language Char := digits * ((1 + fraction isDecimalPart) * (1 + exponent))

/-! ## Marks apart -/

section Marks

variable {marks : List Char} {p : Char → Bool}

theorem eq_false_of_apart (apart : marks.any p = false) {m : Char} (member : m ∈ marks) :
    p m = false := by
  simpa using List.any_eq_false.mp apart m member

theorem mem_of_beq_or {a b c : Char} (either : (c == a || c == b) = true) : c ∈ [a, b] := by
  simpa using either

theorem ne_of_isDigit {c d : Char} (digit : c.isDigit = true) (none : d.isDigit = false) : c ≠ d := by
  rintro rfl
  rw [digit] at none
  cases none

theorem fails_of_mark (apart : marks.any p = false) (c : Char) (mark : marks.contains c = true) :
    p c = false :=
  eq_false_of_apart apart (List.contains_iff_mem.mp mark)

theorem not_mark_of_holds (apart : marks.any p = false) (c : Char) (holds : p c = true) :
    marks.contains c = false := by
  by_contra mark
  rw [fails_of_mark apart c (by simpa using mark)] at holds
  cases holds

/-- A part that begins with a mark of its own, and may be absent. -/
theorem apart_optional (part : Language Char) (apart : marks.any p = false) :
    Apart p (1 + oneOf marks * part) :=
  apart_one.add ((leads_ofClass _).mul.apart (fails_of_mark apart))

theorem apart_suffix (apart : marks.any p = false) : Apart p (1 + oneOf marks) :=
  apart_one.add ((leads_ofClass _).apart (fails_of_mark apart))

end Marks

/-! ## Steps over the bodies -/

theorem peels_fraction (isPart : Char → Bool) :
    Peels (fun c => isPart c || ['.'].contains c) (1 + fraction isPart)
      (fun cs => some (afterFraction isPart cs)) := by
  refine (((peels_run isPart).cons).optional (leads_ofClass ['.'].contains).mul).congr
    (fun _ stop => stop) fun cs => ?_
  unfold afterFraction
  split
  · rfl
  · next other =>
    cases cs with
    | nil => rfl
    | cons c cs =>
      have mark : c ≠ '.' := fun h => other cs (by rw [h])
      simp [Peel.optional, andThen, one, mark]

theorem peels_sign :
    Peels ['+', '-'].contains (1 + oneOf ['+', '-']) (fun cs => some (afterSign cs)) := by
  refine ((peels_one ['+', '-'].contains).optional (leads_ofClass _)).congr (fun _ stop => stop)
    fun cs => ?_
  cases cs with
  | nil => rfl
  | cons c cs =>
    simp only [afterSign, Peel.optional, one, List.contains_cons, List.contains_nil, Bool.or_false]
    split <;> rfl

/-- The steps over the front of a numeral in another base. -/
def hexFront? (letters : List Char) : List Char → Option (List Char) :=
  andThen (one ['0'].contains) (andThen (one letters.contains)
    (andThen (run isHexPart) (fun cs => some (afterFraction isHexPart cs))))

/-- The steps over an exponent of two. -/
def binaryExponent? : List Char → Option (List Char) :=
  andThen (one ['p', 'P'].contains) (andThen (fun cs => some (afterSign cs)) (run isDecimalPart))

/-- The steps over the first digits of a decimal numeral. -/
def digits? : List Char → Option (List Char) := andThen (one Char.isDigit) (run isDecimalPart)

/-- The steps over a fraction and an exponent, either of which may be absent. -/
def brokenPart? : List Char → Option (List Char) :=
  andThen (fun cs => some (afterFraction isDecimalPart cs)) (Peel.optional afterExponent?)

theorem peels_hexFront (letters : List Char) :
    Peels (fun c => isHexPart c || ['.'].contains c) (hexFront letters) (hexFront? letters) := by
  refine ((peels_run isHexPart).andThen_of_covers (peels_fraction isHexPart) ?_ ?_).cons.cons
  · exact apart_optional _ (by decide)
  · exact fun _ _ stop => (Bool.or_eq_false_iff.mp stop).1

theorem peels_binaryExponent :
    Peels (fun c => ['+', '-'].contains c || isDecimalPart c) binaryExponent binaryExponent? :=
  (peels_sign.andThen (peels_run isDecimalPart) (apart_kstar (not_mark_of_holds (by decide)))).cons

theorem peels_hexFloating :
    Peels (fun c => ['+', '-'].contains c || isDecimalPart c) hexFloating
      (andThen (hexFront? ['x', 'X']) binaryExponent?) :=
  (peels_hexFront _).andThen_of_leads peels_binaryExponent (leads_ofClass _).mul
    (fails_of_mark (by decide))

theorem peels_digits : Peels isDecimalPart digits digits? := (peels_run isDecimalPart).cons

theorem peels_exponent : Peels isDecimalPart exponent afterExponent? := by
  refine (peels_sign.andThen_of_leads (peels_run isDecimalPart).cons (leads_ofClass _).mul
    (not_mark_of_holds (by decide))).cons.congr (fun _ stop => stop) fun cs => ?_
  unfold afterExponent?
  split
  · next e cs =>
    simp only [andThen, one, List.contains_cons, List.contains_nil, Bool.or_false]
    split
    · show _ = andThen (one isDecimalPart) (run isDecimalPart) (afterSign cs)
      cases afterSign cs with
      | nil => rfl
      | cons d cs =>
        simp only [andThen, one, run]
        split <;> rfl
    · rfl
  · rfl

theorem peels_brokenPart :
    Peels (fun c => (isDecimalPart c || ['.'].contains c) || (isDecimalPart c || ['e', 'E'].contains c))
      ((1 + fraction isDecimalPart) * (1 + exponent)) brokenPart? :=
  (peels_fraction isDecimalPart).andThen (peels_exponent.optional (leads_ofClass _).mul)
    (apart_optional _ (by decide))

theorem apart_brokenPart : Apart isDecimalPart ((1 + fraction isDecimalPart) * (1 + exponent)) :=
  (apart_optional _ (by decide)).mul (apart_optional _ (by decide))

theorem peels_decimal :
    Peels (fun c => (isDecimalPart c || ['.'].contains c) || (isDecimalPart c || ['e', 'E'].contains c))
      decimal (andThen digits? brokenPart?) :=
  peels_digits.andThen_of_covers peels_brokenPart apart_brokenPart fun _ _ stop =>
    (Bool.or_eq_false_iff.mp (Bool.or_eq_false_iff.mp stop).1).1

/-! ## The front of a numeral in another base -/

section HexFront

variable {letters letters' cs rest : List Char}

theorem hexFront?_cons (letters : List Char) (x : Char) (cs : List Char) :
    hexFront? letters ('0' :: x :: cs) =
      if letters.contains x then some (afterFraction isHexPart (cs.dropWhile isHexPart)) else none := by
  simp only [hexFront?, andThen, one, List.contains_cons, beq_self_eq_true, Bool.true_or, if_true,
    Option.bind_some]
  split <;> rfl

theorem exists_of_hexFront? (found : hexFront? letters cs = some rest) :
    ∃ x ∈ letters, ∃ left, cs = '0' :: x :: left := by
  obtain ⟨_, whole, rfl⟩ := (peels_hexFront letters).sound cs rest found
  obtain ⟨_, ⟨c, zero, rfl⟩, _, behind, rfl⟩ := Language.mem_mul.mp whole
  obtain ⟨_, ⟨x, letter, rfl⟩, left, -, rfl⟩ := Language.mem_mul.mp behind
  exact ⟨x, List.contains_iff_mem.mp letter, left ++ rest, by simpa using zero⟩

theorem hexFront?_mono (fewer : letters ⊆ letters')
    (found : hexFront? letters cs = some rest) : hexFront? letters' cs = some rest := by
  obtain ⟨x, letter, left, rfl⟩ := exists_of_hexFront? found
  rw [hexFront?_cons, if_pos (by simpa using letter)] at found
  rw [hexFront?_cons, if_pos (by simpa using fewer letter), found]

theorem hexFront?_eq_none (other : ∀ x left, cs = '0' :: x :: left → False) :
    hexFront? letters cs = none := by
  cases found : hexFront? letters cs with
  | none => rfl
  | some rest =>
    obtain ⟨x, -, left, split⟩ := exists_of_hexFront? found
    exact (other x left split).elim

end HexFront

end Lexis.LiteralType
