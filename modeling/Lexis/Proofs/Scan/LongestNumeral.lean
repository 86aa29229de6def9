import Lexis.Proofs.Scan.Lexeme
import Lexis.Proofs.Scan.LiteralType

/-!
# Numerals by the longest match

The language has decimal, binary and hexadecimal numerals (`Proper`). The scan goes through a text part by
part and never looks for a longest match, but what it takes is the longest numeral at the front of the text
(`first?_numeral`): each part is greedy, and what may follow a part begins with no character that the part
could have gone on with.

There is one exception. A hexadecimal point is taken with the run behind it as soon as an underscore
follows, and where no digit follows the underscore the run is empty. Such a text dangles (`DanglesBehind`),
and the scan ends behind the point.
-/

set_option autoImplicit false

namespace Lexis

namespace Numeral

open Munch (AtMostOne Bounded GreedyOn Longest Then)
open LiteralType (eq_false_of_apart mem_of_beq_or)

/-! ## The grammar -/

/-- A run of digits that is not empty. -/
def SomeRun (isDigit : Char → Bool) (cs : List Char) : Prop := Run isDigit cs ∧ cs ≠ []

/-- A run of digits that begins with a digit. -/
def LedRun (isDigit : Char → Bool) (cs : List Char) : Prop :=
  Run isDigit cs ∧ cs.head?.any isDigit = true

/-- A point and the digits behind it, or neither. -/
inductive Pointed (Digits : List Char → Prop) : List Char → Prop
  | absent : Pointed Digits []
  | present {digits : List Char} : Digits digits → Pointed Digits ('.' :: digits)

/-- The mark of a decimal numeral's type. -/
def isDecimalMark (c : Char) : Bool := isFloatingMark c || isLongMark c

/-- A decimal numeral, part by part. -/
def DecimalNumeral : List Char → Prop :=
  Then (LedRun Char.isDigit) (Then (Pointed (LedRun Char.isDigit))
    (Then DecimalExponent (AtMostOne isDecimalMark)))

/-- A hexadecimal numeral behind its prefix, part by part. -/
def HexNumeral : List Char → Prop :=
  Then (Run Text.isHexDigit) (Then (Pointed (SomeRun Text.isHexDigit)) HexEnd)

/-- **A numeral of the language.** Digits may be missing behind the prefix of a radix and in a
hexadecimal exponent, and nowhere else. -/
inductive Proper : List Char → Prop
  | decimal {cs : List Char} : DecimalNumeral cs → Proper cs
  | binary {b : Char} {cs : List Char} :
      (b == 'b' || b == 'B') = true → BinaryForm cs → Proper ('0' :: b :: cs)
  | hex {x : Char} {cs : List Char} :
      (x == 'x' || x == 'X') = true → HexNumeral cs → Proper ('0' :: x :: cs)

/-- The front of a hexadecimal numeral as far as its point. -/
inductive HexPoint : List Char → Prop
  | intro {x : Char} {digits : List Char} :
      (x == 'x' || x == 'X') = true → Run Text.isHexDigit digits →
      HexPoint ('0' :: x :: (digits ++ ['.']))

/-- **A text dangles behind a hexadecimal point** when an underscore follows that is in front of no
digit. -/
def DanglesBehind (front cs : List Char) : Prop :=
  HexPoint front ∧ ∃ behind, cs = front ++ '_' :: behind ∧ behind.head?.any Text.isHexDigit = false

/-- **What the front of a text is taken for as a numeral**: the longest numeral there, and what stands
in front of the underscore where the text dangles. -/
structure ReadsNumeral (cs taken : List Char) : Prop where
  longest : (∀ front, ¬ DanglesBehind front cs) → Longest Proper cs taken
  dangling : ∀ front, DanglesBehind front cs → taken = front

/-! ## Greedy parts -/

section Run

variable {isDigit : Char → Bool}

/-- The scan goes on behind a run of digits as it would begin there. -/
theorem run_append {front : List Char} (run' : Run isDigit front) (rest : List Char) :
    run isDigit (front ++ rest) = front.length + run isDigit rest := by
  induction run' with
  | nil => simp
  | @digit c cs digit _ ih =>
    rw [List.cons_append, run_cons, if_pos (.inl digit), ih, List.length_cons]
    omega
  | @underscore c cs digit _ ih =>
    rw [List.cons_append, run_cons, if_pos (.inr ⟨rfl, by simpa using digit⟩), ih]
    simp only [List.length_cons]
    omega

/-- A part that is as long as what is taken, up to a run behind it, is at the end or the run goes on. -/
theorem reach_of_run {inside : Char → Bool}
    (parts : ∀ c, (isDigit c || c == '_') = true → inside c = true) {n taken : Nat}
    {rest : List Char} (size : taken = n + run isDigit rest) :
    n = taken ∨ n < taken ∧ rest.head?.any inside = true := by
  cases rest with
  | nil => exact .inl (by rw [size, run_nil, Nat.add_zero])
  | cons c rest =>
    rw [run_cons] at size
    split at size
    · next begins =>
      refine .inr ⟨by omega, parts c ?_⟩
      rcases begins with digit | ⟨rfl, -⟩
      · simp [digit]
      · simp
    · exact .inl size.symm

theorem greedyOn_run (cs : List Char) :
    GreedyOn (fun c => isDigit c || c == '_') (run isDigit) (Run isDigit) cs where
  member := takes_run cs
  reach := by
    rintro front rest rfl run'
    exact reach_of_run (fun _ part => part) (run_append run' rest)

/-- In front of a digit the scan takes a run that begins with it. -/
theorem greedyOn_ledRun {c : Char} (cs : List Char) (digit : isDigit c = true) :
    GreedyOn (fun c => isDigit c || c == '_') (run isDigit) (LedRun isDigit) (c :: cs) where
  member := by
    refine ⟨takes_run _, ?_⟩
    rw [run_cons, if_pos (.inl digit), List.take_succ_cons]
    simpa using digit
  reach front rest split led := (greedyOn_run _).reach front rest split led.1

end Run

/-- A point and the digits behind it are greedy, unless the point is taken with no digits. -/
theorem greedyOn_fraction {mayFollow isDigit : Char → Bool} {Digits : List Char → Prop}
    (digits_iff : ∀ cs, Digits cs ↔ Run isDigit cs ∧ cs.head?.any mayFollow = true) {cs : List Char}
    (filled : ∀ rest, cs = '.' :: rest → rest.head?.any mayFollow = true → 0 < run isDigit rest) :
    GreedyOn (fun c => isDigit c || c == '_' || c == '.') (fraction mayFollow isDigit)
      (Pointed Digits) cs where
  member := by
    by_cases point : cs.head? = some '.'
    · obtain ⟨rest, rfl⟩ := List.head?_eq_some_iff.mp point
      rw [fraction_point]
      split
      · next follows =>
        have pos := filled rest rfl follows
        have digits : Run isDigit (rest.take (run isDigit rest)) := takes_run rest
        rw [Nat.add_comm, List.take_succ_cons]
        refine .present ((digits_iff _).mpr ⟨digits, ?_⟩)
        rwa [List.head?_take, if_neg (Nat.ne_of_gt pos)]
      · exact .absent
    · rw [fraction_of_ne point]
      exact .absent
  reach := by
    rintro front behind rfl part
    cases part with
    | absent =>
      by_cases point : behind.head? = some '.'
      · obtain ⟨rest, rfl⟩ := List.head?_eq_some_iff.mp point
        rw [List.nil_append, fraction_point]
        split
        · exact .inr ⟨by rw [List.length_nil]; omega, by simp⟩
        · exact .inl rfl
      · exact .inl (fraction_of_ne point).symm
    | @present digits part =>
      obtain ⟨run', first⟩ := (digits_iff _).mp part
      have follows : (digits ++ behind).head?.any mayFollow = true := by
        cases digits with
        | nil => cases first
        | cons c digits => exact first
      have size : 1 + (digits.length + run isDigit behind) =
          ('.' :: digits).length + run isDigit behind := by
        rw [List.length_cons]
        omega
      rw [List.cons_append, fraction_point, if_pos follows, run_append run']
      exact reach_of_run (fun c part => by simp [part]) size

/-- In front of a run of digits the sign is what stands there. -/
theorem sign_append {signed digits : List Char} (sign' : AtMostOne isSign signed)
    (digits' : SomeRun Char.isDigit digits) (rest : List Char) :
    sign (signed ++ (digits ++ rest)) = signed.length := by
  cases sign' with
  | one mark =>
    simp only [isSign] at mark
    simp [sign, Munch.one, mark]
  | none =>
    obtain ⟨run', more⟩ := digits'
    obtain ⟨c, digits, rfl⟩ := List.exists_cons_of_ne_nil more
    have nothing : ∀ d ∈ ([] : List Char).head?, isSign d = false := by simp
    have other : isSign c = false := no_sign run' nothing c rfl
    simp only [isSign] at other
    simp [sign, Munch.one, other]

/-- An exponent is taken with the digits behind its sign, if there are any. -/
theorem decimalExponent_marker {e : Char} (marker : (e == 'e' || e == 'E') = true)
    (cs : List Char) :
    decimalExponent (e :: cs) =
      if 0 < run Char.isDigit (cs.drop (sign cs)) then
        1 + sign cs + run Char.isDigit (cs.drop (sign cs))
      else 0 := by
  simp only [decimalExponent, marker, if_true]
  cases run Char.isDigit (cs.drop (sign cs)) with
  | zero => rfl
  | succ n => rfl

/-- The exponent of a decimal numeral is greedy. -/
theorem greedyOn_decimalExponent (cs : List Char) :
    GreedyOn (fun c => c.isDigit || ['_', '+', '-', 'e', 'E'].contains c) decimalExponent
      DecimalExponent cs where
  member := takes_decimalExponent cs
  reach := by
    rintro front behind rfl part
    cases part with
    | absent =>
      match behind with
      | [] => exact .inl rfl
      | e :: behind =>
        by_cases marker : (e == 'e' || e == 'E') = true
        · have inside : ['_', '+', '-', 'e', 'E'].contains e = true := by
            rcases Bool.or_eq_true_iff.mp marker with h | h <;> rw [beq_iff_eq.mp h] <;> rfl
          rw [List.nil_append, decimalExponent_marker marker]
          split
          · exact .inr ⟨by rw [List.length_nil]; omega, by simpa using Or.inr inside⟩
          · exact .inl rfl
        · simp only [List.nil_append, decimalExponent, if_neg marker]
          exact .inl rfl
    | @present e signed digits marker sign' run' more =>
      have some : 0 < digits.length := List.length_pos_iff.mpr more
      have taken : decimalExponent (e :: (signed ++ (digits ++ behind))) =
          1 + signed.length + (digits.length + run Char.isDigit behind) := by
        rw [decimalExponent_marker marker, sign_append sign' ⟨run', more⟩, List.drop_left,
          run_append run', if_pos (by omega)]
      have size : 1 + signed.length + (digits.length + run Char.isDigit behind) =
          (e :: (signed ++ digits)).length + run Char.isDigit behind := by
        simp only [List.length_cons, List.length_append]
        omega
      rw [List.cons_append, List.append_assoc, taken]
      refine reach_of_run (fun c part => ?_) size
      simp only [Bool.or_eq_true, beq_iff_eq] at part ⊢
      exact part.imp_right fun h => by simp [h]

private theorem greedyOn_scaled (cs : List Char) :
    GreedyOn (fun c => isSign c || (c.isDigit || c == '_' || isFloatingMark c))
      (sign.andThen ((run Char.isDigit).andThen floatingSuffix))
      (Then (AtMostOne isSign) (Then (Run Char.isDigit) (AtMostOne isFloatingMark))) cs := by
  refine (Munch.greedyOn_one isSign cs).andThen ((greedyOn_run _).andThen
    (Munch.greedyOn_one isFloatingMark _) fun back mark => ?_) ?_
  · exact (begins_floating mark).apart (by decide)
  · rintro _ ⟨digits, mark, rfl, run', mark'⟩
    exact no_sign run' ((begins_floating mark').apart (by decide))

/-- The end of a hexadecimal numeral is the longest there is. -/
theorem greedyOn_hexEnd (cs : List Char) :
    GreedyOn (fun _ => true) (hexExponent.orElse wholeSuffix) HexEnd cs := by
  refine Munch.greedyOn_of_le (bounded_hexExponent.orElse bounded_wholeSuffix) (takes_hexEnd cs) ?_
  rintro front behind rfl part
  cases part with
  | @exponent p signed digits mark marker sign' run' mark' =>
    have scaled := (greedyOn_scaled (signed ++ (digits ++ mark) ++ behind)).le rfl
      ⟨signed, _, rfl, sign', digits, mark, rfl, run', mark'⟩
    have taken : hexExponent (p :: (signed ++ (digits ++ mark) ++ behind)) =
        (sign.andThen ((run Char.isDigit).andThen floatingSuffix))
          (signed ++ (digits ++ mark) ++ behind) + 1 := by
      rw [hexExponent, if_pos marker, Nat.add_comm]
    rw [List.cons_append]
    simp only [Munch.orElse, taken, List.length_cons]
    omega
  | whole mark =>
    cases mark with
    | none => exact Nat.zero_le _
    | @one c long =>
      have other : (c == 'p' || c == 'P') = false :=
        eq_false_of_apart (p := fun c => c == 'p' || c == 'P') (by decide) (mem_of_beq_or long)
      simp only [isLongMark] at long
      simp [Munch.orElse, hexExponent, other, wholeSuffix, Munch.one, long]

/-! ## Numerals -/

theorem begins_pointed {Digits : List Char → Prop} {marks fraction rest : List Char}
    (point : Pointed Digits fraction) (begins : Begins marks rest) :
    Begins ('.' :: marks) (fraction ++ rest) := by
  cases point with
  | absent => exact fun c first => List.mem_cons_of_mem _ (begins c first)
  | present => simp [Begins]

private theorem greedyOn_decimalMark (cs : List Char) :
    GreedyOn isDecimalMark (floatingSuffix.orElse wholeSuffix) (AtMostOne isDecimalMark) cs := by
  have either : floatingSuffix.orElse wholeSuffix = Munch.one isDecimalMark :=
    Munch.orElse_one isFloatingMark isLongMark
  rw [either]
  exact Munch.greedyOn_one _ cs

/-- In front of a digit the scan takes the longest decimal numeral. -/
theorem greedyOn_decimal {c : Char} (cs : List Char) (digit : c.isDigit = true) :
    ∃ inside, GreedyOn inside decimal DecimalNumeral (c :: cs) := by
  refine ⟨_, (greedyOn_ledRun cs digit).andThen ((greedyOn_fraction (fun _ => Iff.rfl) ?_).andThen
    ((greedyOn_decimalExponent _).andThen (greedyOn_decimalMark _) ?_) ?_) ?_⟩
  · exact fun rest _ follows => run_pos_of_head follows
  · exact fun mark mark' => (begins_decimal mark').apart (by decide)
  · rintro _ ⟨exponent, mark, rfl, exponent', mark'⟩
    exact (exponent'.begins (begins_decimal mark')).apart (by decide)
  · rintro _ ⟨fraction, _, rfl, fraction', exponent, mark, rfl, exponent', mark'⟩
    exact (begins_pointed fraction' (exponent'.begins (begins_decimal mark'))).apart (by decide)

theorem greedyOn_binary (cs : List Char) :
    ∃ inside, GreedyOn inside binaryRest BinaryForm cs := by
  refine ⟨_, (greedyOn_run cs).andThen (Munch.greedyOn_one isLongMark _) ?_⟩
  exact fun mark mark' => (begins_long mark').apart (by decide)

/-- A run of digits begins with a character that may follow a hexadecimal point. -/
theorem someRun_iff {cs : List Char} :
    SomeRun Text.isHexDigit cs ↔ Run Text.isHexDigit cs ∧ cs.head?.any mayFollowHexPoint = true := by
  refine and_congr_right fun run' => ?_
  cases cs with
  | nil => simp
  | cons c cs =>
    have first : mayFollowHexPoint c = true := run'.all c (List.mem_cons_self ..)
    simp [first]

/-- Where a character may follow a hexadecimal point but no run begins, it is an underscore in front of no
digit. -/
theorem underscore_of_run_eq_zero {c : Char} {cs : List Char} (follows : mayFollowHexPoint c = true)
    (none : run Text.isHexDigit (c :: cs) = 0) : c = '_' ∧ cs.head?.any Text.isHexDigit = false := by
  have stop : ¬ (Text.isHexDigit c = true ∨ c = '_' ∧ cs.head?.any Text.isHexDigit = true) := by
    intro begins
    rw [run_cons, if_pos begins] at none
    cases none
  have underscore : c = '_' := by
    rw [mayFollowHexPoint, Bool.or_eq_true, beq_iff_eq] at follows
    exact follows.resolve_left fun digit => stop (.inl digit)
  exact ⟨underscore, by simpa using fun digit => stop (.inr ⟨underscore, digit⟩)⟩

/-- Behind the prefix of a radix the scan takes the longest hexadecimal numeral, unless the text dangles. -/
theorem greedyOn_hex {x : Char} {cs : List Char} (letter : (x == 'x' || x == 'X') = true)
    (firm : ∀ front, ¬ DanglesBehind front ('0' :: x :: cs)) :
    ∃ inside, GreedyOn inside hexRest HexNumeral cs := by
  refine ⟨_, (greedyOn_run cs).andThen ((greedyOn_fraction (fun _ => someRun_iff) ?_).andThen
    (greedyOn_hexEnd _) ?_) ?_⟩
  · intro rest behind follows
    by_contra nothing
    cases rest with
    | nil => cases follows
    | cons c rest =>
      obtain ⟨rfl, free⟩ :=
        underscore_of_run_eq_zero (by simpa using follows) (Nat.eq_zero_of_not_pos nothing)
      refine firm _ ⟨.intro letter (takes_run cs), rest, ?_, free⟩
      simp [← behind]
  · exact fun tail tail' => tail'.begins.apart (by decide)
  · rintro _ ⟨fraction, tail, rfl, fraction', tail'⟩
    exact (begins_pointed fraction' tail'.begins).apart (by decide)

/-- A text that dangles is taken as far as its point. -/
theorem length_of_dangles {front cs : List Char} (dangles : DanglesBehind front cs) :
    length cs = front.length := by
  obtain ⟨@⟨x, digits, letter, run'⟩, behind, rfl, free⟩ := dangles
  have none : run Text.isHexDigit ('_' :: behind) = 0 := by
    rw [run_cons, if_neg]
    rintro (digit | ⟨-, digit⟩)
    · cases digit
    · rw [free] at digit
      cases digit
  have whole : run Text.isHexDigit (digits ++ '.' :: '_' :: behind) = digits.length := by
    rw [run_append run', run_cons, if_neg (by rintro (h | ⟨h, -⟩) <;> cases h), Nat.add_zero]
  have point : fraction (fun c => Text.isHexDigit c || c == '_') Text.isHexDigit
      ('.' :: '_' :: behind) = 1 := by
    rw [fraction_point, if_pos (by rfl), none]
  have tail : (hexExponent.orElse wholeSuffix) ('_' :: behind) = 0 := rfl
  have taken : hexRest (digits ++ '.' :: '_' :: behind) = digits.length + 1 := by
    simp only [hexRest, Munch.andThen, whole, List.drop_left, point, List.drop_one, List.tail_cons,
      tail, Nat.add_zero]
  have text : '0' :: x :: (digits ++ ['.']) ++ '_' :: behind =
      '0' :: x :: (digits ++ '.' :: '_' :: behind) := by
    simp
  rw [text, length_zero, if_pos letter, taken]
  simp only [List.length_cons, List.length_append, List.length_nil]
  omega

example : length ['0', 'x', '1', '.', '_', 'g'] = 4 := by decide +kernel

/-- A decimal numeral ends in front of the letter of a radix. -/
theorem decimal_letter {x : Char} (cs : List Char) (letter : x ∈ ['x', 'X', 'b', 'B']) :
    decimal ('0' :: x :: cs) = 1 := by
  have other : run Char.isDigit (x :: cs) = 0 := by
    rw [run_cons, if_neg]
    simp only [List.mem_cons, List.not_mem_nil, or_false] at letter
    rcases letter with rfl | rfl | rfl | rfl <;> simp
  have whole : run Char.isDigit ('0' :: x :: cs) = 1 := by
    rw [run_cons, if_pos (.inl rfl), other]
  simp only [decimal, Munch.andThen, whole, List.drop_one, List.tail_cons]
  simp only [List.mem_cons, List.not_mem_nil, or_false] at letter
  rcases letter with rfl | rfl | rfl | rfl <;> rfl

/-- A numeral at the front of a text is no longer than the decimal one, or has the prefix of a radix. -/
theorem Proper.le_decimal_or {c : Char} {cs front : List Char} (proper : Proper front)
    (digit : c.isDigit = true) (begins : front <+: c :: cs) :
    front.length ≤ Numeral.decimal (c :: cs) ∨
      ∃ x behind tail, c :: cs = '0' :: x :: behind ∧ front = '0' :: x :: tail ∧ tail <+: behind ∧
        ((x == 'b' || x == 'B') = true ∧ BinaryForm tail ∨
          (x == 'x' || x == 'X') = true ∧ HexNumeral tail) := by
  obtain ⟨rest, split⟩ := begins
  cases proper with
  | decimal form =>
    obtain ⟨_, greedy⟩ := greedyOn_decimal cs digit
    exact .inl (greedy.le split.symm form)
  | @binary b tail letter form =>
    exact .inr ⟨b, tail ++ rest, tail, split.symm, rfl, List.prefix_append _ _, .inl ⟨letter, form⟩⟩
  | @hex x tail letter form =>
    exact .inr ⟨x, tail ++ rest, tail, split.symm, rfl, List.prefix_append _ _, .inr ⟨letter, form⟩⟩

/-- Behind the prefix of a radix the longest numeral is the longest of the forms of that radix. -/
private theorem longest_radix {x : Char} {cs : List Char} {inside : Char → Bool} {m : Munch}
    {Form : List Char → Prop} (letter : x ∈ ['x', 'X', 'b', 'B']) (greedy : GreedyOn inside m Form cs)
    (proper : ∀ tail, Form tail → Proper ('0' :: x :: tail))
    (forms : ∀ tail, (x == 'b' || x == 'B') = true ∧ BinaryForm tail ∨
      (x == 'x' || x == 'X') = true ∧ HexNumeral tail → Form tail) :
    Longest Proper ('0' :: x :: cs) (('0' :: x :: cs).take (2 + m cs)) := by
  have front : ('0' :: x :: cs).take (2 + m cs) = '0' :: x :: cs.take (m cs) := by
    rw [Nat.add_comm, List.take_succ_cons, List.take_succ_cons]
  refine ⟨front ▸ proper _ greedy.member, List.take_prefix _ _, fun other proper' begins => ?_⟩
  rw [front, List.length_cons, List.length_cons]
  rcases proper'.le_decimal_or rfl begins with short | ⟨_, behind, tail, same, rfl, begins', form⟩
  · rw [decimal_letter cs letter] at short
    omega
  · obtain ⟨rfl, rfl⟩ := List.cons.inj (List.cons.inj same).2
    obtain ⟨rest, split⟩ := begins'
    have whole := greedy.le split.symm (forms tail form)
    have inside' : tail.length ≤ cs.length := by rw [← split, List.length_append]; omega
    simp only [List.length_cons, List.length_take]
    omega

/-- The letters behind the zero in the prefix of a radix. -/
theorem exists_of_hasRadix {letters cs : List Char} (radix : hasRadix letters cs = true) :
    ∃ x behind, cs = '0' :: x :: behind ∧ x ∈ letters := by
  unfold hasRadix at radix
  split at radix
  · next x behind => exact ⟨x, behind, rfl, by simpa using radix⟩
  · cases radix

theorem length_of_not_hasRadix {c : Char} {cs : List Char}
    (plain : hasRadix ['x', 'X', 'b', 'B'] (c :: cs) = false) :
    length (c :: cs) = decimal (c :: cs) := by
  by_cases zero : c = '0'
  · subst zero
    cases cs with
    | nil => rfl
    | cons x behind =>
      have other : x ≠ 'x' ∧ x ≠ 'X' ∧ x ≠ 'b' ∧ x ≠ 'B' := by simpa [hasRadix] using plain
      simp [length_zero, other]
  · exact length_of_ne_zero cs zero

/-- **The front of a text that begins with a digit is taken for the longest numeral there**, unless the
text dangles. -/
theorem longest_length {c : Char} {cs : List Char} (digit : c.isDigit = true)
    (firm : ∀ front, ¬ DanglesBehind front (c :: cs)) :
    Longest Proper (c :: cs) ((c :: cs).take (length (c :: cs))) := by
  by_cases radix : hasRadix ['x', 'X', 'b', 'B'] (c :: cs) = true
  · obtain ⟨x, behind, split, letter⟩ := exists_of_hasRadix radix
    rw [split] at firm ⊢
    rw [length_zero]
    have apart : (x == 'b' || x == 'B') = true → ¬ (x == 'x' || x == 'X') = true := by
      intro binary hex
      rw [eq_false_of_apart (p := fun c => c == 'x' || c == 'X') (by decide) (mem_of_beq_or binary)] at hex
      cases hex
    by_cases hex : (x == 'x' || x == 'X') = true
    · obtain ⟨_, greedy⟩ := greedyOn_hex hex firm
      rw [if_pos hex]
      exact longest_radix letter greedy (fun _ => .hex hex) fun tail form =>
        (form.resolve_left fun ⟨binary, _⟩ => apart binary hex).2
    · obtain ⟨_, greedy⟩ := greedyOn_binary behind
      have binary : (x == 'b' || x == 'B') = true := by
        simp only [List.mem_cons, List.not_mem_nil, or_false] at letter
        simp only [Bool.or_eq_true, beq_iff_eq] at hex ⊢
        tauto
      rw [if_neg hex, if_pos binary]
      exact longest_radix letter greedy (fun _ => .binary binary) fun tail form =>
        (form.resolve_right fun ⟨letter', _⟩ => hex letter').2
  · obtain ⟨_, greedy⟩ := greedyOn_decimal cs digit
    rw [length_of_not_hasRadix (Bool.not_eq_true _ ▸ radix)]
    refine ⟨.decimal greedy.member, List.take_prefix _ _, fun other proper begins => ?_⟩
    rw [List.length_take, Nat.min_eq_left (bounded_decimal _)]
    rcases proper.le_decimal_or digit begins with short | ⟨x, behind, _, split, -, -, form⟩
    · exact short
    · have letter : x ∈ ['x', 'X', 'b', 'B'] := by
        rcases form with ⟨binary, -⟩ | ⟨hex, -⟩
        · exact List.mem_append_right ['x', 'X'] (mem_of_beq_or binary)
        · exact List.mem_append_left ['b', 'B'] (mem_of_beq_or hex)
      exact absurd (by simpa [split, hasRadix] using letter) radix

theorem readsNumeral {c : Char} (cs : List Char) (digit : c.isDigit = true) :
    ReadsNumeral (c :: cs) ((c :: cs).take (length (c :: cs))) where
  longest := longest_length digit
  dangling front dangles := by
    rw [length_of_dangles dangles]
    obtain ⟨-, behind, split, -⟩ := dangles
    rw [split, List.take_left]

end Numeral

/-- No word begins with a digit. -/
theorem Word.isStart_of_isDigit {c : Char} (digit : c.isDigit = true) : isStart c = false := by
  have bounds : 48 ≤ c.toNat ∧ c.toNat ≤ 57 := by
    simpa [Char.isDigit, UInt32.le_iff_toNat_le] using digit
  have among : c.toNat ∈ List.range' 48 10 := List.mem_range'_1.mpr (by omega)
  have none : ∀ n ∈ List.range' 48 10, isStart (Char.ofNat n) = false := by decide
  simpa using none _ among

/-- **A text that begins with a digit begins with a literal**, the longest numeral there. Only behind a
hexadecimal point may the text dangle, and there the literal ends. -/
theorem Lexeme.first?_numeral (v : Vocabulary) {c : Char} (cs : List Char)
    (digit : c.isDigit = true) :
    ∃ taken rest, c :: cs = taken ++ rest ∧ Numeral.length (c :: cs) = taken.length ∧
      first? v (c :: cs) = some (literal taken) ∧ Numeral.ReadsNumeral (c :: cs) taken := by
  have size : ((c :: cs).take (Numeral.length (c :: cs))).length = Numeral.length (c :: cs) := by
    rw [List.length_take, Nat.min_eq_left (Numeral.bounded_length _)]
  refine ⟨_, _, (List.take_append_drop (Numeral.length (c :: cs)) _).symm, size.symm, ?_,
    Numeral.readsNumeral cs digit⟩
  simp [first?, Word.isStart_of_isDigit digit, digit]

/-- Letters are digits in front of the exponent and a suffix behind it, and the last underscore is left. -/
theorem Lexeme.first?_hexFloat :
    let text := ['0', 'x', 'd', '_', '1', '.', 'f', 'p', '-', '8', 'd', '_']
    Char.isDigit '0' = true ∧
      ∃ taken rest, text = taken ++ rest ∧ Numeral.length text = taken.length ∧
        first? Vocabulary.java text = some (literal taken) ∧ Numeral.ReadsNumeral text taken :=
  ⟨rfl, first?_numeral _ _ rfl⟩

end Lexis
