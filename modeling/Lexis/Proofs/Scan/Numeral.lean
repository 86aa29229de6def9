import Lexis.Proofs.Scan.Border

/-!
# The grammar of numerals

What the scan takes as a numeral is a text of one of three forms, put together from runs of digits, a
fraction, an exponent and a suffix (`spelled_length`). The forms are those of the language but for one: a
hexadecimal point may stand without digits, where an underscore follows that is in front of no digit.

This is also the only numeral that is not settled by itself. Every other one is taken again when the text
behind it is taken away (`settledBy_length`), though some were ended by a look at the characters behind.
-/

set_option autoImplicit false

namespace Lexis.Numeral

open Munch (AtMostOne Settled SettledBy Takes Then)

/-! ## Forms -/

/-- A run of digits, in which an underscore stands directly in front of a digit. -/
inductive Run (isDigit : Char → Bool) : List Char → Prop
  | nil : Run isDigit []
  | digit {c : Char} {cs : List Char} : isDigit c = true → Run isDigit cs → Run isDigit (c :: cs)
  | underscore {c : Char} {cs : List Char} :
      isDigit c = true → Run isDigit (c :: cs) → Run isDigit ('_' :: c :: cs)

/-- A fraction or none. A point is followed by a run of digits, or by nothing where no digit follows the
character that may follow a point. -/
inductive Fraction (mayFollow isDigit : Char → Bool) : List Char → Prop
  | absent : Fraction mayFollow isDigit []
  | digits {c : Char} {cs : List Char} :
      mayFollow c = true → Run isDigit (c :: cs) → Fraction mayFollow isDigit ('.' :: c :: cs)
  | bare {c : Char} : mayFollow c = true → isDigit c = false → Fraction mayFollow isDigit ['.']

/-- A sign. -/
def isSign (c : Char) : Bool := c == '+' || c == '-'

/-- The mark of a long number. -/
def isLongMark (c : Char) : Bool := c == 'l' || c == 'L'

/-- The mark of a floating number. -/
def isFloatingMark (c : Char) : Bool := c == 'f' || c == 'F' || c == 'd' || c == 'D'

/-- The end of a hexadecimal numeral: an exponent with a suffix or none, or the suffix of a whole number
or none. -/
inductive HexEnd : List Char → Prop
  | whole {suffix : List Char} : AtMostOne isLongMark suffix → HexEnd suffix
  | exponent {p : Char} {sign digits suffix : List Char} :
      (p == 'p' || p == 'P') = true → AtMostOne isSign sign → Run Char.isDigit digits →
      AtMostOne isFloatingMark suffix → HexEnd (p :: (sign ++ (digits ++ suffix)))

/-- The exponent of a decimal numeral or none. -/
inductive DecimalExponent : List Char → Prop
  | absent : DecimalExponent []
  | present {e : Char} {sign digits : List Char} :
      (e == 'e' || e == 'E') = true → AtMostOne isSign sign → Run Char.isDigit digits →
      digits ≠ [] → DecimalExponent (e :: (sign ++ digits))

/-- The characters that may follow a hexadecimal point. -/
def mayFollowHexPoint (c : Char) : Bool := Text.isHexDigit c || c == '_'

/-- A hexadecimal numeral behind its prefix. -/
def HexForm : List Char → Prop :=
  Then (Run Text.isHexDigit) (Then (Fraction mayFollowHexPoint Text.isHexDigit) HexEnd)

/-- A binary numeral behind its prefix. -/
def BinaryForm : List Char → Prop := Then (Run Text.isBinaryDigit) (AtMostOne isLongMark)

/-- A decimal numeral. -/
def DecimalForm : List Char → Prop :=
  Then (Run Char.isDigit) (Then (Fraction Char.isDigit Char.isDigit)
    (Then DecimalExponent (AtMostOne fun c => isFloatingMark c || isLongMark c)))

/-- A numeral. -/
inductive Spelled : List Char → Prop
  | hex {x : Char} {cs : List Char} :
      (x == 'x' || x == 'X') = true → HexForm cs → Spelled ('0' :: x :: cs)
  | binary {b : Char} {cs : List Char} :
      (b == 'b' || b == 'B') = true → BinaryForm cs → Spelled ('0' :: b :: cs)
  | decimal {c : Char} {cs : List Char} :
      c.isDigit = true → DecimalForm (c :: cs) → Spelled (c :: cs)

/-! ## Runs of digits -/

section Run

variable {isDigit : Char → Bool}

@[simp] theorem run_nil : run isDigit [] = 0 := Munch.many_nil _

/-- A run begins where one of its items does, and goes on behind the first character. -/
theorem run_cons (c : Char) (cs : List Char) :
    run isDigit (c :: cs) =
      if isDigit c = true ∨ c = '_' ∧ cs.head?.any isDigit = true then run isDigit cs + 1 else 0 := by
  have unfolded := Munch.many_cons (runItem isDigit) c cs
  unfold run
  by_cases digit : isDigit c = true
  · rw [unfolded, if_pos (.inl digit)]
    simp [runItem, digit, Nat.add_comm]
  by_cases underscore : c = '_' ∧ cs.head?.any isDigit = true
  · rw [unfolded, if_pos (.inr underscore)]
    simp [runItem, underscore, Nat.add_comm]
  · have none : runItem isDigit (c :: cs) = 0 := by
      simpa [runItem, digit] using underscore
    rw [unfolded, if_neg (by simp [digit, underscore]), none]

theorem run_pos_of_head {cs : List Char} (digit : cs.head?.any isDigit = true) :
    0 < run isDigit cs := by
  cases cs with
  | nil => cases digit
  | cons c cs => rw [run_cons, if_pos (.inl (by simpa using digit))]; exact Nat.succ_pos _

/-- **The scan takes a run of digits.** -/
theorem takes_run : Takes (run isDigit) (Run isDigit) := by
  intro cs
  induction cs with
  | nil => rw [run_nil]; exact .nil
  | cons c cs ih =>
    rw [run_cons]
    split
    · next begins =>
      rw [List.take_succ_cons]
      by_cases digit : isDigit c = true
      · exact .digit digit ih
      · -- an underscore, and the digit behind it is taken with it
        obtain ⟨rfl, follows⟩ := begins.resolve_left digit
        cases cs with
        | nil => cases follows
        | cons d cs =>
          have digit' : isDigit d = true := by simpa using follows
          rw [run_cons, if_pos (.inl digit'), List.take_succ_cons] at ih ⊢
          exact .underscore digit' ih
    · exact .nil

/-- A run of digits is settled by itself, since the digit behind an underscore is taken with it. -/
theorem settled_run : Settled (run isDigit) := by
  intro front
  induction front with
  | nil =>
    intro rest inside
    rw [run_nil, Nat.le_zero.mp inside]
  | cons c front ih =>
    intro rest inside
    rw [List.cons_append, run_cons] at inside ⊢
    rw [run_cons]
    by_cases begins : isDigit c = true ∨ c = '_' ∧ (front ++ rest).head?.any isDigit = true
    · rw [if_pos begins, List.length_cons] at inside
      have behind : run isDigit (front ++ rest) ≤ front.length := Nat.le_of_succ_le_succ inside
      have begins' : isDigit c = true ∨ c = '_' ∧ front.head?.any isDigit = true := by
        refine begins.imp_right fun ⟨underscore, follows⟩ => ⟨underscore, ?_⟩
        have taken := run_pos_of_head follows
        cases front with
        | nil => exact absurd (Nat.lt_of_lt_of_le taken behind) (Nat.lt_irrefl 0)
        | cons d front => exact follows
      rw [if_pos begins, if_pos begins', ih rest behind]
    · have begins' : ¬ (isDigit c = true ∨ c = '_' ∧ front.head?.any isDigit = true) := by
        refine mt (Or.imp_right fun ⟨underscore, follows⟩ => ⟨underscore, ?_⟩) begins
        cases front with
        | nil => cases follows
        | cons d front => exact follows
      rw [if_neg begins, if_neg begins']

end Run

/-! ## Fractions -/

theorem fraction_point (mayFollow isDigit : Char → Bool) (cs : List Char) :
    fraction mayFollow isDigit ('.' :: cs) =
      if cs.head?.any mayFollow then 1 + run isDigit cs else 0 := rfl

theorem fraction_of_ne {mayFollow isDigit : Char → Bool} {cs : List Char}
    (other : cs.head? ≠ some '.') : fraction mayFollow isDigit cs = 0 := by
  unfold fraction
  split
  · exact absurd rfl other
  · rfl

theorem takes_fraction (mayFollow isDigit : Char → Bool) :
    Takes (fraction mayFollow isDigit) (Fraction mayFollow isDigit) := by
  intro cs
  by_cases point : cs.head? = some '.'
  · obtain ⟨cs, rfl⟩ := List.head?_eq_some_iff.mp point
    rw [fraction_point]
    split
    · next follows =>
      cases cs with
      | nil => cases follows
      | cons c cs =>
        have may : mayFollow c = true := by simpa using follows
        have digits : Run isDigit ((c :: cs).take (run isDigit (c :: cs))) := takes_run (c :: cs)
        rw [Nat.add_comm, List.take_succ_cons]
        cases taken : run isDigit (c :: cs) with
        | zero =>
          refine .bare may ?_
          by_contra digit
          have some : 0 < run isDigit (c :: cs) := run_pos_of_head (by simpa using digit)
          omega
        | succ n =>
          rw [taken, List.take_succ_cons] at digits
          exact .digits may digits
    · exact .absent
  · rw [fraction_of_ne point]
    exact .absent

/-- A fraction is settled by itself unless it is a point alone. -/
theorem settledBy_fraction {mayFollow isDigit : Char → Bool} {front : List Char}
    (more : front ≠ ['.']) : SettledBy (fraction mayFollow isDigit) front := by
  intro rest inside
  cases front with
  | nil => exact (Nat.le_zero.mp inside).symm
  | cons c front =>
    by_cases point : c = '.'
    · subst point
      obtain ⟨d, front, rfl⟩ := List.exists_cons_of_ne_nil fun none => more (congrArg ('.' :: ·) none)
      rw [List.cons_append, fraction_point, List.length_cons] at inside
      rw [List.cons_append, fraction_point, fraction_point]
      by_cases follows : mayFollow d = true
      · have follows' : ((d :: front) ++ rest).head?.any mayFollow = true := by simpa using follows
        rw [if_pos follows'] at inside ⊢
        rw [if_pos (by simpa using follows), settled_run (d :: front) rest (by omega)]
      · rw [if_neg (by simpa using follows), if_neg (by simpa using follows)]
    · rw [fraction_of_ne (by simpa using point), fraction_of_ne (by simpa using point)]

/-! ## Exponents -/

private theorem takes_scaled :
    Takes (sign.andThen ((run Char.isDigit).andThen floatingSuffix))
      (Then (AtMostOne isSign) (Then (Run Char.isDigit) (AtMostOne isFloatingMark))) :=
  Takes.andThen (Munch.takes_one isSign) (takes_run.andThen (Munch.takes_one isFloatingMark))

private theorem settled_scaled :
    Settled (sign.andThen ((run Char.isDigit).andThen floatingSuffix)) :=
  Settled.andThen (Munch.settled_one _) (settled_run.andThen (Munch.settled_one _))

theorem takes_hexEnd : Takes (hexExponent.orElse wholeSuffix) HexEnd := by
  refine Takes.orElse (fun cs => ?_) fun cs => .whole (Munch.takes_one isLongMark cs)
  cases cs with
  | nil => exact .whole .none
  | cons p cs =>
    simp only [hexExponent]
    split
    · next marker =>
      rw [Nat.add_comm, List.take_succ_cons]
      obtain ⟨sign, back, split, signed, digits, suffix, rfl, run, marked⟩ := takes_scaled cs
      rw [split]
      exact .exponent marker signed run marked
    · exact .whole .none

theorem settled_hexExponent : Settled hexExponent := by
  intro front rest inside
  cases front with
  | nil => exact (Nat.le_zero.mp inside).symm
  | cons p front =>
    simp only [List.cons_append, hexExponent, List.length_cons] at inside ⊢
    split
    · next marker =>
      rw [if_pos marker] at inside
      rw [settled_scaled front rest (by omega)]
    · rfl

theorem takes_decimalExponent : Takes decimalExponent DecimalExponent := by
  intro cs
  cases cs with
  | nil => exact .absent
  | cons e cs =>
    simp only [decimalExponent]
    split
    · next marker =>
      have signed : AtMostOne isSign (cs.take (sign cs)) := Munch.takes_one isSign cs
      have digits : Run Char.isDigit ((cs.drop (sign cs)).take (run Char.isDigit (cs.drop (sign cs)))) :=
        takes_run _
      split
      · exact .absent
      · next n taken =>
        have whole : 1 + sign cs + (n + 1) = (sign cs + (n + 1)) + 1 := by omega
        rw [whole, List.take_succ_cons, List.take_add]
        rw [taken] at digits
        refine .present marker signed digits fun nothing => ?_
        have some : run Char.isDigit (cs.drop (sign cs)) ≤ (cs.drop (sign cs)).length := bounded_run _
        have none := congrArg List.length nothing
        rw [List.length_take, List.length_nil] at none
        omega
    · exact .absent

theorem settled_decimalExponent : Settled decimalExponent := by
  intro front rest inside
  cases front with
  | nil => exact (Nat.le_zero.mp inside).symm
  | cons e front =>
    simp only [List.cons_append, decimalExponent, List.length_cons] at inside ⊢
    split
    · next marker =>
      rw [if_pos marker] at inside
      cases front with
      | nil =>
        -- the marker alone; of what follows it nothing may be taken
        rw [List.nil_append, List.length_nil] at inside
        rw [List.nil_append]
        have alone : run Char.isDigit (([] : List Char).drop (sign [])) = 0 := run_nil
        rw [alone]
        split at inside
        · rfl
        · omega
      | cons c front =>
        have signed : sign (c :: front) = sign (c :: front ++ rest) := rfl
        have short : sign (c :: front) ≤ (c :: front).length := Munch.bounded_one _ _
        have behind : (c :: front ++ rest).drop (sign (c :: front)) =
            (c :: front).drop (sign (c :: front)) ++ rest :=
          List.drop_append_of_le_length short
        rw [← signed, behind] at inside ⊢
        have digits : run Char.isDigit ((c :: front).drop (sign (c :: front)) ++ rest) ≤
            ((c :: front).drop (sign (c :: front))).length := by
          rw [List.length_drop]
          split at inside
          · next none => rw [none]; exact Nat.zero_le _
          · next n taken => rw [taken]; omega
        rw [settled_run _ rest digits]
    · rfl

/-! ## Numerals -/

private theorem takes_hexRest : Takes hexRest HexForm :=
  Takes.andThen takes_run (Takes.andThen (takes_fraction _ _) takes_hexEnd)

private theorem takes_binaryRest : Takes binaryRest BinaryForm :=
  Takes.andThen takes_run (Munch.takes_one isLongMark)

private theorem takes_decimal : Takes decimal DecimalForm := by
  have suffix : Takes (floatingSuffix.orElse wholeSuffix)
      (AtMostOne fun c => isFloatingMark c || isLongMark c) := by
    refine Takes.orElse (fun cs => ?_) fun cs => ?_
    · exact (Munch.takes_one isFloatingMark cs).imp fun c mark => by simp [mark]
    · exact (Munch.takes_one isLongMark cs).imp fun c mark => by simp [mark]
  exact Takes.andThen takes_run (Takes.andThen (takes_fraction _ _)
    (Takes.andThen takes_decimalExponent suffix))

theorem length_zero (x : Char) (cs : List Char) :
    length ('0' :: x :: cs) =
      if x == 'x' || x == 'X' then 2 + hexRest cs
      else if x == 'b' || x == 'B' then 2 + binaryRest cs
      else decimal ('0' :: x :: cs) := rfl

/-- **What the scan takes is a numeral.** -/
theorem spelled_length {c : Char} (cs : List Char) (digit : c.isDigit = true) :
    Spelled ((c :: cs).take (length (c :: cs))) := by
  have plain : Spelled ((c :: cs).take (decimal (c :: cs))) := by
    have taken := takes_decimal (c :: cs)
    have some : 0 < decimal (c :: cs) := by
      have first : 0 < run Char.isDigit (c :: cs) := run_pos_of_head (by simpa using digit)
      simp only [decimal, Munch.andThen]
      omega
    obtain ⟨n, size⟩ := Nat.exists_eq_succ_of_ne_zero (Nat.ne_of_gt some)
    rw [size, Nat.succ_eq_add_one, List.take_succ_cons] at taken ⊢
    exact .decimal digit taken
  by_cases zero : c = '0'
  · subst zero
    cases cs with
    | nil => exact plain
    | cons x cs =>
      rw [length_zero]
      split
      · next hex =>
        rw [Nat.add_comm, List.take_succ_cons, List.take_succ_cons]
        exact .hex hex (takes_hexRest cs)
      · split
        · next binary =>
          rw [Nat.add_comm, List.take_succ_cons, List.take_succ_cons]
          exact .binary binary (takes_binaryRest cs)
        · exact plain
  · rwa [length_of_ne_zero cs zero]

private theorem settledBy_hexRest {front : List Char} (closed : front.getLast? ≠ some '.') :
    SettledBy hexRest front := by
  refine SettledBy.andThen (settled_run front) (SettledBy.andThen (settledBy_fraction ?_) ?_)
  · intro point
    have parts := List.take_append_drop (run Text.isHexDigit front) front
    rw [point] at parts
    rw [← parts, List.getLast?_concat] at closed
    exact closed rfl
  · exact (settled_hexExponent.orElse (Munch.settled_one _)) _

private theorem settled_binaryRest : Settled binaryRest := settled_run.andThen (Munch.settled_one _)

private theorem settled_decimalFraction : Settled (fraction Char.isDigit Char.isDigit) := by
  intro front rest inside
  by_cases point : front = ['.']
  · -- in front of a digit a point alone would not be all that is taken
    subst point
    rw [List.singleton_append, fraction_point, List.length_singleton] at inside
    have follows : ¬ rest.head?.any Char.isDigit = true := by
      intro follows
      have some := run_pos_of_head follows
      rw [if_pos follows] at inside
      omega
    rw [List.singleton_append, fraction_point, fraction_point, if_neg follows]
    rfl
  · exact settledBy_fraction point rest inside

private theorem settled_decimal : Settled decimal :=
  settled_run.andThen (settled_decimalFraction.andThen
    (settled_decimalExponent.andThen ((Munch.settled_one _).orElse (Munch.settled_one _))))

/-- Whether a text begins with a zero and one of the given letters behind it. -/
def hasRadix (letters : List Char) : List Char → Bool
  | '0' :: x :: _ => letters.contains x
  | _ => false

private theorem length_eq_decimal_of_lone {c : Char} {rest : List Char}
    (inside : length (c :: rest) ≤ 1) : length (c :: rest) = decimal (c :: rest) := by
  by_cases zero : c = '0'
  · subst zero
    cases rest with
    | nil => rfl
    | cons x rest =>
      rw [length_zero] at inside ⊢
      split at inside
      · omega
      · split at inside
        · omega
        · next hex binary => rw [if_neg hex, if_neg binary]
  · exact length_of_ne_zero rest zero

/-- **A numeral is settled by itself**, unless it is hexadecimal and ends with its point. -/
theorem settledBy_length {front : List Char}
    (closed : hasRadix ['x', 'X'] front = true → front.getLast? ≠ some '.') :
    SettledBy length front := by
  intro rest inside
  match front with
  | [] => rw [bounded_length.nil, Nat.le_zero.mp inside]
  | [c] =>
    -- a prefix of a radix would take two characters
    have whole : length ([c] ++ rest) = decimal ([c] ++ rest) := length_eq_decimal_of_lone inside
    rw [whole] at inside ⊢
    have alone : decimal [c] = decimal ([c] ++ rest) := settled_decimal [c] rest inside
    rw [length_eq_decimal_of_lone (bounded_length [c]), alone]
  | c :: d :: front =>
    by_cases zero : c = '0'
    · subst zero
      rw [List.cons_append, List.cons_append, length_zero, List.length_cons, List.length_cons] at inside
      rw [List.cons_append, List.cons_append, length_zero, length_zero]
      split
      · next hex =>
        rw [if_pos hex] at inside
        have closed' : front.getLast? ≠ some '.' := by
          intro last
          have prefixed : hasRadix ['x', 'X'] ('0' :: d :: front) = true := by
            simpa [hasRadix] using hex
          obtain ⟨init, rfl⟩ := List.getLast?_eq_some_iff.mp last
          refine closed prefixed ?_
          rw [← List.cons_append, ← List.cons_append, List.getLast?_concat]
        rw [settledBy_hexRest closed' rest (by omega)]
      · next hex =>
        rw [if_neg hex] at inside
        split
        · next binary =>
          rw [if_pos binary] at inside
          rw [settled_binaryRest front rest (by omega)]
        · next binary =>
          rw [if_neg binary] at inside
          exact settled_decimal ('0' :: d :: front) rest inside
    · have plain : ∀ cs, length (c :: cs) = decimal (c :: cs) := fun cs => length_of_ne_zero cs zero
      rw [List.cons_append, plain] at inside
      rw [List.cons_append, plain, plain]
      exact settled_decimal (c :: d :: front) rest inside

end Lexis.Numeral
