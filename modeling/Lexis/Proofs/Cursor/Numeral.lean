import Lexis.Proofs.Cursor.Scanner
import Lexis.Proofs.Scan.Numeral

/-!
# Walking through numerals

A numeral is passed part by part, by the walks in the order in which the forms are put together, so each
walk is shown to pass one form and the sequences follow (`passes_numeral`). Only the exponent of a decimal
numeral does not go forward all the time: where no digits are found behind its mark, the cursor goes back to
the mark. That is a place that the numeral reaches, so it is not below its start.
-/

set_option autoImplicit false

namespace Lexis.Walk

variable {text low : List Char} {isDigit : Char → Bool}

/-! ## Runs of digits -/

/-- A turn through a run passes one item. -/
private theorem goes_digitsTurn {cs : List Char} {n : Nat} (saw : Bool)
    (taken : Numeral.runItem isDigit cs = n + 1) :
    Goes text low (digitsTurn isDigit saw) cs (.yield (saw || (cs.take (n + 1)).any isDigit))
      (cs.drop (n + 1)) := by
  cases cs with
  | nil => cases taken
  | cons c rest =>
    rw [Numeral.runItem, List.head?_eq_getElem?] at taken
    refine (goes_peek 0 _).bind ((goes_peek 1 _).bind ?_)
    split at taken
    · next digit =>
      obtain rfl : n = 0 := (Nat.succ.inj taken).symm
      have noted : (saw || ((c :: rest).take 1).any isDigit) = true := by simp [digit]
      rw [noted]
      simp only [List.getElem?_cons_zero, digit, if_true]
      exact (goes_advance c rest).bind (goes_pure _ _)
    · next other =>
      split at taken
      · next underscore =>
        obtain rfl : n = 0 := (Nat.succ.inj taken).symm
        have noted : (saw || ((c :: rest).take 1).any isDigit) = saw := by simp [other]
        rw [noted]
        simp only [List.getElem?_cons_zero, List.getElem?_cons_succ, other, underscore, if_true,
          Bool.false_eq_true, if_false]
        exact (goes_advance c rest).bind (goes_pure _ _)
      · cases taken

/-- A turn through a run is the last where no item begins. -/
private theorem goes_digitsTurn_done {cs : List Char} (saw : Bool)
    (none : Numeral.runItem isDigit cs = 0) :
    Goes text low (digitsTurn isDigit saw) cs (.done saw) cs := by
  refine (goes_peek 0 _).bind ((goes_peek 1 _).bind ?_)
  cases cs with
  | nil => exact goes_pure _ _
  | cons c rest =>
    rw [Numeral.runItem, List.head?_eq_getElem?] at none
    split at none
    · cases none
    · next other =>
      split at none
      · cases none
      · next apart =>
        simp only [List.getElem?_cons_zero, List.getElem?_cons_succ, other, apart, Bool.false_eq_true,
          if_false]
        exact goes_pure _ _

/-- Each run that is not empty has a digit. -/
private theorem any_isDigit {cs : List Char} (run : Numeral.Run isDigit cs) (nonempty : cs ≠ []) :
    cs.any isDigit = true := by
  cases run with
  | nil => exact absurd rfl nonempty
  | digit digit _ => rw [List.any_cons, digit, Bool.true_or]
  | underscore digit _ => rw [List.any_cons, List.any_cons, digit, Bool.true_or, Bool.or_true]

/-- **A run of digits is passed.** It has a digit if it is not empty. -/
theorem goes_digits (isDigit : Char → Bool) (cs : List Char) :
    Goes text low (digits isDigit) cs (0 < Numeral.run isDigit cs)
      (cs.drop (Numeral.run isDigit cs)) := by
  have seen : (cs.take (Numeral.run isDigit cs)).any isDigit = decide (0 < Numeral.run isDigit cs) := by
    have run : Numeral.Run isDigit (cs.take (Numeral.run isDigit cs)) := Numeral.takes_run cs
    have inside : Numeral.run isDigit cs ≤ cs.length := Numeral.bounded_run cs
    cases size : Numeral.run isDigit cs with
    | zero => rfl
    | succ n =>
      rw [size] at run inside
      have nonempty : cs.take (n + 1) ≠ [] := by
        rw [← List.length_pos_iff, List.length_take]
        omega
      rw [any_isDigit run nonempty]
      rfl
  rw [← seen]
  exact goes_turns_many Numeral.bounded_runItem (fun _ _ saw => goes_digitsTurn saw) cs false
    (goes_turns_done (goes_digitsTurn_done _ (Munch.item_drop_many Numeral.bounded_runItem cs)))

theorem passes_digits (isDigit : Char → Bool) :
    Passes text low (digits isDigit) (Numeral.run isDigit) := fun cs => ⟨_, goes_digits isDigit cs⟩

/-! ## Parts of a numeral -/

/-- A point is passed with the run behind it, or not at all. -/
theorem passes_fraction (mayFollow isDigit : Char → Bool) :
    Passes text low (fraction mayFollow isDigit) (Numeral.fraction mayFollow isDigit) := by
  intro cs
  refine ⟨(), (goes_peek 0 _).bind ((goes_peek 1 _).bind ?_)⟩
  split
  · next next first second =>
    obtain ⟨rest, rfl⟩ := exists_of_peek first second
    rw [Numeral.fraction_point, List.head?_cons, Option.any_some]
    split
    · rw [Nat.add_comm, List.drop_succ_cons]
      exact (goes_advance _ _).bind ((goes_digits isDigit _).bind (goes_pure _ _))
    · exact goes_pure _ _
  · next apart =>
    have none : Numeral.fraction mayFollow isDigit cs = 0 := by
      unfold Numeral.fraction
      split
      · next rest =>
        cases rest with
        | nil => rfl
        | cons d rest => exact (apart d rfl rfl).elim
      · rfl
    rw [none]
    exact goes_pure _ _

private theorem contains_pair (x y c : Char) : [x, y].contains c = (c == x || c == y) := by
  rw [List.contains_cons, List.contains_cons, List.contains_nil, Bool.or_false]

private theorem contains_floatingMark (c : Char) :
    ['f', 'F', 'd', 'D'].contains c = (c == 'f' || c == 'F' || c == 'd' || c == 'D') := by
  simp only [List.contains_cons, List.contains_nil, Bool.or_false, Bool.or_assoc]

/-- The mark of a hexadecimal exponent is passed even alone. -/
theorem passes_hexEnd :
    Passes text low hexEnd (Numeral.hexExponent.orElse Numeral.wholeSuffix) := by
  intro cs
  refine ⟨(), (goes_eatAny (contains_pair 'p' 'P') cs).bind ?_⟩
  cases cs with
  | nil => exact (goes_eatAny (contains_pair 'l' 'L') []).bind (goes_pure _ _)
  | cons c rest =>
    rw [List.head?_cons, Option.any_some]
    by_cases mark : (c == 'p' || c == 'P') = true
    · have size : Numeral.hexExponent.orElse Numeral.wholeSuffix (c :: rest) =
          1 + Numeral.sign.andThen ((Numeral.run Char.isDigit).andThen Numeral.floatingSuffix) rest := by
        simp only [Munch.orElse, Numeral.hexExponent, if_pos mark, Nat.add_comm 1]
      have scaled : Passes text low _ (Numeral.sign.andThen ((Numeral.run Char.isDigit).andThen
          Numeral.floatingSuffix)) :=
        (passes_eatAny (contains_pair '+' '-')).andThen ((passes_digits _).andThen
          ((passes_eatAny contains_floatingMark).put ()))
      rw [if_pos mark, size, Munch.one, if_pos mark, ← List.drop_drop]
      obtain ⟨_, goes⟩ := scaled rest
      exact goes
    · have size : Numeral.hexExponent.orElse Numeral.wholeSuffix (c :: rest) =
          Numeral.wholeSuffix (c :: rest) := by
        simp only [Munch.orElse, Numeral.hexExponent, if_neg mark]
      rw [if_neg mark, size, Munch.one, if_neg mark, List.drop_zero]
      exact (goes_eatAny (contains_pair 'l' 'L') _).bind (goes_pure _ _)

/-- An exponent that has no digits is passed back. -/
theorem passes_decimalExponent : Passes text low decimalExponent Numeral.decimalExponent := by
  intro cs
  refine ⟨(), (goes_peek 0 _).bind ?_⟩
  cases cs with
  | nil => exact goes_pure _ _
  | cons c rest =>
    by_cases mark : (c == 'e' || c == 'E') = true
    · simp only [List.getElem?_cons_zero, if_pos mark, Numeral.decimalExponent]
      have signed : Goes text low (eatAny ['+', '-']) rest _ (rest.drop (Numeral.sign rest)) :=
        goes_eatAny (contains_pair '+' '-') rest
      have read : Goes text low (digits Char.isDigit) (rest.drop (Numeral.sign rest)) _ _ :=
        goes_digits Char.isDigit _
      -- the cursor goes back to a place that is not below the lowest
      intro whole below
      refine ((goes_offset _).bind ((goes_advance c rest).bind (signed.bind (read.bind ?_)))) whole below
      cases size : Numeral.run Char.isDigit (rest.drop (Numeral.sign rest)) with
      | zero => exact goes_moveTo _ below
      | succ digits =>
        have behind : (c :: rest).drop (1 + Numeral.sign rest + (digits + 1)) =
            (rest.drop (Numeral.sign rest)).drop (digits + 1) := by
          rw [Nat.add_assoc, Nat.add_comm 1, List.drop_succ_cons, List.drop_drop]
        show Goes _ _ _ _ _ ((c :: rest).drop (1 + Numeral.sign rest + (digits + 1)))
        rw [behind]
        exact goes_pure _ _
    · simp only [List.getElem?_cons_zero, if_neg mark, Numeral.decimalExponent]
      exact goes_pure _ _

theorem passes_decimal : Passes text low decimal Numeral.decimal := by
  have contains : ∀ c, ['f', 'F', 'd', 'D', 'l', 'L'].contains c =
      ((c == 'f' || c == 'F' || c == 'd' || c == 'D') || (c == 'l' || c == 'L')) := by
    intro c
    simp only [List.contains_cons, List.contains_nil, Bool.or_false, Bool.or_assoc]
  have suffix : Passes text low _ (Numeral.floatingSuffix.orElse Numeral.wholeSuffix) :=
    (Munch.orElse_one _ _).symm ▸ (passes_eatAny contains).put ()
  exact (passes_digits _).andThen ((passes_fraction _ _).andThen (passes_decimalExponent.andThen suffix))

/-- **A numeral is passed.** -/
theorem passes_numeral : Passes text low numeral Numeral.length := by
  have hexRest : Passes text low _ Numeral.hexRest :=
    (passes_digits _).andThen ((passes_fraction _ _).andThen passes_hexEnd)
  have binaryRest : Passes text low _ Numeral.binaryRest :=
    (passes_digits _).andThen ((passes_eatAny (contains_pair 'l' 'L')).put ())
  intro cs
  refine ⟨(), (goes_peek 0 _).bind ((goes_peek 1 _).bind ?_)⟩
  split
  · next c first second =>
    obtain ⟨rest, rfl⟩ := exists_of_peek first second
    rw [Numeral.length]
    split
    · obtain ⟨_, goes⟩ := hexRest rest
      rw [← List.drop_drop]
      exact (goes_advance _ _).bind ((goes_advance _ _).bind goes)
    · split
      · obtain ⟨_, goes⟩ := binaryRest rest
        rw [← List.drop_drop]
        exact (goes_advance _ _).bind ((goes_advance _ _).bind goes)
      · obtain ⟨_, goes⟩ := passes_decimal ('0' :: c :: rest)
        exact goes
  · next apart =>
    have other : Numeral.length cs = Numeral.decimal cs := by
      unfold Numeral.length
      split
      · next c rest => exact (apart c rfl rfl).elim
      · rfl
    rw [other]
    obtain ⟨_, goes⟩ := passes_decimal cs
    exact goes

end Lexis.Walk
