import Lexis.Proofs.Scan.LiteralForms
import Lexis.Proofs.Scan.Numeral

/-!
# What the marks of a numeral tell

The type of a literal is inferred from its spelling by forms of their own, wider than what the scan takes:
digits may be missing, and underscores may stand anywhere among them. On a numeral that the scan takes
they come to what a few marks of it tell: its prefix, its last character, and whether it holds a point or
the marker of an exponent (`ofText_eq_ofMarks`).

Both sides are read along the grammar of numerals. What is inferred is the type of a form, and a numeral
has the form that its prefix, its parts and its suffix make, since each part of a numeral is a text of a
part of the form. What the marks tell is read off part by part: none of the characters of one part is a
mark of another.
-/

set_option autoImplicit false

namespace Lexis

namespace LiteralType

/-! ## Marks -/

/-- Whether a text holds one of the given characters. -/
def holds (marks cs : List Char) : Bool := cs.any marks.contains

/-- Whether a text ends with one of the given characters. -/
def endsIn (marks cs : List Char) : Bool := cs.getLast?.any marks.contains

/-- The type of a hexadecimal numeral by its marks. -/
def ofHexMarks (cs : List Char) : LiteralType :=
  if holds ['p', 'P'] cs then if endsIn ['f', 'F'] cs then .float else .double
  else if endsIn ['l', 'L'] cs then .long
  else .int

/-- The type of a decimal numeral by its marks. -/
def ofDecimalMarks (cs : List Char) : LiteralType :=
  if endsIn ['l', 'L'] cs then .long
  else if endsIn ['f', 'F'] cs then .float
  else if endsIn ['d', 'D'] cs then .double
  else if holds ['.', 'e', 'E'] cs then .double
  else .int

/-- **The type of a numeral by its marks.** -/
def ofMarks (cs : List Char) : LiteralType :=
  if Numeral.hasRadix ['x', 'X'] cs then ofHexMarks cs
  else if Numeral.hasRadix ['b', 'B'] cs then if endsIn ['l', 'L'] cs then .long else .int
  else ofDecimalMarks cs

section Marks

variable {marks cs front back : List Char} {p : Char → Bool}

theorem holds_append : holds marks (front ++ back) = (holds marks front || holds marks back) :=
  List.any_append

theorem holds_cons {c : Char} : holds marks (c :: cs) = (marks.contains c || holds marks cs) :=
  List.any_cons

/-- A text of a class holds no mark that is not of the class. -/
theorem holds_eq_false (all : ∀ c ∈ cs, p c = true) (apart : marks.any p = false) :
    holds marks cs = false := by
  refine List.any_eq_false.mpr fun c member mark => ?_
  have none := eq_false_of_apart apart (by simpa using mark : c ∈ marks)
  rw [all c member] at none
  cases none

/-- A text that does not end in a mark ends in one when one is put behind it. -/
theorem endsIn_append (free : endsIn marks front = false) (suffix : Munch.AtMostOne p back) :
    endsIn marks (front ++ back) = holds marks back := by
  cases suffix with
  | none => rw [List.append_nil, free]; rfl
  | one => simp [endsIn, holds]

theorem endsIn_eq_false (free : holds marks cs = false) : endsIn marks cs = false := by
  unfold endsIn
  cases last : cs.getLast? with
  | none => rfl
  | some c =>
    have among := List.any_eq_false.mp free c (List.mem_of_getLast? last)
    simpa using among

theorem endsIn_append_of_ne_nil (more : back ≠ []) :
    endsIn marks (front ++ back) = endsIn marks back := by
  rw [endsIn, endsIn, List.getLast?_append_of_ne_nil _ more]

theorem hasRadix_eq_false (free : holds marks cs = false) : Numeral.hasRadix marks cs = false := by
  unfold Numeral.hasRadix
  split
  · next x cs =>
    rw [holds_cons, holds_cons] at free
    simp only [Bool.or_eq_false_iff] at free
    exact free.2.1
  · rfl

theorem hasRadix_of_subset {few many : List Char} (fewer : few ⊆ many)
    (none : Numeral.hasRadix many cs = false) : Numeral.hasRadix few cs = false := by
  unfold Numeral.hasRadix at none ⊢
  split at none
  · simp only [List.contains_eq_mem, decide_eq_false_iff_not] at none ⊢
    exact fun member => none (fewer member)
  · rfl

end Marks

end LiteralType

namespace Numeral

open LiteralType Munch
open scoped Computability

/-! ## The characters of the parts -/

variable {isDigit isPart mayFollow : Char → Bool} {cs front back rest : List Char}

theorem Run.all (run : Run isDigit cs) : ∀ c ∈ cs, (isDigit c || c == '_') = true := by
  induction run with
  | nil => simp
  | digit digit _ ih => simpa [digit] using ih
  | underscore digit _ ih => simpa [digit] using ih

theorem Fraction.all (fraction : Fraction mayFollow isDigit cs) :
    ∀ c ∈ cs, (isDigit c || c == '_' || c == '.') = true := by
  cases fraction with
  | absent => simp
  | digits _ run =>
    intro c member
    rcases List.mem_cons.mp member with rfl | member
    · simp
    · rw [run.all c member]
      rfl
  | bare => simp

theorem DecimalExponent.all (exponent : DecimalExponent cs) :
    ∀ c ∈ cs, (c.isDigit || ['_', '+', '-', 'e', 'E'].contains c) = true := by
  cases exponent with
  | absent => simp
  | @present e sign digits marker signed run _ =>
    intro c member
    rcases List.mem_cons.mp member with rfl | member
    · rcases Bool.or_eq_true_iff.mp marker with h | h <;> simp [beq_iff_eq.mp h]
    rcases List.mem_append.mp member with member | member
    · cases signed with
      | none => cases member
      | one mark =>
        obtain rfl := List.mem_singleton.mp member
        rcases Bool.or_eq_true_iff.mp mark with h | h <;> simp [beq_iff_eq.mp h]
    · have part := run.all c member
      simp only [Bool.or_eq_true] at part ⊢
      exact part.imp_right fun h => by simp [beq_iff_eq.mp h]

theorem long_cases (suffix : AtMostOne isLongMark cs) : cs = [] ∨ cs = ['l'] ∨ cs = ['L'] := by
  cases suffix with
  | none => exact .inl rfl
  | one mark => simpa [isLongMark] using mark

theorem floating_cases (suffix : AtMostOne isFloatingMark cs) :
    cs = [] ∨ cs = ['f'] ∨ cs = ['F'] ∨ cs = ['d'] ∨ cs = ['D'] := by
  cases suffix with
  | none => exact .inl rfl
  | one mark => simpa [isFloatingMark, or_assoc] using mark

theorem decimal_cases (suffix : AtMostOne (fun c => isFloatingMark c || isLongMark c) cs) :
    cs = [] ∨ cs = ['f'] ∨ cs = ['F'] ∨ cs = ['d'] ∨ cs = ['D'] ∨ cs = ['l'] ∨ cs = ['L'] := by
  cases suffix with
  | none => exact .inl rfl
  | one mark => simpa [isFloatingMark, isLongMark, or_assoc] using mark

theorem HexEnd.all (tail : HexEnd cs) :
    ∀ c ∈ cs, (c.isDigit || ['_', '+', '-', 'p', 'P', 'f', 'F', 'd', 'D', 'l', 'L'].contains c) = true := by
  intro c member
  cases tail with
  | whole mark => rcases long_cases mark with rfl | rfl | rfl <;> simp_all
  | @exponent p sign digits mark marker signed run mark =>
    rcases List.mem_cons.mp member with rfl | member
    · rcases Bool.or_eq_true_iff.mp marker with h | h <;> simp [beq_iff_eq.mp h]
    rcases List.mem_append.mp member with member | member
    · have sign' := signed.all c member
      rcases Bool.or_eq_true_iff.mp sign' with h | h <;> simp [beq_iff_eq.mp h]
    rcases List.mem_append.mp member with member | member
    · have part := run.all c member
      simp only [Bool.or_eq_true] at part ⊢
      exact part.imp_right fun h => by simp [beq_iff_eq.mp h]
    · rcases floating_cases mark with rfl | rfl | rfl | rfl | rfl <;> simp_all

/-- A text that is empty or begins with one of the given characters. -/
def Begins (marks cs : List Char) : Prop := ∀ c ∈ cs.head?, c ∈ marks

theorem Begins.apart {marks : List Char} (begins : Begins marks cs) (apart : marks.any isPart = false) :
    ∀ c ∈ cs.head?, isPart c = false :=
  fun c first => eq_false_of_apart apart (begins c first)

theorem begins_long (suffix : AtMostOne isLongMark cs) : Begins ['l', 'L'] cs := by
  rcases long_cases suffix with rfl | rfl | rfl <;> simp [Begins]

theorem begins_floating (suffix : AtMostOne isFloatingMark cs) : Begins ['f', 'F', 'd', 'D'] cs := by
  rcases floating_cases suffix with rfl | rfl | rfl | rfl | rfl <;> simp [Begins]

theorem begins_decimal (suffix : AtMostOne (fun c => isFloatingMark c || isLongMark c) cs) :
    Begins ['f', 'F', 'd', 'D', 'l', 'L'] cs := by
  rcases decimal_cases suffix with rfl | rfl | rfl | rfl | rfl | rfl | rfl <;> simp [Begins]

theorem HexEnd.begins (tail : HexEnd cs) : Begins ['l', 'L', 'p', 'P'] cs := by
  cases tail with
  | whole suffix => exact fun c first => List.mem_append_left ['p', 'P'] (begins_long suffix c first)
  | exponent marker =>
    intro c first
    obtain rfl := Option.some.inj first
    exact List.mem_append_right ['l', 'L'] (mem_of_beq_or marker)

theorem Fraction.begins {marks : List Char} (fraction : Fraction mayFollow isDigit front)
    (begins : Begins marks rest) : Begins ('.' :: marks) (front ++ rest) := by
  cases fraction with
  | absent => exact fun c first => List.mem_cons_of_mem _ (begins c first)
  | digits => simp [Begins]
  | bare => simp [Begins]

theorem DecimalExponent.begins {marks : List Char} (exponent : DecimalExponent front)
    (begins : Begins marks rest) : Begins (['e', 'E'] ++ marks) (front ++ rest) := by
  cases exponent with
  | absent => exact fun c first => List.mem_append_right _ (begins c first)
  | present marker =>
    intro c first
    obtain rfl := Option.some.inj first
    exact List.mem_append_left _ (mem_of_beq_or marker)

/-- The digits behind a sign begin with no sign, and neither does the suffix behind them. -/
theorem no_sign (run : Run Char.isDigit front) (stop : ∀ c ∈ rest.head?, isSign c = false) :
    ∀ c ∈ (front ++ rest).head?, isSign c = false := by
  cases front with
  | nil => exact stop
  | cons d front =>
    intro c first
    obtain rfl : d = c := by simpa using first
    have part := run.all d (List.mem_cons_self ..)
    by_contra sign
    rw [Bool.not_eq_false, isSign, Bool.or_eq_true, beq_iff_eq, beq_iff_eq] at sign
    rcases sign with rfl | rfl <;> exact absurd part (by decide)

/-! ## The parts as texts of forms -/

theorem Run.mem_kstar (run : Run isDigit cs)
    (parts : ∀ c, (isDigit c || c == '_') = true → isPart c = true) : cs ∈ (ofClass isPart)∗ :=
  mem_kstar_ofClass.mpr fun c member => parts c (run.all c member)

theorem Fraction.mem_language (fraction : Fraction mayFollow isDigit cs)
    (parts : ∀ c, (isDigit c || c == '_') = true → isPart c = true) :
    cs ∈ 1 + LiteralType.fraction isPart := by
  cases fraction with
  | absent => exact .inl rfl
  | digits _ run => exact .inr (cons_mem_ofClass_mul.mpr ⟨rfl, run.mem_kstar parts⟩)
  | bare => exact .inr (cons_mem_ofClass_mul.mpr ⟨rfl, Language.nil_mem_kstar _⟩)

theorem mem_sign (sign : AtMostOne isSign cs) : cs ∈ 1 + oneOf ['+', '-'] := by
  cases sign with
  | none => exact .inl rfl
  | one mark => exact .inr (mem_oneOf.mpr ⟨_, mem_of_beq_or mark, rfl⟩)

theorem DecimalExponent.mem_language (exponent : DecimalExponent cs) :
    cs ∈ 1 + LiteralType.exponent := by
  cases exponent with
  | absent => exact .inl rfl
  | @present e sign digits marker signed run some =>
    obtain ⟨d, digits, rfl⟩ := List.exists_cons_of_ne_nil some
    have parts := List.forall_mem_cons.mp run.all
    refine .inr (cons_mem_ofClass_mul.mpr ⟨List.contains_iff_mem.mpr (mem_of_beq_or marker), ?_⟩)
    exact Language.append_mem_mul (mem_sign signed)
      (cons_mem_ofClass_mul.mpr ⟨parts.1, mem_kstar_ofClass.mpr parts.2⟩)

theorem mem_hexFront {letters digits : List Char} {x : Char} (letter : x ∈ letters)
    (run : Run isDigit digits) (fraction : Fraction mayFollow isDigit front)
    (parts : ∀ c, (isDigit c || c == '_') = true → isHexPart c = true) :
    '0' :: x :: (digits ++ front) ∈ hexFront letters :=
  cons_mem_ofClass_mul.mpr ⟨rfl, cons_mem_ofClass_mul.mpr ⟨List.contains_iff_mem.mpr letter,
    Language.append_mem_mul (run.mem_kstar parts) (fraction.mem_language parts)⟩⟩

/-! ## What is inferred -/

section Inferred

variable {x c : Char} {digits fraction sign exponent suffix : List Char}

private theorem isHexPart_of_isBinaryPart (c : Char) (part : (Text.isBinaryDigit c || c == '_') = true) :
    isHexPart c = true := by
  simp only [Text.isBinaryDigit, Bool.or_eq_true, beq_iff_eq] at part
  rcases part with (rfl | rfl) | rfl <;> decide

private theorem mem_suffixed {body marks : List Char} {stem : Language Char} {c : Char}
    (member : body ∈ stem) (mark : c ∈ marks) : body ++ [c] ∈ stem * oneOf marks :=
  Language.append_mem_mul member (mem_oneOf.mpr ⟨c, mark, rfl⟩)

private theorem ofText_radix (letter : x ∈ ['x', 'X', 'b', 'B']) (run : Run isDigit digits)
    (fraction' : Fraction mayFollow isDigit fraction)
    (parts : ∀ c, (isDigit c || c == '_') = true → isHexPart c = true)
    (suffix' : AtMostOne isLongMark suffix) :
    ofText ('0' :: x :: (digits ++ (fraction ++ suffix))) =
      if holds ['l', 'L'] suffix then .long else .int := by
  have body : '0' :: x :: (digits ++ fraction) ∈ radix := mem_hexFront letter run fraction' parts
  have split : '0' :: x :: (digits ++ (fraction ++ suffix)) =
      '0' :: x :: (digits ++ fraction) ++ suffix := by
    simp
  rw [split]
  rcases long_cases suffix' with rfl | rfl | rfl
  · rw [List.append_nil]
    exact ofText_of_mem (show _ ∈ Form.radix.language from body)
  all_goals exact ofText_of_mem (show _ ∈ Form.radixLong.language from mem_suffixed body (by simp))

private theorem ofText_hexExponent {p : Char} {digits' : List Char}
    (letter : (x == 'x' || x == 'X') = true) (run : Run Text.isHexDigit digits)
    (fraction' : Fraction mayFollowHexPoint Text.isHexDigit fraction)
    (marker : (p == 'p' || p == 'P') = true) (sign' : AtMostOne isSign sign)
    (run' : Run Char.isDigit digits') (suffix' : AtMostOne isFloatingMark suffix) :
    ofText ('0' :: x :: (digits ++ (fraction ++ p :: (sign ++ (digits' ++ suffix))))) =
      if holds ['f', 'F'] suffix then .float else .double := by
  have front : '0' :: x :: (digits ++ fraction) ∈ hexFront ['x', 'X'] :=
    mem_hexFront (mem_of_beq_or letter) run fraction' fun _ part => part
  have power : p :: (sign ++ digits') ∈ binaryExponent :=
    cons_mem_ofClass_mul.mpr ⟨List.contains_iff_mem.mpr (mem_of_beq_or marker),
      Language.append_mem_mul (mem_sign sign') (run'.mem_kstar fun _ part => part)⟩
  have body : '0' :: x :: (digits ++ fraction) ++ p :: (sign ++ digits') ∈ hexFloating :=
    Language.append_mem_mul front power
  have split : '0' :: x :: (digits ++ (fraction ++ p :: (sign ++ (digits' ++ suffix)))) =
      '0' :: x :: (digits ++ fraction) ++ p :: (sign ++ digits') ++ suffix := by
    simp
  rw [split]
  rcases floating_cases suffix' with rfl | rfl | rfl | rfl | rfl
  · rw [List.append_nil]
    exact ofText_of_mem (show _ ∈ Form.hexFloating.language from body)
  · exact ofText_of_mem (show _ ∈ Form.hexFloat.language from mem_suffixed body (by simp))
  · exact ofText_of_mem (show _ ∈ Form.hexFloat.language from mem_suffixed body (by simp))
  · exact ofText_of_mem (show _ ∈ Form.hexDouble.language from mem_suffixed body (by simp))
  · exact ofText_of_mem (show _ ∈ Form.hexDouble.language from mem_suffixed body (by simp))

/-- The digits that a decimal numeral begins with are there, since nothing else begins with a digit. -/
private theorem mem_digits {cs : List Char} (digit : c.isDigit = true)
    (split : c :: cs = digits ++ (fraction ++ (exponent ++ suffix))) (run : Run Char.isDigit digits)
    (fraction' : Fraction Char.isDigit Char.isDigit fraction) (exponent' : DecimalExponent exponent)
    (suffix' : AtMostOne (fun c => isFloatingMark c || isLongMark c) suffix) :
    digits ∈ LiteralType.digits := by
  have begins := fraction'.begins (exponent'.begins (begins_decimal suffix'))
  cases digits with
  | nil =>
    have first : c ∈ (fraction ++ (exponent ++ suffix)).head? := by
      rw [List.nil_append] at split
      rw [← split]
      rfl
    have none : c.isDigit = false := begins.apart (by decide) c first
    rw [digit] at none
    cases none
  | cons d digits =>
    obtain rfl := (List.cons.inj split).1
    exact cons_mem_ofClass_mul.mpr ⟨digit, mem_kstar_ofClass.mpr (List.forall_mem_cons.mp run.all).2⟩

private theorem ofText_decimal {cs : List Char} (digit : c.isDigit = true)
    (split : c :: cs = digits ++ (fraction ++ (exponent ++ suffix))) (run : Run Char.isDigit digits)
    (fraction' : Fraction Char.isDigit Char.isDigit fraction) (exponent' : DecimalExponent exponent)
    (suffix' : AtMostOne (fun c => isFloatingMark c || isLongMark c) suffix) :
    ofText (c :: cs) =
      if holds ['l', 'L'] suffix then .long
      else if holds ['f', 'F'] suffix then .float
      else if holds ['d', 'D'] suffix then .double
      else if (fraction ++ exponent).isEmpty then .int
      else .double := by
  have front := mem_digits digit split run fraction' exponent' suffix'
  have behind : fraction ++ exponent ∈
      (1 + LiteralType.fraction isDecimalPart) * (1 + LiteralType.exponent) :=
    Language.append_mem_mul (fraction'.mem_language fun _ part => part) exponent'.mem_language
  have body : digits ++ (fraction ++ exponent) ∈ LiteralType.decimal :=
    Language.append_mem_mul front behind
  have text : c :: cs = digits ++ (fraction ++ exponent) ++ suffix := by rw [split]; simp
  rw [text]
  rcases decimal_cases suffix' with rfl | rfl | rfl | rfl | rfl | rfl | rfl
  · rw [List.append_nil]
    cases point : fraction ++ exponent with
    | nil =>
      rw [List.append_nil]
      exact ofText_of_mem (show _ ∈ Form.whole.language from front)
    | cons d more =>
      rw [point] at behind
      exact ofText_of_mem (show _ ∈ Form.broken.language from
        Language.append_mem_mul front (mem_broken_iff.mpr ⟨List.cons_ne_nil _ _, behind⟩))
  · exact ofText_of_mem (show _ ∈ Form.float.language from mem_suffixed body (by simp))
  · exact ofText_of_mem (show _ ∈ Form.float.language from mem_suffixed body (by simp))
  · exact ofText_of_mem (show _ ∈ Form.double.language from mem_suffixed body (by simp))
  · exact ofText_of_mem (show _ ∈ Form.double.language from mem_suffixed body (by simp))
  · exact ofText_of_mem (show _ ∈ Form.long.language from mem_suffixed body (by simp))
  · exact ofText_of_mem (show _ ∈ Form.long.language from mem_suffixed body (by simp))

/-! ## What the marks tell -/

private theorem ofMarks_hex (letter : (x == 'x' || x == 'X') = true) (cs : List Char) :
    ofMarks ('0' :: x :: cs) = ofHexMarks ('0' :: x :: cs) := by
  have radix : hasRadix ['x', 'X'] ('0' :: x :: cs) = true := by simpa [hasRadix] using letter
  rw [ofMarks, if_pos radix]

/-- In front of its end a hexadecimal numeral holds none of the marks of an end. -/
private theorem holds_hexFront {marks : List Char} (letter : (x == 'x' || x == 'X') = true)
    (run : Run Text.isHexDigit digits) (fraction' : Fraction mayFollowHexPoint Text.isHexDigit fraction)
    (apart : marks.any (fun c => Text.isHexDigit c || c == '_') = false)
    (apart' : marks.any (fun c => Text.isHexDigit c || c == '_' || c == '.') = false)
    (radix : ['0', 'x', 'X'].any marks.contains = false) :
    holds marks ('0' :: x :: (digits ++ fraction)) = false := by
  have letter' : marks.contains x = false :=
    eq_false_of_apart radix (List.mem_cons_of_mem '0' (mem_of_beq_or letter))
  rw [holds_cons, holds_cons, holds_append, eq_false_of_apart radix (by simp), letter',
    holds_eq_false run.all apart, holds_eq_false fraction'.all apart']
  rfl

private theorem ofMarks_hexWhole (letter : (x == 'x' || x == 'X') = true)
    (run : Run Text.isHexDigit digits) (fraction' : Fraction mayFollowHexPoint Text.isHexDigit fraction)
    (suffix' : AtMostOne isLongMark suffix) :
    ofMarks ('0' :: x :: (digits ++ (fraction ++ suffix))) =
      if holds ['l', 'L'] suffix then .long else .int := by
  have split : '0' :: x :: (digits ++ (fraction ++ suffix)) =
      '0' :: x :: (digits ++ fraction) ++ suffix := by
    simp
  have front : holds ['l', 'L'] ('0' :: x :: (digits ++ fraction)) = false :=
    holds_hexFront letter run fraction' (by decide) (by decide) (by decide)
  have exponent : holds ['p', 'P'] ('0' :: x :: (digits ++ fraction) ++ suffix) = false := by
    rw [holds_append, holds_hexFront letter run fraction' (by decide) (by decide) (by decide)]
    rcases long_cases suffix' with rfl | rfl | rfl <;> rfl
  rw [ofMarks_hex letter, split, ofHexMarks, exponent, endsIn_append (endsIn_eq_false front) suffix']
  rfl

private theorem ofMarks_hexExponent {p : Char} {digits' : List Char}
    (letter : (x == 'x' || x == 'X') = true) (marker : (p == 'p' || p == 'P') = true)
    (sign' : AtMostOne isSign sign) (run' : Run Char.isDigit digits')
    (suffix' : AtMostOne isFloatingMark suffix) :
    ofMarks ('0' :: x :: (digits ++ (fraction ++ p :: (sign ++ (digits' ++ suffix))))) =
      if holds ['f', 'F'] suffix then .float else .double := by
  have split : '0' :: x :: (digits ++ (fraction ++ p :: (sign ++ (digits' ++ suffix)))) =
      '0' :: x :: (digits ++ fraction) ++ (p :: (sign ++ digits')) ++ suffix := by
    simp
  have mark : ['p', 'P'].contains p = true := by simpa using marker
  have other : ['f', 'F'].contains p = false := eq_false_of_apart (by decide) (mem_of_beq_or marker)
  have exponent : holds ['p', 'P']
      ('0' :: x :: (digits ++ fraction) ++ (p :: (sign ++ digits')) ++ suffix) = true := by
    simp only [holds_append, holds_cons, mark, Bool.true_or, Bool.or_true]
  -- the digits in front of the exponent may be letters, but they are not the last
  have front : endsIn ['f', 'F']
      ('0' :: x :: (digits ++ fraction) ++ (p :: (sign ++ digits'))) = false := by
    rw [endsIn_append_of_ne_nil (List.cons_ne_nil _ _)]
    apply endsIn_eq_false
    rw [holds_cons, holds_append, other, holds_eq_false sign'.all (by decide),
      holds_eq_false run'.all (by decide)]
    rfl
  rw [ofMarks_hex letter, split, ofHexMarks, exponent, endsIn_append front suffix']
  rfl

private theorem ofMarks_binary (letter : (x == 'b' || x == 'B') = true)
    (run : Run Text.isBinaryDigit digits) (suffix' : AtMostOne isLongMark suffix) :
    ofMarks ('0' :: x :: (digits ++ suffix)) = if holds ['l', 'L'] suffix then .long else .int := by
  have other : hasRadix ['x', 'X'] ('0' :: x :: (digits ++ suffix)) = false := by
    show ['x', 'X'].contains x = false
    exact eq_false_of_apart (by decide) (mem_of_beq_or letter)
  have radix : hasRadix ['b', 'B'] ('0' :: x :: (digits ++ suffix)) = true := by
    simpa [hasRadix] using letter
  have free : holds ['l', 'L'] ('0' :: x :: digits) = false := by
    have letter' : ['l', 'L'].contains x = false :=
      eq_false_of_apart (by decide) (mem_of_beq_or letter)
    rw [holds_cons, holds_cons, letter', holds_eq_false run.all (by decide)]
    rfl
  have last : endsIn ['l', 'L'] ('0' :: x :: digits ++ suffix) = holds ['l', 'L'] suffix :=
    endsIn_append (endsIn_eq_false free) suffix'
  rw [List.cons_append, List.cons_append] at last
  rw [ofMarks, if_neg (by simp [other]), if_pos radix, last]

/-- In front of its suffix a decimal numeral holds none of the marks of a suffix. -/
private theorem holds_decimalFront {marks : List Char} (run : Run Char.isDigit digits)
    (fraction' : Fraction Char.isDigit Char.isDigit fraction) (exponent' : DecimalExponent exponent)
    (apart : marks.any (fun c => c.isDigit || c == '_') = false)
    (apart' : marks.any (fun c => c.isDigit || c == '_' || c == '.') = false)
    (apart'' : marks.any (fun c => c.isDigit || ['_', '+', '-', 'e', 'E'].contains c) = false) :
    holds marks (digits ++ (fraction ++ exponent)) = false := by
  rw [holds_append, holds_append, holds_eq_false run.all apart, holds_eq_false fraction'.all apart',
    holds_eq_false exponent'.all apart'']
  rfl

private theorem hasRadix_decimal (run : Run Char.isDigit digits)
    (fraction' : Fraction Char.isDigit Char.isDigit fraction) (exponent' : DecimalExponent exponent)
    (suffix' : AtMostOne (fun c => isFloatingMark c || isLongMark c) suffix) :
    hasRadix ['x', 'X', 'b', 'B'] (digits ++ (fraction ++ (exponent ++ suffix))) = false := by
  have front : holds ['x', 'X', 'b', 'B'] (digits ++ (fraction ++ exponent)) = false :=
    holds_decimalFront run fraction' exponent' (by decide) (by decide) (by decide)
  have last : holds ['x', 'X', 'b', 'B'] suffix = false := by
    rcases decimal_cases suffix' with rfl | rfl | rfl | rfl | rfl | rfl | rfl <;> rfl
  refine hasRadix_eq_false ?_
  rw [← List.append_assoc fraction, ← List.append_assoc, holds_append, last, front]
  rfl

/-- A decimal numeral holds a point or the marker of an exponent if it has a fraction or an exponent. -/
private theorem holds_point (run : Run Char.isDigit digits)
    (fraction' : Fraction Char.isDigit Char.isDigit fraction) (exponent' : DecimalExponent exponent)
    (suffix' : AtMostOne (fun c => isFloatingMark c || isLongMark c) suffix) :
    holds ['.', 'e', 'E'] (digits ++ (fraction ++ (exponent ++ suffix))) =
      !(fraction ++ exponent).isEmpty := by
  have point : holds ['.', 'e', 'E'] fraction = !fraction.isEmpty := by
    cases fraction' <;> rfl
  have marker : holds ['.', 'e', 'E'] exponent = !exponent.isEmpty := by
    cases exponent' with
    | absent => rfl
    | present marker => rcases Bool.or_eq_true_iff.mp marker with h | h <;> rw [beq_iff_eq.mp h] <;> rfl
  have none : holds ['.', 'e', 'E'] suffix = false := by
    rcases decimal_cases suffix' with rfl | rfl | rfl | rfl | rfl | rfl | rfl <;> rfl
  rw [holds_append, holds_append, holds_append, holds_eq_false run.all (by decide), point, marker, none]
  cases fraction <;> cases exponent <;> rfl

private theorem ofMarks_decimal {cs : List Char}
    (split : cs = digits ++ (fraction ++ (exponent ++ suffix))) (run : Run Char.isDigit digits)
    (fraction' : Fraction Char.isDigit Char.isDigit fraction) (exponent' : DecimalExponent exponent)
    (suffix' : AtMostOne (fun c => isFloatingMark c || isLongMark c) suffix)
    (other : hasRadix ['x', 'X', 'b', 'B'] cs = false) :
    ofMarks cs =
      if holds ['l', 'L'] suffix then .long
      else if holds ['f', 'F'] suffix then .float
      else if holds ['d', 'D'] suffix then .double
      else if (fraction ++ exponent).isEmpty then .int
      else .double := by
  have front : cs = (digits ++ (fraction ++ exponent)) ++ suffix := by rw [split]; simp
  have last : ∀ marks, holds marks (digits ++ (fraction ++ exponent)) = false →
      endsIn marks cs = holds marks suffix := by
    intro marks free
    rw [front, endsIn_append (endsIn_eq_false free) suffix']
  have long := last ['l', 'L']
    (holds_decimalFront run fraction' exponent' (by decide) (by decide) (by decide))
  have float := last ['f', 'F']
    (holds_decimalFront run fraction' exponent' (by decide) (by decide) (by decide))
  have double := last ['d', 'D']
    (holds_decimalFront run fraction' exponent' (by decide) (by decide) (by decide))
  have point : holds ['.', 'e', 'E'] cs = !(fraction ++ exponent).isEmpty := by
    rw [split]
    exact holds_point run fraction' exponent' suffix'
  have hex : hasRadix ['x', 'X'] cs = false := hasRadix_of_subset (by simp) other
  have binary : hasRadix ['b', 'B'] cs = false := hasRadix_of_subset (by simp) other
  rw [ofMarks, hex, binary, ofDecimalMarks, long, float, double, point]
  cases (fraction ++ exponent).isEmpty <;> rfl

end Inferred

/-- **The type of a numeral is what its marks tell.** -/
theorem ofText_eq_ofMarks (spelled : Spelled cs) : ofText cs = ofMarks cs := by
  cases spelled with
  | hex letter form =>
    obtain ⟨digits, _, rfl, run, fraction, tail, rfl, fraction', tail'⟩ := form
    cases tail' with
    | whole suffix =>
      rw [ofText_radix (List.mem_append_left ['b', 'B'] (mem_of_beq_or letter)) run fraction'
          (fun _ part => part) suffix,
        ofMarks_hexWhole letter run fraction' suffix]
    | exponent marker sign run' suffix =>
      rw [ofText_hexExponent letter run fraction' marker sign run' suffix,
        ofMarks_hexExponent letter marker sign run' suffix]
  | binary letter form =>
    obtain ⟨digits, suffix, rfl, run, suffix'⟩ := form
    have none : Fraction Text.isBinaryDigit Text.isBinaryDigit [] := .absent
    have inferred := ofText_radix (List.mem_append_right ['x', 'X'] (mem_of_beq_or letter)) run none
      isHexPart_of_isBinaryPart suffix'
    rw [List.nil_append] at inferred
    rw [inferred, ofMarks_binary letter run suffix']
  | @decimal c cs digit form =>
    obtain ⟨digits, _, split, run, fraction, _, rfl, fraction', exponent, suffix, rfl, exponent',
      suffix'⟩ := form
    have other : hasRadix ['x', 'X', 'b', 'B'] (c :: cs) = false := by
      rw [split]
      exact hasRadix_decimal run fraction' exponent' suffix'
    rw [ofText_decimal digit split run fraction' exponent' suffix',
      ofMarks_decimal split run fraction' exponent' suffix' other]

end Numeral

end Lexis
