/-!
# Digits

The digits of ASCII by their base. A decimal digit is what core calls a digit.
-/

set_option autoImplicit false

namespace Lexis.Text

/-- A digit of base sixteen, in either case. -/
def isHexDigit (c : Char) : Bool :=
  c.isDigit || ('a' ≤ c && c ≤ 'f') || ('A' ≤ c && c ≤ 'F')

/-- A digit of base eight. -/
def isOctalDigit (c : Char) : Bool := '0' ≤ c && c ≤ '7'

/-- A digit of base two. -/
def isBinaryDigit (c : Char) : Bool := c == '0' || c == '1'

/-- The value of a digit of base sixteen or below. -/
def digitValue (c : Char) : Nat :=
  if c.isDigit then c.toNat - '0'.toNat
  else if c.isLower then c.toNat - 'a'.toNat + 10
  else c.toNat - 'A'.toNat + 10

/-- The number that digits of a base spell, the most significant first. They are halved so many times
before they are read one by one, which keeps the factors of the products of like size. -/
def ofHalvedDigits (base : Nat) : (halvings : Nat) → List Char → Nat
  | 0, digits => digits.foldl (fun n c => n * base + digitValue c) 0
  | halvings + 1, digits =>
    let low := digits.length / 2
    let high := digits.length - low
    ofHalvedDigits base halvings (digits.take high) * Nat.pow base low +
      ofHalvedDigits base halvings (digits.drop high)

/-- The number that digits of a base spell, the most significant first. -/
def ofDigits (base : Nat) (digits : List Char) : Nat :=
  ofHalvedDigits base (Nat.log2 digits.length - 5) digits

theorem foldl_digits (base n : Nat) (digits : List Char) :
    digits.foldl (fun n c => n * base + digitValue c) n =
      n * Nat.pow base digits.length + digits.foldl (fun n c => n * base + digitValue c) 0 := by
  induction digits generalizing n with
  | nil => simp
  | cons c digits ih =>
    rw [List.foldl_cons, ih, List.foldl_cons, ih (0 * base + digitValue c), List.length_cons]
    simp only [Nat.pow_succ, Nat.add_mul, Nat.pow_eq, Nat.zero_mul, Nat.zero_add]
    rw [Nat.mul_assoc, Nat.mul_comm base, Nat.add_assoc]

theorem ofHalvedDigits_eq_foldl (base halvings : Nat) (digits : List Char) :
    ofHalvedDigits base halvings digits =
      digits.foldl (fun n c => n * base + digitValue c) 0 := by
  induction halvings generalizing digits with
  | zero => rfl
  | succ halvings ih =>
    simp only [ofHalvedDigits, ih]
    conv => rhs; rw [← List.take_append_drop (digits.length - digits.length / 2) digits]
    rw [List.foldl_append, foldl_digits base (List.foldl _ 0 _)]
    have : (digits.drop (digits.length - digits.length / 2)).length = digits.length / 2 := by
      rw [List.length_drop]; omega
    rw [this]

/-- However often they are halved, digits spell the number that is read one by one. -/
theorem ofDigits_eq_foldl (base : Nat) (digits : List Char) :
    ofDigits base digits = digits.foldl (fun n c => n * base + digitValue c) 0 :=
  ofHalvedDigits_eq_foldl base _ digits

end Lexis.Text
