/-!
# Measures of the front of a text

A *munch* says how many characters some form takes at the front of a text, 0 when the form does not
begin there. Numerals, comments and quoted literals are put together from four of them: one character
of a class, a fixed word, one form after another, and a form as often as it comes. Every form here is
greedy, so a munch needs no look at what it was followed by elsewhere.
-/

set_option autoImplicit false

namespace Lexis

/-- The number of characters that a form takes at the front of a text. -/
abbrev Munch := List Char → Nat

namespace Munch

/-- One character of a class. -/
def one (p : Char → Bool) : Munch
  | c :: _ => if p c then 1 else 0
  | [] => 0

/-- All characters of a class that stand together at the front. -/
def run (p : Char → Bool) : Munch := fun cs => (cs.takeWhile p).length

/-- A fixed word. -/
def word (w : List Char) : Munch := fun cs => if w.isPrefixOf cs then w.length else 0

/-- One form and then another, either of which may be absent. -/
def andThen (first second : Munch) : Munch := fun cs =>
  let n := first cs
  n + second (cs.drop n)

/-- The first form, or the second where the first does not begin. -/
def orElse (first second : Munch) : Munch := fun cs =>
  match first cs with
  | 0 => second cs
  | n + 1 => n + 1

/-- A form as often as it comes. -/
def many (item : Munch) : Munch := fun cs => go 0 cs
where
  /-- Counts on from the characters already taken. -/
  go (taken : Nat) : List Char → Nat
    | [] => taken
    | c :: cs =>
      match item (c :: cs) with
      | 0 => taken
      | n + 1 => go (taken + (n + 1)) (cs.drop n)
  termination_by cs => cs.length
  decreasing_by simp only [List.length_drop, List.length_cons]; omega

private theorem many_go (item : Munch) (taken : Nat) (cs : List Char) :
    many.go item taken cs = taken + many.go item 0 cs := by
  induction h : cs.length using Nat.strongRecOn generalizing taken cs with
  | _ len ih =>
    cases cs with
    | nil => simp [many.go]
    | cons c cs =>
      rw [many.go, many.go]
      cases item (c :: cs) with
      | zero => rfl
      | succ n =>
        have shorter : (cs.drop n).length < len := by
          simp only [List.length_drop, List.length_cons] at h ⊢
          omega
        simp only
        rw [ih _ shorter (taken + (n + 1)) _ rfl, ih _ shorter (0 + (n + 1)) _ rfl]
        omega

@[simp] theorem many_nil (item : Munch) : many item [] = 0 := by
  simp [many, many.go]

/-- **Repetition unfolds once.** It stops where the form does not begin, and otherwise goes on behind
one occurrence. -/
theorem many_cons (item : Munch) (c : Char) (cs : List Char) :
    many item (c :: cs) =
      match item (c :: cs) with
      | 0 => 0
      | n + 1 => (n + 1) + many item (cs.drop n) := by
  unfold many
  rw [many.go]
  cases item (c :: cs) with
  | zero => rfl
  | succ n =>
    simp only
    rw [many_go]
    omega

theorem run_pos {p : Char → Bool} {c : Char} (cs : List Char) (holds : p c = true) :
    0 < run p (c :: cs) := by
  simp [run, holds]

theorem many_pos {item : Munch} {c : Char} (cs : List Char) (begins : 0 < item (c :: cs)) :
    0 < many item (c :: cs) := by
  rw [many_cons]
  cases h : item (c :: cs) with
  | zero => rw [h] at begins; exact absurd begins (Nat.lt_irrefl 0)
  | succ n => simp only; omega

end Munch

end Lexis
