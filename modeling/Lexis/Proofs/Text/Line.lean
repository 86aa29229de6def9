import Lexis.Text.Line
import Mathlib.Data.List.Basic

/-!
# Counting lines

The number of the line in which a text goes on is found without its lines: count the line ends in front.
A carriage return directly in front of a line feed is none of its own, and the line feed may be the first
character of what follows. `endedLines` counts in this way, and `Place.number_at?_append` says that places
do.
-/

set_option autoImplicit false

namespace Lexis

namespace Text

/-- Whether a character ends a line in front of a text. -/
def endsLine (c : Char) (behind : List Char) : Bool :=
  c == '\n' || c == '\r' && behind.head? != some '\n'

/-- The number of lines that end inside a text in front of another. -/
def endedLines : List Char → List Char → Nat
  | [], _ => 0
  | c :: cs, behind => (endsLine c (cs ++ behind)).toNat + endedLines cs behind

theorem endedLines_append (front back behind : List Char) :
    endedLines (front ++ back) behind = endedLines front (back ++ behind) + endedLines back behind := by
  induction front with
  | nil => simp [endedLines]
  | cons c front ih => rw [List.cons_append, endedLines, ih, endedLines, List.append_assoc, Nat.add_assoc]

/-- A line end that ends no line is a carriage return whose line feed follows. -/
theorem eq_carriage_of_not_endsLine {c : Char} {behind : List Char} (breaks : isLineBreak c = true)
    (open' : endsLine c behind = false) : c = '\r' ∧ behind.head? = some '\n' := by
  simp only [isLineBreak, Bool.or_eq_true, beq_iff_eq] at breaks
  rcases breaks with rfl | rfl
  · simp [endsLine] at open'
  · exact ⟨rfl, by simpa [endsLine] using open'⟩

theorem endsLine_eq_false {c : Char} (plain : isLineBreak c = false) (behind : List Char) :
    endsLine c behind = false := by
  obtain ⟨feed, carriage⟩ : c ≠ '\n' ∧ c ≠ '\r' := by simpa [isLineBreak] using plain
  simp [endsLine, feed, carriage]

/-- **A text ends a line if it holds a line end**, unless this is a carriage return whose line feed
follows the text. -/
theorem endedLines_pos_iff {cs behind : List Char} (apart : behind.head? ≠ some '\n') :
    0 < endedLines cs behind ↔ cs.any isLineBreak = true := by
  induction cs with
  | nil => simp [endedLines]
  | cons c cs ih =>
    rw [endedLines, List.any_cons, Bool.or_eq_true, ← ih]
    cases breaks : isLineBreak c with
    | false => simp [endsLine_eq_false breaks]
    | true =>
      refine iff_of_true ?_ (.inl rfl)
      cases ends : endsLine c (cs ++ behind) with
      | true => exact Nat.add_pos_left Nat.one_pos _
      | false =>
        -- the line feed is not the first character behind, so it stands in the text
        obtain ⟨rfl, pair⟩ := eq_carriage_of_not_endsLine breaks ends
        cases cs with
        | nil => exact absurd pair apart
        | cons d cs =>
          obtain rfl : d = '\n' := by simpa using pair
          have counted : 0 < endedLines ('\n' :: cs) behind := Nat.add_pos_left Nat.one_pos _
          exact Nat.add_pos_right _ counted

/-! ## The first line -/

/-- The first line begins with the first character. -/
theorem exists_lines_cons (c : Char) (cs : List Char) :
    ∃ line rest, lines (c :: cs) = (c :: line) :: rest := by
  show ∃ line rest, prependToLines c (lines cs) = (c :: line) :: rest
  unfold prependToLines
  split
  · exact ⟨_, _, rfl⟩
  · split
    · split <;> exact ⟨_, _, rfl⟩
    · split <;> exact ⟨_, _, rfl⟩

theorem lines_ne_nil {cs : List Char} (more : cs ≠ []) : lines cs ≠ [] := by
  obtain ⟨c, cs, rfl⟩ := List.exists_cons_of_ne_nil more
  obtain ⟨line, rest, first⟩ := exists_lines_cons c cs
  simp [first]

theorem lines_pair (cs : List Char) : lines ('\r' :: '\n' :: cs) = ['\r', '\n'] :: lines cs := rfl

/-- A character that ends a line is a first line of its own. -/
theorem lines_ended {c : Char} {cs : List Char} (ends : endsLine c cs = true) :
    lines (c :: cs) = [c] :: lines cs := by
  simp only [endsLine, Bool.or_eq_true, Bool.and_eq_true, beq_iff_eq, bne_iff_ne] at ends
  rcases ends with rfl | ⟨rfl, apart⟩
  · rfl
  · show prependToLines '\r' (lines cs) = ['\r'] :: lines cs
    simp only [prependToLines, Char.reduceEq, if_false, if_true]
    split
    · next rest first =>
      cases cs with
      | nil => cases first
      | cons c cs =>
        obtain ⟨line, rest', begins⟩ := exists_lines_cons c cs
        rw [begins] at first
        obtain ⟨rfl, -⟩ := List.cons.inj (List.cons.inj first).1
        exact absurd rfl apart
    · rfl

/-- A character that is no line end makes the first line longer. -/
theorem lines_plain {c : Char} {cs line : List Char} {rest : List (List Char)}
    (plain : isLineBreak c = false) (first : lines cs = line :: rest) :
    lines (c :: cs) = (c :: line) :: rest := by
  obtain ⟨feed, carriage⟩ : c ≠ '\n' ∧ c ≠ '\r' := by simpa [isLineBreak] using plain
  show prependToLines c (lines cs) = (c :: line) :: rest
  simp only [prependToLines, feed, carriage, if_false, first]

end Text

namespace Place

open Text

/-! ## Places among lines -/

/-- An offset inside the first line. -/
theorem inLines?_first {number offset : Nat} {line : List Char} (rest : List (List Char))
    (inside : offset < byteLength line) :
    inLines? number (line :: rest) offset = some ⟨number, line, offset⟩ := by
  cases rest with
  | nil => rw [inLines?, if_pos (Nat.le_of_lt inside)]
  | cons next rest => rw [inLines?, if_pos inside]

/-- An offset behind the first line. -/
theorem inLines?_behind (number : Nat) (line : List Char) (offset : Nat) {rest : List (List Char)}
    (more : rest ≠ []) :
    inLines? number (line :: rest) (byteLength line + offset) = inLines? (number + 1) rest offset := by
  obtain ⟨next, rest, rfl⟩ := List.exists_cons_of_ne_nil more
  rw [inLines?, if_neg (by omega), Nat.add_sub_cancel_left]

theorem inLines?_later (number : Nat) (line front : List Char) {rest : List (List Char)}
    (more : rest ≠ []) :
    inLines? number (line :: rest) (byteLength (line ++ front)) =
      inLines? (number + 1) rest (byteLength front) := by
  rw [byteLength_append, inLines?_behind number line _ more]

/-- A longer first line leaves the numbers of places as they are. -/
theorem number_inLines?_longer {number offset : Nat} {line : List Char} {rest : List (List Char)}
    {place : Place} (c : Char) (found : inLines? number (line :: rest) offset = some place) :
    ∃ place', inLines? number ((c :: line) :: rest) (c.utf8Size + offset) = some place' ∧
      place'.number = place.number := by
  have size : byteLength (c :: line) = c.utf8Size + byteLength line := byteLength_cons c line
  cases rest with
  | nil =>
    rw [inLines?] at found ⊢
    split at found
    · cases found
      exact ⟨_, if_pos (by omega), rfl⟩
    · cases found
  | cons next rest =>
    rw [inLines?] at found ⊢
    split at found
    · cases found
      exact ⟨_, if_pos (by omega), rfl⟩
    · have same : c.utf8Size + offset - byteLength (c :: line) = offset - byteLength line := by omega
      rw [if_neg (by omega), same]
      exact ⟨place, found, rfl⟩

/-! ## The number of a place -/

/-- Behind the front of a text, lines are counted by the line ends of the front. -/
private def Counted (front behind : List Char) : Prop :=
  ∀ number, ∃ place, inLines? number (lines (front ++ behind)) (byteLength front) = some place ∧
    place.number = number + endedLines front behind

section Counted

variable {front behind : List Char}

private theorem counted_nil (more : behind ≠ []) : Counted [] behind := by
  intro number
  obtain ⟨c, behind, rfl⟩ := List.exists_cons_of_ne_nil more
  obtain ⟨line, rest, first⟩ := exists_lines_cons c behind
  have inside : 0 < byteLength (c :: line) := by
    have := c.utf8Size_pos
    rw [byteLength_cons]
    omega
  rw [List.nil_append, first]
  exact ⟨_, inLines?_first rest inside, rfl⟩

private theorem counted_ended {c : Char} (more : behind ≠ []) (ends : endsLine c (front ++ behind) = true)
    (rest : Counted front behind) : Counted (c :: front) behind := by
  intro number
  obtain ⟨place, found, counted⟩ := rest (number + 1)
  have others : lines (front ++ behind) ≠ [] := lines_ne_nil (by simp [more])
  refine ⟨place, ?_, ?_⟩
  · rw [List.cons_append, lines_ended ends]
    exact (inLines?_later number [c] front others).trans found
  · rw [counted, endedLines, ends, Bool.toNat_true, Nat.add_assoc]

private theorem counted_plain {c : Char} (more : behind ≠ []) (plain : isLineBreak c = false)
    (rest : Counted front behind) : Counted (c :: front) behind := by
  intro number
  obtain ⟨place, found, counted⟩ := rest number
  have some : lines (front ++ behind) ≠ [] := lines_ne_nil (by simp [more])
  obtain ⟨line, others, first⟩ := List.exists_cons_of_ne_nil some
  rw [first] at found
  obtain ⟨place', found', same⟩ := number_inLines?_longer c found
  refine ⟨place', ?_, ?_⟩
  · rw [List.cons_append, lines_plain plain first, byteLength_cons]
    exact found'
  · rw [same, counted, endedLines, endsLine_eq_false plain, Bool.toNat_false, Nat.zero_add]

/-- Between the two characters of one line end, a text goes on in the line that they end. -/
private theorem counted_carriage (behind : List Char) : Counted ['\r'] ('\n' :: behind) := by
  intro number
  exact ⟨_, inLines?_first (lines behind) (by decide), rfl⟩

private theorem counted_pair (more : behind ≠ []) (rest : Counted ('\n' :: front) behind) :
    Counted ('\r' :: '\n' :: front) behind := by
  intro number
  obtain ⟨place, found, counted⟩ := rest number
  have others : lines (front ++ behind) ≠ [] := lines_ne_nil (by simp [more])
  have feed := inLines?_later number ['\n'] front others
  have pair := inLines?_later number ['\r', '\n'] front others
  refine ⟨place, ?_, by rw [counted]; simp [endedLines, endsLine]⟩
  rw [List.cons_append, List.cons_append, lines_pair]
  exact pair.trans (feed.symm.trans found)

private theorem counted (more : behind ≠ []) : Counted front behind := by
  induction front with
  | nil => exact counted_nil more
  | cons c front ih =>
    cases breaks : isLineBreak c with
    | false => exact counted_plain more breaks ih
    | true =>
      cases ends : endsLine c (front ++ behind) with
      | true => exact counted_ended more ends ih
      | false =>
        obtain ⟨rfl, pair⟩ := eq_carriage_of_not_endsLine breaks ends
        cases front with
        | nil =>
          obtain ⟨behind, rfl⟩ := List.head?_eq_some_iff.mp pair
          exact counted_carriage behind
        | cons d front =>
          obtain rfl : d = '\n' := by simpa using pair
          exact counted_pair more ih

end Counted

/-- **A text goes on in the line whose number is one more than that of the lines that end in front.** -/
theorem number_at?_append (front behind : List Char) (more : behind ≠ []) :
    ∃ place, at? (front ++ behind) (byteLength front) = some place ∧
      place.number = 1 + endedLines front behind :=
  counted more 1

end Place

end Lexis
