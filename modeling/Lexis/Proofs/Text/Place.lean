import Lexis.Proofs.Text.Line
import Lexis.Proofs.Text.Slice

/-!
# Lines and the places in them

The lines of a text are cut at its line ends and nowhere else (`Text.lined_lines`). A byte offset is looked
up among them: there is a place for every offset up to the end of the text and for none behind it, and its
line is the one that the offset falls into, where the end of the text falls into the last line
(`Place.looksUp`).

An offset need not be that of a character: it may fall between the two characters of one line end, or
between the bytes of one character.
-/

set_option autoImplicit false

namespace Lexis

namespace Text

/-! ## Lines -/

/-- **What ends a line** in front of the rest of a text. Only the last line may be without an end, and a
carriage return is one on its own only where no line feed follows. -/
inductive LineEnding (rest : List Char) : List Char → Prop
  | feed : LineEnding rest ['\n']
  | carriage : rest.head? ≠ some '\n' → LineEnding rest ['\r']
  | pair : LineEnding rest ['\r', '\n']
  | missing : rest = [] → LineEnding rest []

/-- **A text and its lines**: none is empty, and each holds no line end but the one that it ends with. -/
inductive Lined : List Char → List (List Char) → Prop
  | nil : Lined [] []
  | cons (body ending : List Char) {rest : List Char} {lines : List (List Char)} :
      (∀ c ∈ body, isLineBreak c = false) → LineEnding rest ending → body ++ ending ≠ [] →
      Lined rest lines → Lined (body ++ ending ++ rest) ((body ++ ending) :: lines)

namespace Lined

/-- Lines are the text that they are the lines of. -/
theorem flatten_eq {text : List Char} {lines : List (List Char)} (lined : Lined text lines) :
    lines.flatten = text := by
  induction lined with
  | nil => rfl
  | cons _ _ _ _ _ _ ih => rw [List.flatten_cons, ih]

/-- A line is made of characters that are no line ends and then of such that are. -/
theorem exists_body {text line : List Char} {lines : List (List Char)} (lined : Lined text lines)
    (member : line ∈ lines) : ∃ body ending, line = body ++ ending ∧
      (∀ c ∈ body, isLineBreak c = false) ∧ ∀ c ∈ ending, isLineBreak c = true := by
  induction lined with
  | nil => cases member
  | cons body ending free ends _ _ ih =>
    rcases List.mem_cons.mp member with rfl | member
    · refine ⟨body, ending, rfl, free, ?_⟩
      cases ends <;> simp [isLineBreak]
    · exact ih member

/-- What stands behind the first line has the other lines. -/
theorem tail {line text : List Char} {lines : List (List Char)}
    (lined : Lined (line ++ text) (line :: lines)) : Lined text lines := by
  generalize whole : line ++ text = all at lined
  cases lined with
  | cons _ _ _ _ _ lined => exact List.append_cancel_left whole ▸ lined

/-- A character that ends no line makes the first line longer, or is the only line. -/
theorem plain {c : Char} {text : List Char} (plain : isLineBreak c = false)
    (lined : Lined text (lines text)) : Lined (c :: text) (lines (c :: text)) := by
  generalize cut : lines text = ls at lined
  cases lined with
  | nil =>
    obtain ⟨feed, carriage⟩ : c ≠ '\n' ∧ c ≠ '\r' := by simpa [isLineBreak] using plain
    have alone : lines [c] = [[c]] := by simp [lines, prependToLines, feed, carriage]
    rw [alone]
    exact .cons [c] [] (by simpa using plain) (.missing rfl) (by simp) .nil
  | cons body ending free ends _ lined =>
    rw [lines_plain plain cut]
    exact .cons (c :: body) ending (by simpa [plain] using free) ends (by simp) lined

end Lined

/-- **The lines of a text are as they should be.** -/
theorem lined_lines (text : List Char) : Lined text (lines text) := by
  induction text with
  | nil => exact .nil
  | cons c text ih =>
    cases breaks : isLineBreak c with
    | false => exact ih.plain breaks
    | true =>
      cases ends : endsLine c text with
      | true =>
        rw [lines_ended ends]
        refine .cons [] [c] (by simp) ?_ (by simp) ih
        simp only [endsLine, Bool.or_eq_true, Bool.and_eq_true, beq_iff_eq, bne_iff_ne] at ends
        rcases ends with rfl | ⟨rfl, apart⟩
        · exact .feed
        · exact .carriage apart
      | false =>
        -- the line feed behind is a line of its own there, and joins the carriage return
        obtain ⟨rfl, pair⟩ := eq_carriage_of_not_endsLine breaks ends
        obtain ⟨text, rfl⟩ := List.head?_eq_some_iff.mp pair
        have feed : Lined (['\n'] ++ text) (['\n'] :: lines text) := ih
        exact .cons [] ['\r', '\n'] (by simp) .pair (by simp) feed.tail

end Text

namespace Place

open Text

/-! ## Places -/

/-- **The place of an offset in a text**: the number of a line, the line, and the bytes of it in front of
the offset. These are all of the line only where the offset is the end of the text, which falls into the
last line. -/
inductive PlaceOf (text : List Char) (offset : Nat) : Place → Prop
  | empty : text = [] → offset = 0 → PlaceOf text offset ⟨1, [], 0⟩
  | line {before behind : List (List Char)} {line : List Char} {within : Nat} :
      lines text = before ++ line :: behind → byteLength before.flatten + within = offset →
      (offset ≠ byteLength text → within < byteLength line) →
      (offset = byteLength text → behind = []) →
      PlaceOf text offset ⟨before.length + 1, line, within⟩

/-- **Offsets are looked up in a text** as its lines call for. -/
structure LooksUp (text : List Char) : Prop where
  lined : Lined text (lines text)
  absent : ∀ offset, at? text offset = none ↔ byteLength text < offset
  placed : ∀ offset place, at? text offset = some place ↔ PlaceOf text offset place
  monotone : ∀ offset offset' place place', offset ≤ offset' → at? text offset = some place →
    at? text offset' = some place' → place.number ≤ place'.number

/-- An offset lies in a line, or at its end if no line is behind it. -/
def Within (offset : Nat) (line : List Char) (behind : List (List Char)) : Prop :=
  offset < byteLength line ∨ behind = [] ∧ offset = byteLength line

/-- An offset that is not behind the last line lies in one of the lines. -/
theorem exists_within {ls : List (List Char)} {offset : Nat} (some : ls ≠ [])
    (le : offset ≤ byteLength ls.flatten) : ∃ before line behind within,
      ls = before ++ line :: behind ∧ byteLength before.flatten + within = offset ∧
        Within within line behind := by
  induction ls generalizing offset with
  | nil => exact absurd rfl some
  | cons line ls ih =>
    rw [List.flatten_cons, byteLength_append] at le
    rcases Nat.lt_or_ge offset (byteLength line) with inside | outside
    · exact ⟨[], line, ls, offset, rfl, by simp, .inl inside⟩
    · rcases eq_or_ne ls [] with rfl | more
      · refine ⟨[], line, [], offset, rfl, by simp, .inr ⟨rfl, ?_⟩⟩
        simp at le
        omega
      · obtain ⟨before, line', behind, within, rfl, bytes, lies⟩ :=
          @ih (offset - byteLength line) more (by omega)
        refine ⟨line :: before, line', behind, within, rfl, ?_, lies⟩
        rw [List.flatten_cons, byteLength_append]
        omega

/-- **The line that an offset lies in is found.** -/
theorem inLines?_within {before behind : List (List Char)} {line : List Char} {within : Nat}
    (number : Nat) (lies : Within within line behind) :
    inLines? number (before ++ line :: behind) (byteLength before.flatten + within) =
      some ⟨number + before.length, line, within⟩ := by
  induction before generalizing number with
  | nil =>
    rw [List.nil_append, List.flatten_nil, byteLength_nil, Nat.zero_add]
    rcases lies with inside | ⟨rfl, rfl⟩
    · exact inLines?_first behind inside
    · rw [inLines?, if_pos (Nat.le_refl _)]
      rfl
  | cons first before ih =>
    rw [List.cons_append, List.flatten_cons, byteLength_append, Nat.add_assoc,
      inLines?_behind number first _ (by simp), ih, List.length_cons]
    congr 2
    omega

/-- No line is found for an offset behind the last. -/
theorem inLines?_eq_none {ls : List (List Char)} {offset : Nat} (number : Nat)
    (outside : byteLength ls.flatten < offset) : inLines? number ls offset = none := by
  induction ls generalizing number offset with
  | nil =>
    have zero : 0 < offset := outside
    rw [inLines?, if_neg (by omega)]
  | cons line ls ih =>
    rw [List.flatten_cons, byteLength_append] at outside
    rcases eq_or_ne ls [] with rfl | more
    · rw [inLines?, if_neg (by omega)]
    · obtain ⟨rest, rfl⟩ := Nat.exists_eq_add_of_le (show byteLength line ≤ offset by omega)
      rw [inLines?_behind number line rest more]
      exact ih (number + 1) (by omega)

section PlaceOf

variable {text : List Char} {offset : Nat}

theorem at?_eq_none (outside : byteLength text < offset) : at? text offset = none := by
  rw [← (lined_lines text).flatten_eq] at outside
  exact inLines?_eq_none 1 outside

/-- Of the two ways to say that an offset lies in a line, one speaks of the end of the text. -/
theorem within_iff {before behind : List (List Char)} {line : List Char} {within : Nat}
    (split : lines text = before ++ line :: behind) (bytes : byteLength before.flatten + within = offset) :
    Within within line behind ↔ (offset ≠ byteLength text → within < byteLength line) ∧
      (offset = byteLength text → behind = []) := by
  have whole : byteLength text = byteLength before.flatten + (byteLength line + byteLength behind.flatten) := by
    rw [← (lined_lines text).flatten_eq, split]
    simp
  constructor
  · rintro (inside | ⟨rfl, ends⟩)
    · refine ⟨fun _ => inside, fun ends => ?_⟩
      omega
    · simp at whole
      exact ⟨fun apart => absurd (by omega) apart, fun _ => rfl⟩
  · rintro ⟨inside, last⟩
    rcases eq_or_ne offset (byteLength text) with ends | apart
    · obtain rfl := last ends
      simp at whole
      exact .inr ⟨rfl, by omega⟩
    · exact .inl (inside apart)

/-- There is a place for every offset up to the end of the text. -/
theorem exists_placeOf (le : offset ≤ byteLength text) : ∃ place, PlaceOf text offset place := by
  rcases eq_or_ne text [] with rfl | more
  · exact ⟨_, .empty rfl (Nat.le_zero.mp le)⟩
  · rw [← (lined_lines text).flatten_eq] at le
    obtain ⟨before, line, behind, within, split, bytes, lies⟩ := exists_within (lines_ne_nil more) le
    obtain ⟨inside, last⟩ := (within_iff split bytes).mp lies
    exact ⟨_, .line split bytes inside last⟩

/-- **The place of an offset is found.** -/
theorem PlaceOf.at?_eq {place : Place} (found : PlaceOf text offset place) :
    at? text offset = some place := by
  cases found with
  | empty none zero =>
    subst none zero
    rfl
  | line split bytes inside last =>
    have lies := (within_iff split bytes).mpr ⟨inside, last⟩
    rw [at?, split, ← bytes, inLines?_within 1 lies, Nat.add_comm]

/-- **A place that is found is the one of the offset.** -/
theorem at?_eq_some_iff {place : Place} : at? text offset = some place ↔ PlaceOf text offset place := by
  refine ⟨fun found => ?_, PlaceOf.at?_eq⟩
  rcases Nat.lt_or_ge (byteLength text) offset with outside | le
  · rw [at?_eq_none outside] at found
    cases found
  · obtain ⟨place', placed⟩ := exists_placeOf le
    obtain rfl := Option.some.inj (placed.at?_eq.symm.trans found)
    exact placed

theorem at?_eq_none_iff : at? text offset = none ↔ byteLength text < offset := by
  refine ⟨fun none => ?_, at?_eq_none⟩
  by_contra inside
  obtain ⟨place, placed⟩ := exists_placeOf (Nat.le_of_not_lt inside)
  rw [placed.at?_eq] at none
  cases none

end PlaceOf

/-- A later offset is not in an earlier line. -/
theorem PlaceOf.number_le {text : List Char} {offset offset' : Nat} {place place' : Place}
    (placed : PlaceOf text offset place) (placed' : PlaceOf text offset' place') (le : offset ≤ offset') :
    place.number ≤ place'.number := by
  cases placed with
  | empty none _ =>
    cases placed' with
    | empty => exact Nat.le_refl _
    | line => exact Nat.succ_le_succ (Nat.zero_le _)
  | @line before behind line within split bytes _ _ =>
    cases placed' with
    | empty none _ =>
      subst none
      simp [lines] at split
    | @line before' behind' line' within' split' bytes' inside' last' =>
      rcases List.append_eq_append_iff.mp (split.symm.trans split') with
        ⟨between, rfl, -⟩ | ⟨between, rfl, behind_eq⟩
      · simp
      · cases between with
        | nil => simp
        | cons first between =>
          -- all of the other line is in front of the offset, and the other offset lies in it
          obtain ⟨rfl, rfl⟩ := List.cons.inj behind_eq
          have more : offset' ≠ byteLength text := fun ends => by simpa using last' ends
          have inside := inside' more
          simp only [List.flatten_append, List.flatten_cons, byteLength_append] at bytes
          omega

/-- **The place of a character** lies in the line that the character stands in. -/
theorem PlaceOf.exists_line {front rest : List Char} {c : Char} {place : Place}
    (placed : PlaceOf (front ++ c :: rest) (byteLength front) place) :
    ∃ before behind, place.line = before ++ c :: behind ∧ byteLength before = place.offset ∧
      place.line ∈ lines (front ++ c :: rest) := by
  have size := c.utf8Size_pos
  have inText : byteLength front ≠ byteLength (front ++ c :: rest) := by
    rw [byteLength_append, byteLength_cons]
    omega
  cases placed with
  | empty none _ => simp at none
  | @line earlier later line within split bytes inside _ =>
    have shorter := inside inText
    have member : line ∈ lines (front ++ c :: rest) := by
      rw [split]
      exact List.mem_append_right _ (List.mem_cons_self ..)
    have whole : earlier.flatten ++ (line ++ later.flatten) = front ++ c :: rest := by
      rw [← (lined_lines (front ++ c :: rest)).flatten_eq, split]
      simp
    obtain ⟨before, rfl, split'⟩ := exists_append_of_byteLength_le whole (by omega)
    have same : byteLength before = within := by
      rw [byteLength_append] at bytes
      omega
    obtain ⟨more, rfl, split''⟩ := exists_append_of_byteLength_le split'.symm (by omega)
    cases more with
    | nil => simp [same] at shorter
    | cons d behind =>
      obtain ⟨rfl, -⟩ := List.cons.inj split''
      exact ⟨before, behind, rfl, same, member⟩

/-- **Offsets are looked up among the lines of a text.** -/
theorem looksUp (text : List Char) : LooksUp text where
  lined := lined_lines text
  absent _ := at?_eq_none_iff
  placed _ _ := at?_eq_some_iff
  monotone _ _ _ _ le found found' := (at?_eq_some_iff.mp found).number_le (at?_eq_some_iff.mp found') le

example : at? ['a', '\r', '\n', 'b'] 2 = some ⟨1, ['a', '\r', '\n'], 2⟩ := by decide

end Place

end Lexis
