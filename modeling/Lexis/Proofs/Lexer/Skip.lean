import Lexis.Lexer
import Lexis.Proofs.Scan.Trivia

/-!
# What is skipped in front of a token

Trivia is a row of items, and which items there are is said without the scan: a blank, a line end, a
comment to the end of its line, a comment as far as the first mark that closes it, or as far as the end of
the text. The scan skips such a row, and behind it no item begins (`Lexer.skips`); there is one row of this
kind only.

Each item knows by itself whether it ends a line: a comment to the end of its line does not, and a comment
between marks does if it holds a line end. The lexer flags the next token by the characters that it has
skipped. It comes to the same, since an item holds a line end just when it ends a line (`Item.ends_eq`).
-/

set_option autoImplicit false

namespace Lexis

namespace Trivia

/-- **An item of trivia** in front of a text, and whether it ends a line. -/
inductive Item : List Char → Bool → List Char → Prop
  | blank {c : Char} {rest : List Char} : isBlank c = true → Item [c] false rest
  | lineBreak {c : Char} {rest : List Char} : Text.isLineBreak c = true → Item [c] true rest
  | pair {rest : List Char} : Item ['\r', '\n'] true rest
  | lineComment {body rest : List Char} :
      (∀ c ∈ body, Text.isLineBreak c = false) → rest.head?.all Text.isLineBreak = true →
      Item ('/' :: '/' :: body) false rest
  | blockComment {body rest : List Char} :
      Inside body → Item ('/' :: '*' :: (body ++ ['*', '/'])) (body.any Text.isLineBreak) rest
  | openComment {body : List Char} :
      Inside body → Item ('/' :: '*' :: body) (body.any Text.isLineBreak) []

/-- Items of trivia one behind the other, in front of a text, and whether one of them ends a line. -/
inductive Items : List Char → Bool → List Char → Prop
  | nil {rest : List Char} : Items [] false rest
  | cons {x gap rest : List Char} {ends more : Bool} :
      Item x ends (gap ++ rest) → Items gap more rest → Items (x ++ gap) (ends || more) rest

/-- A text that begins with no item of trivia. -/
def Free (cs : List Char) : Prop :=
  ∀ x ends behind, cs = x ++ behind → ¬ Item x ends behind

/-- **What is skipped in front of a text**: items of trivia, behind which none begins. -/
structure Skips (gap : List Char) (ends : Bool) (rest : List Char) : Prop where
  items : Items gap ends rest
  free : Free rest

variable {x gap rest : List Char} {ends : Bool}

/-! ## Line ends -/

theorem Item.ends_eq (item : Item x ends rest) : ends = x.any Text.isLineBreak := by
  cases item with
  | blank blank =>
    simp only [isBlank, Bool.or_eq_true, beq_iff_eq] at blank
    rcases blank with ((rfl | rfl) | rfl) | rfl <;> rfl
  | lineBreak breaks => simp [breaks]
  | pair => rfl
  | lineComment line _ =>
    have none : ∀ c ∈ '/' :: '/' :: _, Text.isLineBreak c = false :=
      List.forall_mem_cons.mpr ⟨by decide, List.forall_mem_cons.mpr ⟨by decide, line⟩⟩
    symm
    simpa using none
  | blockComment _ =>
    have marks : ['*', '/'].any Text.isLineBreak = false := by decide
    have opening : ∀ cs : List Char, ('/' :: '*' :: cs).any Text.isLineBreak = cs.any Text.isLineBreak :=
      fun _ => rfl
    rw [opening, List.any_append, marks, Bool.or_false]
  | openComment _ => rfl

/-- **A row of items ends a line if it holds a line end.** -/
theorem Items.ends_eq (items : Items gap ends rest) : ends = gap.any Text.isLineBreak := by
  induction items with
  | nil => rfl
  | cons item _ ih => rw [List.any_append, ← item.ends_eq, ← ih]

/-! ## What the scan takes -/

theorem Item.before (item : Item x ends (gap ++ rest)) (before : Before gap rest) :
    Before (x ++ gap) rest := by
  generalize behind : gap ++ rest = all at item
  cases item with
  | blank blank => exact .blank blank before
  | lineBreak breaks => exact .lineBreak breaks before
  | pair => exact .lineBreak rfl (.lineBreak rfl before)
  | lineComment line ended => exact .lineComment line (behind ▸ ended) before
  | blockComment inside =>
    rw [List.cons_append, List.cons_append, List.append_assoc]
    exact .blockComment inside before
  | openComment inside =>
    obtain ⟨rfl, rfl⟩ := List.append_eq_nil_iff.mp behind
    rw [List.append_nil]
    exact .openComment inside

theorem Items.before (items : Items gap ends rest) : Before gap rest := by
  induction items with
  | nil => exact .nil
  | cons item _ ih => exact item.before ih

theorem Before.exists_items (before : Before gap rest) : ∃ ends, Items gap ends rest := by
  induction before with
  | nil => exact ⟨_, .nil⟩
  | blank blank _ ih =>
    obtain ⟨_, items⟩ := ih
    exact ⟨_, .cons (.blank blank) items⟩
  | lineBreak breaks _ ih =>
    obtain ⟨_, items⟩ := ih
    exact ⟨_, .cons (.lineBreak breaks) items⟩
  | lineComment line ended _ ih =>
    obtain ⟨_, items⟩ := ih
    exact ⟨_, .cons (.lineComment line ended) items⟩
  | @blockComment body gap rest inside _ ih =>
    obtain ⟨_, items⟩ := ih
    have text : '/' :: '*' :: (body ++ '*' :: '/' :: gap) =
        '/' :: '*' :: (body ++ ['*', '/']) ++ gap := by
      simp
    exact text ▸ ⟨_, .cons (.blockComment inside) items⟩
  | @openComment body inside =>
    have items : Items ('/' :: '*' :: body ++ []) (body.any Text.isLineBreak || false) [] :=
      .cons (.openComment inside) .nil
    rw [List.append_nil] at items
    exact ⟨_, items⟩

theorem Item.ne_nil (item : Item x ends rest) : x ≠ [] := by
  cases item <;> exact List.cons_ne_nil _ _

/-- No item begins a text where the scan finds none. -/
theorem free_iff {cs : List Char} : Free cs ↔ item cs = 0 := by
  constructor
  · intro free
    obtain ⟨gap, rest, rfl, before, none, -⟩ := exists_before cs
    obtain ⟨ends, items⟩ := before.exists_items
    cases items with
    | nil => exact none
    | @cons x gap rest ends more first _ =>
      exact absurd first (free x ends _ (List.append_assoc _ _ _))
  · rintro none x ends behind rfl first
    -- one item is taken, and where none begins, none is
    have alone : Before (x ++ []) behind := first.before .nil
    have taken := alone.length_append
    rw [List.append_nil, length_eq_zero none] at taken
    exact first.ne_nil (List.length_eq_zero_iff.mp (by omega))

theorem Skips.length_eq (skips : Skips gap ends rest) : length (gap ++ rest) = gap.length :=
  skips.items.before.length_eq (free_iff.mp skips.free)

/-- A text is skipped in one way only. -/
theorem Skips.unique {gap' rest' : List Char} {ends' : Bool} (skips : Skips gap ends rest)
    (skips' : Skips gap' ends' rest') (same : gap ++ rest = gap' ++ rest') :
    gap = gap' ∧ ends = ends' ∧ rest = rest' := by
  have size : gap.length = gap'.length := by rw [← skips.length_eq, ← skips'.length_eq, same]
  obtain ⟨rfl, rfl⟩ := List.append_inj same size
  exact ⟨rfl, skips.items.ends_eq.trans skips'.items.ends_eq.symm, rfl⟩

theorem exists_skips (cs : List Char) :
    ∃ gap ends rest, cs = gap ++ rest ∧ Skips gap ends rest := by
  obtain ⟨gap, rest, rfl, before, none, -⟩ := exists_before cs
  obtain ⟨ends, items⟩ := before.exists_items
  exact ⟨gap, ends, rest, rfl, items, free_iff.mpr none⟩

end Trivia

namespace Lexer

/-- Where the next token stands, and by what it is flagged. -/
theorem start_next {l : Lexer} (running : l.finished? = none) :
    l.next.1.span.start = l.offset + Text.byteLength (l.rest.take (Trivia.length l.rest)) ∧
      l.next.1.startsLine =
        ((l.rest.take (Trivia.length l.rest)).any Text.isLineBreak || !l.started) := by
  simp only [next, running]
  split <;> exact ⟨rfl, rfl⟩

/-- **What is skipped in front of a token is trivia, and all of it.** A text is divided in one way into
items of trivia and a rest that begins with none. The scan takes the items, and nothing when it is tried
again on the rest. The items end a line if a line end is among their characters, and a lexer in front of
the text flags its next token by that. -/
theorem skips (cs : List Char) :
    ∃ gap ends rest, cs = gap ++ rest ∧ Trivia.Skips gap ends rest ∧
      (∀ gap' ends' rest', cs = gap' ++ rest' → Trivia.Skips gap' ends' rest' →
        gap' = gap ∧ ends' = ends ∧ rest' = rest) ∧
      Trivia.length cs = gap.length ∧ Trivia.length rest = 0 ∧
      (ends = true ↔ ∃ c ∈ gap, c = '\r' ∨ c = '\n') ∧
      ∀ l : Lexer, l.rest = cs → l.finished? = none →
        l.next.1.span.start = l.offset + Text.byteLength gap ∧
          l.next.1.startsLine = (ends || !l.started) := by
  obtain ⟨gap, ends, rest, rfl, skips⟩ := Trivia.exists_skips cs
  have taken := skips.length_eq
  have none : Trivia.length rest = 0 := Trivia.length_eq_zero (Trivia.free_iff.mp skips.free)
  refine ⟨gap, ends, rest, rfl, skips, fun _ _ _ same skips' => skips'.unique skips same.symm, taken,
    none, ?_, fun l here running => ?_⟩
  · rw [skips.items.ends_eq, List.any_eq_true]
    simp [Text.isLineBreak, or_comm]
  · obtain ⟨start, flag⟩ := start_next running
    rw [here, taken, List.take_left] at start flag
    exact ⟨start, flag.trans (by rw [skips.items.ends_eq])⟩

/-- The mark that opens a comment does not close it. -/
example : Trivia.length ['/', '*', '/', ' ', '/', '/', '*', '*', '/', '/', '*'] = 11 := by decide +kernel

end Lexer

end Lexis
