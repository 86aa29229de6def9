import Lexis.Proofs.Cursor.Scanner
import Lexis.Proofs.Scan.Trivia

/-!
# Walking through trivia

The walk through trivia goes as far as the trivia that is measured at the front of a text, and the line
ends that it notes on the way are those of what it passed (`goes_skipTrivia`). A turn passes one item. It
needs a look at the character behind the next for that, but the cursor moves by two bytes only where both
characters were seen to be a mark of a comment.

The loop through a comment takes a carriage return and a line feed in one turn, so its turns are not the
single characters by which the inside of a comment is measured; the induction goes by the length of what
is left.
-/

set_option autoImplicit false

namespace Lexis.Walk

variable {text low rest : List Char}

/-! ## Line ends -/

theorem goes_lineEnd_pair (rest : List Char) : Goes text low lineEnd ('\r' :: '\n' :: rest) () rest :=
  (goes_advance _ _).bind ((goes_eatAny (contains_singleton '\n') _).bind (goes_pure _ _))

theorem goes_lineEnd {c : Char} (single : ¬ ['\r', '\n'] <+: c :: rest) :
    Goes text low lineEnd (c :: rest) () rest := by
  refine (goes_advance c rest).bind ?_
  split
  · next _ h =>
    obtain rfl := Option.some.inj h
    have apart : rest.head? ≠ some '\n' := by
      intro feed
      obtain ⟨behind, rfl⟩ := List.head?_eq_some_iff.mp feed
      exact single ⟨behind, rfl⟩
    exact (goes_eatAny_of_ne apart).bind (goes_pure _ _)
  · exact goes_pure _ _

/-! ## Comments -/

private theorem goes_blockTurn_nil (saw : Bool) : Goes text low (blockTurn saw) [] (.done saw) [] :=
  (goes_peek 0 []).bind ((goes_peek 1 []).bind (goes_pure _ _))

private theorem goes_blockTurn_close (saw : Bool) (rest : List Char) :
    Goes text low (blockTurn saw) ('*' :: '/' :: rest) (.done saw) rest :=
  (goes_peek 0 _).bind ((goes_peek 1 _).bind ((goes_jump ['*', '/'] rest).bind (goes_pure _ _)))

private theorem goes_blockTurn_pair (saw : Bool) (rest : List Char) :
    Goes text low (blockTurn saw) ('\r' :: '\n' :: rest) (.yield true) rest :=
  (goes_peek 0 _).bind ((goes_peek 1 _).bind ((goes_lineEnd_pair rest).bind (goes_pure _ _)))

/-- A turn through a comment passes one character, but for the two cases of two. -/
private theorem goes_blockTurn (saw : Bool) {c : Char} (goesOn : ¬ ['*', '/'] <+: c :: rest)
    (single : ¬ ['\r', '\n'] <+: c :: rest) :
    Goes text low (blockTurn saw) (c :: rest) (.yield (saw || Text.isLineBreak c)) rest := by
  refine (goes_peek 0 _).bind ((goes_peek 1 _).bind ?_)
  split
  · next first second =>
    obtain ⟨behind, split⟩ := exists_of_peek first second
    exact absurd ⟨behind, split.symm⟩ goesOn
  · next first _ =>
    obtain rfl := Option.some.inj first
    split
    · next breaks =>
      rw [breaks, Bool.or_true]
      exact (goes_lineEnd single).bind (goes_pure _ _)
    · next inside =>
      rw [Bool.eq_false_iff.mpr inside, Bool.or_false]
      exact (goes_advance _ _).bind (goes_pure _ _)
  · next none => cases none

private theorem goes_turns_blockTurn (saw : Bool) (cs : List Char) :
    Goes text low (turns blockTurn saw) cs
      (saw || (cs.take (Trivia.blockRest cs)).any Text.isLineBreak) (cs.drop (Trivia.blockRest cs)) := by
  induction size : cs.length using Nat.strongRecOn generalizing cs saw with
  | _ size ih =>
    subst size
    match cs with
    | [] =>
      rw [List.take_nil, List.drop_nil, List.any_nil, Bool.or_false]
      exact goes_turns_done (goes_blockTurn_nil saw)
    | c :: rest =>
      by_cases closes : ['*', '/'] <+: c :: rest
      · obtain ⟨rfl, rest, rfl⟩ := List.cons_prefix_cons.mp closes
        have unended : (saw || ['*', '/'].any Text.isLineBreak) = saw := Bool.or_false saw
        rw [List.singleton_append, Trivia.blockRest_close, List.take_succ_cons, List.take_succ_cons,
          List.take_zero, unended]
        exact goes_turns_done (goes_blockTurn_close saw rest)
      rw [Trivia.blockRest_cons closes, List.take_succ_cons, List.any_cons, List.drop_succ_cons]
      by_cases pair : ['\r', '\n'] <+: c :: rest
      · -- the line feed is passed in the same turn
        obtain ⟨rfl, rest, rfl⟩ := List.cons_prefix_cons.mp pair
        have apart : ¬ ['*', '/'] <+: '\n' :: rest := by simp [List.cons_prefix_cons]
        have ended : Text.isLineBreak '\r' = true := rfl
        have shorter : rest.length < rest.length + 2 := Nat.lt_add_of_pos_right (Nat.succ_pos _)
        have later := ih rest.length shorter true rest rfl
        rw [List.singleton_append, Trivia.blockRest_cons apart, List.drop_succ_cons, ended, Bool.true_or,
          Bool.or_true]
        rw [Bool.true_or] at later
        exact goes_turns_yield (goes_blockTurn_pair saw rest) shorter later
      · have later := ih rest.length (Nat.lt_succ_self _) (saw || Text.isLineBreak c) rest rfl
        rw [Bool.or_assoc] at later
        exact goes_turns_yield (goes_blockTurn saw closes pair) (Nat.lt_succ_self _) later

/-- A comment behind its opening mark is passed, with its closing mark if there is one. -/
theorem goes_skipBlock (cs : List Char) :
    Goes text low skipBlock cs ((cs.take (Trivia.blockRest cs)).any Text.isLineBreak)
      (cs.drop (Trivia.blockRest cs)) :=
  goes_turns_blockTurn false cs

/-! ## Items of trivia -/

/-- A blank or a line end is passed, and a line feed with the carriage return in front. -/
private theorem goes_triviaTurn_space (saw : Bool) {c : Char} (space : Trivia.isSpace c = true)
    (single : ¬ ['\r', '\n'] <+: c :: rest) :
    Goes text low (triviaTurn saw) (c :: rest) (.yield (saw || Text.isLineBreak c)) rest := by
  refine (goes_peek 0 _).bind ((goes_peek 1 _).bind ?_)
  split
  · next first _ =>
    obtain rfl := Option.some.inj first
    cases space
  · next first _ =>
    obtain rfl := Option.some.inj first
    cases space
  · next first _ _ =>
    obtain rfl := Option.some.inj first
    split
    · next blank =>
      have unended : Text.isLineBreak c = false := by
        simp only [Trivia.isBlank, Bool.or_eq_true, beq_iff_eq] at blank
        rcases blank with ((rfl | rfl) | rfl) | rfl <;> rfl
      rw [unended, Bool.or_false]
      exact (goes_advance c rest).bind (goes_pure _ _)
    · next unblank =>
      have ended : Text.isLineBreak c = true := by
        rwa [Trivia.isSpace, Bool.eq_false_iff.mpr unblank, Bool.false_or] at space
      rw [if_pos ended, ended, Bool.or_true]
      exact (goes_lineEnd single).bind (goes_pure _ _)
  · next nothing => cases nothing

/-- A turn through trivia passes one item. -/
private theorem goes_triviaTurn {cs : List Char} {n : Nat} (saw : Bool) (taken : Trivia.item cs = n + 1) :
    Goes text low (triviaTurn saw) cs (.yield (saw || (cs.take (n + 1)).any Text.isLineBreak))
      (cs.drop (n + 1)) := by
  unfold Trivia.item at taken
  split at taken
  · next rest =>
    have line : Munch.run (fun c => !Text.isLineBreak c) ('/' :: '/' :: rest) = n + 1 := by
      rw [← taken, Nat.add_comm]
      rfl
    have unended : (('/' :: '/' :: rest).take (n + 1)).any Text.isLineBreak = false := by
      have inside := Munch.takes_run (fun c => !Text.isLineBreak c) ('/' :: '/' :: rest)
      rw [line] at inside
      simpa using inside
    rw [unended, Bool.or_false, ← line]
    exact (goes_peek 0 _).bind ((goes_peek 1 _).bind ((goes_advanceWhile _ _).bind (goes_pure _ _)))
  · next rest =>
    have marks : (('/' :: '*' :: rest).take (2 + Trivia.blockRest rest)).any Text.isLineBreak =
        (rest.take (Trivia.blockRest rest)).any Text.isLineBreak := by
      rw [List.take_add]
      rfl
    rw [← taken, marks, ← List.drop_drop]
    exact (goes_peek 0 _).bind ((goes_peek 1 _).bind ((goes_jump ['/', '*'] rest).bind
      ((goes_skipBlock rest).bind (goes_pure _ _))))
  · next rest =>
    obtain rfl : n = 1 := (Nat.succ.inj taken).symm
    have ended : (saw || (('\r' :: '\n' :: rest).take 2).any Text.isLineBreak) = true := Bool.or_true saw
    rw [ended]
    exact (goes_peek 0 _).bind ((goes_peek 1 _).bind ((goes_lineEnd_pair rest).bind (goes_pure _ _)))
  · next _ _ pair =>
    cases cs with
    | nil => cases taken
    | cons c rest =>
      obtain ⟨space, rfl⟩ : Trivia.isSpace c = true ∧ n = 0 := Munch.of_one_cons taken
      have single : ¬ ['\r', '\n'] <+: c :: rest := fun ⟨behind, split⟩ => pair behind split.symm
      rw [List.take_succ_cons, List.take_zero, List.drop_succ_cons, List.drop_zero, List.any_cons,
        List.any_nil, Bool.or_false]
      exact goes_triviaTurn_space saw space single

/-- A turn through trivia is the last where no item begins. -/
private theorem goes_triviaTurn_done {cs : List Char} (saw : Bool) (none : Trivia.item cs = 0) :
    Goes text low (triviaTurn saw) cs (.done saw) cs := by
  refine (goes_peek 0 _).bind ((goes_peek 1 _).bind ?_)
  split
  · next first second =>
    obtain ⟨behind, rfl⟩ := exists_of_peek first second
    rw [Trivia.item] at none
    omega
  · next first second =>
    obtain ⟨behind, rfl⟩ := exists_of_peek first second
    rw [Trivia.item] at none
    omega
  · next c first _ _ =>
    obtain ⟨rest, rfl⟩ := List.head?_eq_some_iff.mp (List.head?_eq_getElem?.trans first)
    have other : Trivia.isSpace c = false := by
      by_contra space
      exact absurd none (Nat.ne_of_gt (Trivia.item_pos rest ((Bool.not_eq_false _).mp space)))
    obtain ⟨unblank, unended⟩ := Bool.or_eq_false_iff.mp other
    rw [unblank, unended, if_neg Bool.false_ne_true, if_neg Bool.false_ne_true]
    exact goes_pure _ _
  · exact goes_pure _ _

/-- **Trivia is passed**, and the line ends in it are noted. -/
theorem goes_skipTrivia (cs : List Char) :
    Goes text low skipTrivia cs ((cs.take (Trivia.length cs)).any Text.isLineBreak)
      (cs.drop (Trivia.length cs)) :=
  goes_turns_many Trivia.bounded_item (fun _ _ saw => goes_triviaTurn saw) cs false
    (goes_turns_done (goes_triviaTurn_done _ (Trivia.item_drop_length cs)))

end Lexis.Walk
