import Lexis.Scan.Munch
import Mathlib.Data.List.Basic

/-!
# Laws of munches

Six laws carry what is proved about single forms to forms put together from them. A *bounded* form
takes no more than there is. A form *stops at* a class of characters when the text from the first of
them on makes no difference to it. A form is *settled* by a front when it takes from the front alone what
it takes inside the front from a longer text. A form *takes* a set of texts when everything it takes is
one of them. It is *greedy* on a text when what it takes there is the longest text of the set. And it
*spells* the set when it takes exactly these texts, whatever comes behind them; a repetition of such a
form takes rows of them.
-/

set_option autoImplicit false

namespace Lexis.Munch

/-! ## Bounds -/

/-- A form that takes no more than there is. -/
def Bounded (m : Munch) : Prop := ∀ cs, m cs ≤ cs.length

theorem Bounded.nil {m : Munch} (bounded : Bounded m) : m [] = 0 := Nat.le_zero.mp (bounded [])

theorem bounded_one (p : Char → Bool) : Bounded (one p) := by
  intro cs
  cases cs with
  | nil => exact Nat.le_refl 0
  | cons c cs =>
    simp only [one, List.length_cons]
    split <;> omega

theorem of_one_cons {p : Char → Bool} {c : Char} {cs : List Char} {n : Nat}
    (taken : one p (c :: cs) = n + 1) : p c = true ∧ n = 0 := by
  by_cases holds : p c = true
  · rw [one, if_pos holds] at taken
    exact ⟨holds, (Nat.succ.inj taken).symm⟩
  · rw [one, if_neg holds] at taken
    cases taken

theorem bounded_run (p : Char → Bool) : Bounded (run p) := fun _ =>
  (List.takeWhile_prefix p).length_le

theorem bounded_word (w : List Char) : Bounded (word w) := by
  intro cs
  unfold word
  split
  · next begins => exact (List.isPrefixOf_iff_prefix.mp begins).length_le
  · exact Nat.zero_le _

theorem Bounded.andThen {first second : Munch} (h₁ : Bounded first) (h₂ : Bounded second) :
    Bounded (first.andThen second) := by
  intro cs
  have here := h₁ cs
  have there := h₂ (cs.drop (first cs))
  rw [List.length_drop] at there
  simp only [Munch.andThen]
  omega

theorem Bounded.orElse {first second : Munch} (h₁ : Bounded first) (h₂ : Bounded second) :
    Bounded (first.orElse second) := by
  intro cs
  have here := h₁ cs
  unfold Munch.orElse
  split
  · exact h₂ cs
  · next n taken => rw [taken] at here; exact here

/-- One character of a class, or else one of another class, is one character of both together. -/
theorem orElse_one (p q : Char → Bool) : (one p).orElse (one q) = one fun c => p c || q c := by
  funext cs
  cases cs with
  | nil => rfl
  | cons c cs => cases holds : p c <;> simp [Munch.orElse, one, holds]

/-! ## Repetition -/

/-- A repetition takes nothing where its item does not begin. -/
theorem many_eq_zero {item : Munch} {cs : List Char} (none : item cs = 0) : many item cs = 0 := by
  cases cs with
  | nil => exact many_nil item
  | cons c cs => rw [many_cons, none]

/-- A repetition goes on behind one occurrence of its item. -/
theorem many_eq_add {item : Munch} (bounded : Bounded item) {cs : List Char} {n : Nat}
    (taken : item cs = n + 1) : many item cs = (n + 1) + many item (cs.drop (n + 1)) := by
  cases cs with
  | nil => rw [bounded.nil] at taken; cases taken
  | cons c cs => rw [many_cons, taken, List.drop_succ_cons]

/-- **Induction along a repetition**: from the place where the item does not begin back to the front. -/
theorem many_induction {item : Munch} (bounded : Bounded item) {motive : List Char → Prop}
    (stop : ∀ cs, item cs = 0 → motive cs)
    (more : ∀ cs n, item cs = n + 1 → motive (cs.drop (n + 1)) → motive cs) :
    ∀ cs, motive cs := by
  intro cs
  induction h : cs.length using Nat.strongRecOn generalizing cs with
  | _ len ih =>
    cases taken : item cs with
    | zero => exact stop cs taken
    | succ n =>
      have inside := bounded cs
      have shorter : (cs.drop (n + 1)).length < len := by
        rw [List.length_drop]
        omega
      exact more cs n taken (ih _ shorter _ rfl)

theorem Bounded.many {item : Munch} (bounded : Bounded item) : Bounded (many item) := by
  intro cs
  induction cs using many_induction bounded with
  | stop cs none => rw [many_eq_zero none]; exact Nat.zero_le _
  | more cs n taken ih =>
    have here := bounded cs
    rw [many_eq_add bounded taken]
    rw [List.length_drop] at ih
    omega

/-- Behind a repetition its item does not begin. -/
theorem item_drop_many {item : Munch} (bounded : Bounded item) (cs : List Char) :
    item (cs.drop (many item cs)) = 0 := by
  induction cs using many_induction bounded with
  | stop cs none => rw [many_eq_zero none]; exact none
  | more cs n taken ih => rw [many_eq_add bounded taken, ← List.drop_drop]; exact ih

/-! ## Stopping at a class -/

/-- A form to which a text makes no difference from the first character of a class on. -/
def StopsAt (border : Char → Bool) (m : Munch) : Prop :=
  ∀ cs rest, rest.head?.all border = true → m (cs ++ rest) = m cs

variable {border : Char → Bool}

/-- It is enough to look at texts that go on with a character of the class. -/
theorem stopsAt_of_cons {m : Munch}
    (h : ∀ cs c rest, border c = true → m (cs ++ c :: rest) = m cs) : StopsAt border m := by
  intro cs rest edge
  cases rest with
  | nil => rw [List.append_nil]
  | cons c rest => exact h cs c rest (by simpa using edge)

theorem stopsAt_one {p : Char → Bool} (apart : ∀ c, border c = true → p c = false) :
    StopsAt border (one p) := by
  apply stopsAt_of_cons
  intro cs c rest edge
  cases cs with
  | nil => simp [one, apart c edge]
  | cons d cs => rfl

theorem stopsAt_run {p : Char → Bool} (apart : ∀ c, border c = true → p c = false) :
    StopsAt border (run p) := by
  apply stopsAt_of_cons
  intro cs c rest edge
  induction cs with
  | nil => simp [run, apart c edge]
  | cons d cs ih =>
    simp only [run, List.cons_append, List.takeWhile_cons] at ih ⊢
    split
    · rw [List.length_cons, List.length_cons, ih]
    · rfl

theorem StopsAt.andThen {first second : Munch} (bounded : Bounded first)
    (h₁ : StopsAt border first) (h₂ : StopsAt border second) :
    StopsAt border (first.andThen second) := by
  intro cs rest edge
  have inside := bounded cs
  simp only [Munch.andThen]
  rw [h₁ cs rest edge, List.drop_append_of_le_length inside, h₂ _ rest edge]

theorem StopsAt.orElse {first second : Munch} (h₁ : StopsAt border first)
    (h₂ : StopsAt border second) : StopsAt border (first.orElse second) := by
  intro cs rest edge
  simp only [Munch.orElse]
  rw [h₁ cs rest edge, h₂ cs rest edge]

theorem StopsAt.many {item : Munch} (bounded : Bounded item) (h : StopsAt border item) :
    StopsAt border (many item) := by
  intro cs rest edge
  induction cs using many_induction bounded with
  | stop cs none => rw [many_eq_zero none, many_eq_zero ((h cs rest edge).trans none)]
  | more cs n taken ih =>
    have inside := bounded cs
    rw [many_eq_add bounded taken, many_eq_add bounded ((h cs rest edge).trans taken),
      List.drop_append_of_le_length (by omega), ih]

/-! ## Looking no further -/

/-- A form that takes from a front alone what it takes of it in a longer text. -/
def SettledBy (m : Munch) (front : List Char) : Prop :=
  ∀ rest, m (front ++ rest) ≤ front.length → m front = m (front ++ rest)

/-- A form that looks no further than it takes. -/
def Settled (m : Munch) : Prop := ∀ front, SettledBy m front

theorem settled_one (p : Char → Bool) : Settled (one p) := by
  intro front rest inside
  cases front with
  | nil => exact (Nat.le_zero.mp inside).symm
  | cons c front => rfl

theorem settled_run (p : Char → Bool) : Settled (run p) := by
  intro front
  induction front with
  | nil =>
    intro rest inside
    exact (Nat.le_zero.mp inside).symm
  | cons c front ih =>
    intro rest inside
    have shorter := ih rest
    simp only [run, List.cons_append, List.takeWhile_cons] at shorter inside ⊢
    split at inside
    · next holds =>
      rw [if_pos holds, if_pos holds, List.length_cons, List.length_cons]
      exact congrArg (· + 1) (shorter (Nat.le_of_succ_le_succ inside))
    · next fails => rw [if_neg fails, if_neg fails]

theorem SettledBy.andThen {first second : Munch} {front : List Char} (h₁ : SettledBy first front)
    (h₂ : SettledBy second (front.drop (first front))) : SettledBy (first.andThen second) front := by
  intro rest inside
  simp only [Munch.andThen] at inside ⊢
  have here : first front = first (front ++ rest) := h₁ rest (by omega)
  rw [← here] at inside ⊢
  rw [List.drop_append_of_le_length (by omega)] at inside ⊢
  rw [h₂ rest (by rw [List.length_drop]; omega)]

theorem Settled.andThen {first second : Munch} (h₁ : Settled first) (h₂ : Settled second) :
    Settled (first.andThen second) := fun front => (h₁ front).andThen (h₂ _)

theorem Settled.orElse {first second : Munch} (h₁ : Settled first) (h₂ : Settled second) :
    Settled (first.orElse second) := by
  intro front rest inside
  have here : first front = first (front ++ rest) := by
    refine h₁ front rest (Nat.le_trans ?_ inside)
    simp only [Munch.orElse]
    split <;> omega
  have there := h₂ front rest
  simp only [Munch.orElse, here] at inside ⊢
  split
  · next none =>
    rw [none] at inside
    exact there inside
  · rfl

/-! ## Taking texts of a set -/

/-- A form that takes nothing but texts of a set. -/
def Takes (m : Munch) (Part : List Char → Prop) : Prop :=
  ∀ cs : List Char, Part (cs.take (m cs))

/-- Nothing, or one character of a class. -/
inductive AtMostOne (p : Char → Bool) : List Char → Prop
  | none : AtMostOne p []
  | one {c : Char} : p c = true → AtMostOne p [c]

theorem AtMostOne.all {p : Char → Bool} {cs : List Char} (h : AtMostOne p cs) :
    ∀ c ∈ cs, p c = true := by
  cases h with
  | none => simp
  | one holds => simpa using holds

theorem AtMostOne.imp {p q : Char → Bool} {cs : List Char} (h : AtMostOne p cs)
    (also : ∀ c, p c = true → q c = true) : AtMostOne q cs := by
  cases h with
  | none => exact .none
  | one holds => exact .one (also _ holds)

theorem takes_one (p : Char → Bool) : Takes (one p) (AtMostOne p) := by
  intro cs
  cases cs with
  | nil => exact .none
  | cons c cs =>
    by_cases holds : p c = true
    · simpa [one, holds] using AtMostOne.one holds
    · simpa [one, holds] using AtMostOne.none

theorem takes_run (p : Char → Bool) : Takes (run p) (fun cs => ∀ c ∈ cs, p c = true) := by
  intro cs c member
  rw [run, ← List.prefix_iff_eq_take.mp (List.takeWhile_prefix p)] at member
  exact List.all_eq_true.mp List.all_takeWhile c member

/-- A text of one set and a text of another behind it. -/
def Then (First Second : List Char → Prop) (cs : List Char) : Prop :=
  ∃ front back, cs = front ++ back ∧ First front ∧ Second back

theorem Takes.andThen {first second : Munch} {First Second : List Char → Prop}
    (h₁ : Takes first First) (h₂ : Takes second Second) :
    Takes (first.andThen second) (Then First Second) := by
  intro cs
  exact ⟨_, _, List.take_add, h₁ cs, h₂ _⟩

/-- What is taken by one form or else by another is taken by one of them. -/
theorem Takes.orElse {first second : Munch} {Part : List Char → Prop}
    (h₁ : Takes first Part) (h₂ : Takes second Part) : Takes (first.orElse second) Part := by
  intro cs
  have here := h₁ cs
  simp only [Munch.orElse]
  split
  · exact h₂ cs
  · next taken => rwa [taken] at here

/-! ## Taking the longest text of a set -/

/-- A text of a set at the front of a text, and none there is longer. -/
structure Longest (Part : List Char → Prop) (cs front : List Char) : Prop where
  member : Part front
  begins : front <+: cs
  longest : ∀ other, Part other → other <+: cs → other.length ≤ front.length

/-- **A form is greedy on a text**: it takes a text of a set, and each text of the set at the front either
is as long, or is shorter and followed by a character of a class. -/
structure GreedyOn (inside : Char → Bool) (m : Munch) (Part : List Char → Prop)
    (cs : List Char) : Prop where
  member : Part (cs.take (m cs))
  reach : ∀ front rest, cs = front ++ rest → Part front →
    front.length = m cs ∨ front.length < m cs ∧ rest.head?.any inside = true

/-- A form that takes the longest text of a set is greedy, with no matter what follows a shorter one. -/
theorem greedyOn_of_le {m : Munch} {Part : List Char → Prop} {cs : List Char} (bounded : Bounded m)
    (member : Part (cs.take (m cs)))
    (le : ∀ front rest, cs = front ++ rest → Part front → front.length ≤ m cs) :
    GreedyOn (fun _ => true) m Part cs := by
  refine ⟨member, fun front rest split part => ?_⟩
  rcases Nat.eq_or_lt_of_le (le front rest split part) with full | shorter
  · exact .inl full
  · refine .inr ⟨shorter, ?_⟩
    cases rest with
    | cons c rest => rfl
    | nil =>
      -- no more can be taken than there is
      have whole := bounded cs
      rw [split, List.append_nil] at whole shorter
      exact absurd shorter (Nat.not_lt.mpr whole)

theorem GreedyOn.le {inside : Char → Bool} {m : Munch} {Part : List Char → Prop}
    {cs front rest : List Char} (greedy : GreedyOn inside m Part cs) (split : cs = front ++ rest)
    (part : Part front) : front.length ≤ m cs := by
  rcases greedy.reach front rest split part with full | ⟨shorter, -⟩
  · exact Nat.le_of_eq full
  · exact Nat.le_of_lt shorter

theorem greedyOn_one (p : Char → Bool) (cs : List Char) : GreedyOn p (one p) (AtMostOne p) cs where
  member := takes_one p cs
  reach := by
    rintro front rest rfl part
    cases part with
    | one holds => simp [one, holds]
    | none =>
      cases rest with
      | nil => exact .inl rfl
      | cons c rest => by_cases holds : p c = true <;> simp [one, holds]

/-- **Forms in sequence are greedy together**, where the second begins with no character that follows a
shorter text of the first. -/
theorem GreedyOn.andThen {inside inside' : Char → Bool} {first second : Munch}
    {First Second : List Char → Prop} {cs : List Char} (h₁ : GreedyOn inside first First cs)
    (h₂ : GreedyOn inside' second Second (cs.drop (first cs)))
    (apart : ∀ back, Second back → ∀ c ∈ back.head?, inside c = false) :
    GreedyOn (fun c => inside c || inside' c) (first.andThen second) (Then First Second) cs := by
  refine ⟨⟨_, _, List.take_add, h₁.member, h₂.member⟩, ?_⟩
  rintro _ rest split ⟨front, back, rfl, part, part'⟩
  rw [List.append_assoc] at split
  simp only [Munch.andThen, List.length_append]
  rcases h₁.reach front _ split part with full | ⟨shorter, next⟩
  · have left : cs.drop (first cs) = back ++ rest := by rw [← full, split, List.drop_left]
    rcases h₂.reach back rest left part' with full' | ⟨shorter, next⟩
    · exact .inl (by omega)
    · refine .inr ⟨by omega, ?_⟩
      cases rest with
      | nil => cases next
      | cons c rest => simpa using Or.inr next
  · -- nothing of the second part can stand behind less than the first form takes
    cases back with
    | cons c back =>
      have none := apart _ part' c rfl
      rw [List.cons_append, List.head?_cons, Option.any_some, none] at next
      cases next
    | nil =>
      refine .inr ⟨by rw [List.length_nil]; omega, ?_⟩
      cases rest with
      | nil => cases next
      | cons c rest => simpa using Or.inl next

/-! ## Spelling a set of texts -/

/-- A row of texts of a set. -/
inductive Row (Item : List Char → Prop) : List Char → Prop
  | nil : Row Item []
  | cons {x row : List Char} : Item x → Row Item row → Row Item (x ++ row)

/-- A form that takes the texts of a set and no others. What comes behind them does not matter. -/
structure Spells (m : Munch) (Item : List Char → Prop) : Prop where
  nonempty : ∀ x, Item x → x ≠ []
  takes : ∀ x rest, Item x → m (x ++ rest) = x.length
  only : ∀ cs, 0 < m cs → ∃ x rest, cs = x ++ rest ∧ Item x

namespace Spells

variable {m : Munch} {Item : List Char → Prop}

theorem bounded (spells : Spells m Item) : Bounded m := by
  intro cs
  by_cases taken : 0 < m cs
  · obtain ⟨x, rest, rfl, item⟩ := spells.only cs taken
    rw [spells.takes x rest item, List.length_append]
    exact Nat.le_add_right _ _
  · omega

/-- Behind a row of items a repetition starts anew. -/
theorem many_append (spells : Spells m Item) {row : List Char} (items : Row Item row)
    (rest : List Char) : many m (row ++ rest) = row.length + many m rest := by
  induction items with
  | nil => rw [List.nil_append, List.length_nil, Nat.zero_add]
  | @cons x row item _ ih =>
    obtain ⟨n, size⟩ : ∃ n, x.length = n + 1 :=
      Nat.exists_eq_succ_of_ne_zero fun h => spells.nonempty x item (List.length_eq_zero_iff.mp h)
    have taken : m (x ++ (row ++ rest)) = n + 1 := (spells.takes x _ item).trans size
    have behind : (x ++ (row ++ rest)).drop (n + 1) = row ++ rest := by
      rw [← size, List.drop_left]
    rw [List.append_assoc, many_eq_add spells.bounded taken, behind, ih, List.length_append, size]
    omega

/-- **A text is a row of items and a rest that begins with none**, and a repetition takes the row. -/
theorem exists_row (spells : Spells m Item) (cs : List Char) :
    ∃ row rest, cs = row ++ rest ∧ Row Item row ∧ m rest = 0 ∧ many m cs = row.length := by
  induction cs using many_induction spells.bounded with
  | stop cs none => exact ⟨[], cs, rfl, .nil, none, many_eq_zero none⟩
  | more cs n taken ih =>
    obtain ⟨x, behind, rfl, item⟩ := spells.only cs (by omega)
    have size : x.length = n + 1 := (spells.takes x behind item).symm.trans taken
    rw [← size, List.drop_left] at ih
    obtain ⟨row, rest, rfl, items, none, _⟩ := ih
    have whole := spells.many_append (.cons item items) rest
    rw [many_eq_zero none, Nat.add_zero] at whole
    rw [List.append_assoc] at whole
    exact ⟨x ++ row, rest, (List.append_assoc _ _ _).symm, .cons item items, none, whole⟩

/-- **A row that no item follows is the longest** row of items at the front of a text. -/
theorem longest_row (spells : Spells m Item) {row rest : List Char} (items : Row Item row)
    (none : m rest = 0) : Longest (Row Item) (row ++ rest) row := by
  have whole : many m (row ++ rest) = row.length := by
    rw [spells.many_append items, many_eq_zero none, Nat.add_zero]
  refine ⟨items, List.prefix_append _ _, fun other items' begins => ?_⟩
  obtain ⟨behind, split⟩ := begins
  rw [← whole, ← split, spells.many_append items']
  exact Nat.le_add_right _ _

end Spells

end Lexis.Munch
