import Lexis.Scan.Trivia
import Lexis.Proofs.Scan.Munch
import Mathlib.Data.List.TakeWhile

/-!
# Trivia and what stands behind it

How far an item of trivia goes can depend on what follows: a comment to the end of a line needs a line
end or the end of the text behind it, and a comment that nothing closes needs the end of the text. The
relation `Before` says, without the scan, that a text is trivia in front of another, and the scan takes
just that: `exists_before` for what it takes, `Before.length_append` for what it has to take.

With it, trivia can be moved in front of another text: any text when what follows is no trivia
(`Before.move_of_item`), and a line end when it does not end inside a comment (`Before.extend`).
-/

set_option autoImplicit false

namespace Lexis.Trivia

/-- A blank or a line end. -/
def isSpace (c : Char) : Bool := isBlank c || Text.isLineBreak c

/-- A character that an item of trivia can begin with. -/
def isOpener (c : Char) : Bool := isSpace c || c == '/'

theorem isOpener_of_isSpace {c : Char} (space : isSpace c = true) : isOpener c = true := by
  rw [isOpener, space, Bool.true_or]

theorem opener_of_space {cs : List Char} (space : cs.head?.all isSpace = true) :
    cs.head?.all isOpener = true := by
  cases cs with
  | nil => rfl
  | cons c cs =>
    have first : isSpace c = true := by simpa using space
    simpa using isOpener_of_isSpace first

/-- A property that none of the seven characters has which begin trivia. -/
theorem apart_of_isOpener {p : Char → Bool}
    (apart : [' ', '\t', '\x0c', '\x0b', '\n', '\r', '/'].all (fun c => !p c) = true) :
    ∀ c, isOpener c = true → p c = false := by
  intro c opener
  have listed : c ∈ [' ', '\t', '\x0c', '\x0b', '\n', '\r', '/'] := by
    simp only [isOpener, isSpace, isBlank, Text.isLineBreak, Bool.or_eq_true, beq_iff_eq] at opener
    simp only [List.mem_cons, List.not_mem_nil, or_false]
    tauto
  simpa using List.all_eq_true.mp apart c listed

/-! ## The inside of a comment -/

/-- The inside of a comment between marks: nothing in it closes the comment. -/
def Inside (body : List Char) : Prop := ¬ ['*', '/'] <:+: body

theorem inside_nil : Inside [] := by
  intro closes
  have := closes.length_le
  simp at this

theorem inside_cons {c : Char} {body : List Char} :
    Inside (c :: body) ↔ ¬ ['*', '/'] <+: c :: body ∧ Inside body := by
  unfold Inside
  rw [List.infix_cons_iff, not_or]

theorem inside_eq_zero_iff {c : Char} {cs : List Char} :
    inside (c :: cs) = 0 ↔ ['*', '/'] <+: c :: cs := by
  unfold inside
  split
  · next h => simp [h]
  · next c' cs' apart h =>
    obtain ⟨rfl, rfl⟩ := List.cons.inj h
    simp only [Nat.one_ne_zero, false_iff]
    rintro ⟨rest, h⟩
    obtain ⟨rfl, rfl⟩ := List.cons.inj h
    exact apart rest rfl rfl
  · next h => cases h

theorem bounded_inside : Munch.Bounded inside := by
  intro cs
  unfold inside
  split <;> simp

theorem many_inside_cons {c : Char} {cs : List Char}
    (goesOn : ¬ ['*', '/'] <+: c :: cs) :
    Munch.many inside (c :: cs) = 1 + Munch.many inside cs := by
  have taken : inside (c :: cs) = 0 + 1 := by
    have some := mt inside_eq_zero_iff.mp goesOn
    unfold inside at some ⊢
    split
    · next h => exact absurd rfl (h ▸ some)
    · rfl
    · next h => cases h
  rw [Munch.many_eq_add bounded_inside taken]
  rfl

theorem blockRest_cons {c : Char} {cs : List Char} (goesOn : ¬ ['*', '/'] <+: c :: cs) :
    blockRest (c :: cs) = blockRest cs + 1 := by
  simp only [blockRest, Munch.andThen, many_inside_cons goesOn, Nat.add_comm 1, List.drop_succ_cons]
  omega

theorem blockRest_close (cs : List Char) : blockRest ('*' :: '/' :: cs) = 2 := by
  have closes : Munch.many inside ('*' :: '/' :: cs) = 0 := Munch.many_eq_zero rfl
  rw [blockRest, Munch.andThen, closes]
  rfl

/-- A comment that is not closed is inside to its end. -/
theorem many_inside {body : List Char} (h : Inside body) :
    Munch.many inside body = body.length := by
  induction body with
  | nil => exact Munch.many_nil inside
  | cons c body ih =>
    obtain ⟨goesOn, behind⟩ := inside_cons.mp h
    rw [many_inside_cons goesOn, ih behind, List.length_cons, Nat.add_comm]

/-- A comment is inside up to the first mark that closes it. -/
theorem many_inside_append {body : List Char} (rest : List Char) (h : Inside body) :
    Munch.many inside (body ++ '*' :: '/' :: rest) = body.length := by
  induction body with
  | nil => exact Munch.many_eq_zero rfl
  | cons c body ih =>
    obtain ⟨goesOn, behind⟩ := inside_cons.mp h
    have goesOn' : ¬ ['*', '/'] <+: c :: (body ++ '*' :: '/' :: rest) := by
      cases body with
      | nil => simp
      | cons d body => simpa [List.cons_prefix_cons] using goesOn
    rw [List.cons_append, many_inside_cons goesOn', ih behind, List.length_cons, Nat.add_comm]

/-- Behind its opening mark, a comment is closed somewhere or nowhere. -/
theorem exists_inside (cs : List Char) :
    (∃ body rest, cs = body ++ '*' :: '/' :: rest ∧ Inside body) ∨ Inside cs := by
  induction cs with
  | nil => exact .inr inside_nil
  | cons c cs ih =>
    by_cases closes : ['*', '/'] <+: c :: cs
    · obtain ⟨rest, h⟩ := closes
      exact .inl ⟨[], rest, h.symm, inside_nil⟩
    · rcases ih with ⟨body, rest, rfl, h⟩ | h
      · refine .inl ⟨c :: body, rest, rfl, inside_cons.mpr ⟨?_, h⟩⟩
        exact fun early => closes (early.trans ⟨'*' :: '/' :: rest, rfl⟩)
      · exact .inr (inside_cons.mpr ⟨closes, h⟩)

/-! ## What each item takes -/

theorem bounded_item : Munch.Bounded item := by
  intro cs
  unfold item
  split
  · next cs =>
    have := Munch.bounded_run (fun c => !Text.isLineBreak c) cs
    simp only [List.length_cons]
    omega
  · next cs =>
    have := (bounded_inside.many.andThen (Munch.bounded_word ['*', '/'])) cs
    simp only [List.length_cons, blockRest]
    omega
  · simp
  · exact Munch.bounded_one _ _

/-- An item begins with each blank and each line end. -/
theorem item_pos {c : Char} (rest : List Char) (space : isSpace c = true) : 0 < item (c :: rest) := by
  unfold item
  split
  · omega
  · omega
  · exact Nat.succ_pos _
  · show 0 < if isSpace c = true then 1 else 0
    rw [if_pos space]
    exact Nat.one_pos

theorem length_eq_zero {cs : List Char} (none : item cs = 0) : length cs = 0 :=
  Munch.many_eq_zero none

@[simp] theorem length_nil : length [] = 0 := Munch.many_nil item

theorem length_le (cs : List Char) : length cs ≤ cs.length := bounded_item.many cs

/-- Behind all trivia no item begins. -/
theorem item_drop_length (cs : List Char) : item (cs.drop (length cs)) = 0 :=
  Munch.item_drop_many bounded_item cs

private theorem length_of_item (taken : List Char) {rest : List Char} (nonempty : taken ≠ [])
    (h : item (taken ++ rest) = taken.length) :
    length (taken ++ rest) = taken.length + length rest := by
  obtain ⟨n, size⟩ : ∃ n, taken.length = n + 1 :=
    Nat.exists_eq_succ_of_ne_zero fun h => nonempty (List.length_eq_zero_iff.mp h)
  have behind : (taken ++ rest).drop (n + 1) = rest := by rw [← size, List.drop_left]
  rw [length, Munch.many_eq_add bounded_item (h.trans size), behind, size]

theorem length_blank {c : Char} (rest : List Char) (blank : isBlank c = true) :
    length (c :: rest) = 1 + length rest := by
  refine length_of_item [c] (List.cons_ne_nil _ _) ?_
  simp only [isBlank, Bool.or_eq_true, beq_iff_eq] at blank
  rcases blank with ((rfl | rfl) | rfl) | rfl <;> rfl

/-- A carriage return and a line feed behind it are one item, but as long as two. -/
theorem length_lineBreak {c : Char} (rest : List Char) (h : Text.isLineBreak c = true) :
    length (c :: rest) = 1 + length rest := by
  have feed : ∀ rest, length ('\n' :: rest) = 1 + length rest := fun rest =>
    length_of_item ['\n'] (List.cons_ne_nil _ _) rfl
  simp only [Text.isLineBreak, Bool.or_eq_true, beq_iff_eq] at h
  rcases h with rfl | rfl
  · exact feed rest
  · by_cases pair : rest.head? = some '\n'
    · obtain ⟨rest, rfl⟩ := List.head?_eq_some_iff.mp pair
      rw [feed, ← Nat.add_assoc]
      exact length_of_item ['\r', '\n'] (List.cons_ne_nil _ _) rfl
    · refine length_of_item ['\r'] (List.cons_ne_nil _ _) ?_
      cases rest with
      | nil => rfl
      | cons d rest =>
        have apart : d ≠ '\n' := by simpa using pair
        simp [item, Munch.one, apart, Text.isLineBreak]

theorem length_lineComment {body rest : List Char}
    (line : ∀ c ∈ body, Text.isLineBreak c = false)
    (ended : rest.head?.all Text.isLineBreak = true) :
    length ('/' :: '/' :: (body ++ rest)) = (2 + body.length) + length rest := by
  have h : item ('/' :: '/' :: body ++ rest) = ('/' :: '/' :: body).length := by
    have all : ∀ c ∈ body, (!Text.isLineBreak c) = true := by simpa using line
    have stops : rest.takeWhile (fun c => !Text.isLineBreak c) = [] := by
      cases rest with
      | nil => rfl
      | cons c rest => simp at ended; simp [ended]
    simp only [List.cons_append, item, Munch.run]
    rw [List.takeWhile_append_of_pos all, stops, List.append_nil]
    simp only [List.length_cons]
    omega
  have whole := length_of_item _ (List.cons_ne_nil _ _) h
  simp only [List.length_cons, List.cons_append] at whole
  omega

theorem length_blockComment {body : List Char} (rest : List Char) (h : Inside body) :
    length ('/' :: '*' :: (body ++ '*' :: '/' :: rest)) = (body.length + 4) + length rest := by
  have taken : item (('/' :: '*' :: (body ++ ['*', '/'])) ++ rest) =
      ('/' :: '*' :: (body ++ ['*', '/'])).length := by
    simp only [List.cons_append, List.append_assoc, List.nil_append, item, blockRest, Munch.andThen,
      many_inside_append rest h, List.drop_left]
    simp [Munch.word]
    omega
  have whole := length_of_item _ (List.cons_ne_nil _ _) taken
  simp only [List.cons_append, List.append_assoc, List.nil_append, List.length_cons,
    List.length_append, List.length_nil] at whole
  omega

theorem length_openComment {body : List Char} (h : Inside body) :
    length ('/' :: '*' :: body) = body.length + 2 := by
  have taken : item (('/' :: '*' :: body) ++ []) = ('/' :: '*' :: body).length := by
    simp only [List.append_nil, item, blockRest, Munch.andThen, many_inside h, List.drop_length]
    simp [Munch.word]
    omega
  have whole := length_of_item _ (List.cons_ne_nil _ _) taken
  simpa using whole

/-! ## Trivia in front of a text -/

/-- A text is trivia in front of another. -/
inductive Before : List Char → List Char → Prop
  | nil {rest : List Char} : Before [] rest
  | blank {c : Char} {gap rest : List Char} :
      isBlank c = true → Before gap rest → Before (c :: gap) rest
  | lineBreak {c : Char} {gap rest : List Char} :
      Text.isLineBreak c = true → Before gap rest → Before (c :: gap) rest
  | lineComment {body gap rest : List Char} :
      (∀ c ∈ body, Text.isLineBreak c = false) →
      (gap ++ rest).head?.all Text.isLineBreak = true → Before gap rest →
      Before ('/' :: '/' :: (body ++ gap)) rest
  | blockComment {body gap rest : List Char} :
      Inside body → Before gap rest → Before ('/' :: '*' :: (body ++ '*' :: '/' :: gap)) rest
  | openComment {body : List Char} : Inside body → Before ('/' :: '*' :: body) []

namespace Before

/-- **Trivia is taken whole**, with what there is of it at the front of the text behind. -/
theorem length_append {gap rest : List Char} (h : Before gap rest) :
    length (gap ++ rest) = gap.length + length rest := by
  induction h with
  | nil => rw [List.nil_append, List.length_nil, Nat.zero_add]
  | blank blank _ ih =>
    rw [List.cons_append, length_blank _ blank, ih, List.length_cons]
    omega
  | lineBreak breaks _ ih =>
    rw [List.cons_append, length_lineBreak _ breaks, ih, List.length_cons]
    omega
  | lineComment line ended _ ih =>
    rw [List.cons_append, List.cons_append, List.append_assoc, length_lineComment line ended, ih]
    simp only [List.length_cons, List.length_append]
    omega
  | blockComment inside _ ih =>
    simp only [List.cons_append, List.append_assoc]
    rw [length_blockComment _ inside, ih]
    simp only [List.length_cons, List.length_append]
    omega
  | openComment inside =>
    rw [List.append_nil, length_openComment inside, length_nil]
    rfl

/-- Trivia is taken, and no more than it, in front of a text in which no item begins. -/
theorem length_eq {gap rest : List Char} (h : Before gap rest) (none : item rest = 0) :
    length (gap ++ rest) = gap.length := by
  rw [h.length_append, length_eq_zero none, Nat.add_zero]

/-- Trivia in front of trivia is trivia. -/
theorem append {gap gap' rest : List Char} (h : Before gap (gap' ++ rest)) (h' : Before gap' rest) :
    Before (gap ++ gap') rest := by
  generalize behind : gap' ++ rest = all at h
  induction h with
  | nil => exact h'
  | blank blank _ ih => exact .blank blank (ih behind)
  | lineBreak breaks _ ih => exact .lineBreak breaks (ih behind)
  | lineComment line ended _ ih =>
    rw [List.cons_append, List.cons_append, List.append_assoc]
    refine .lineComment line ?_ (ih behind)
    rwa [List.append_assoc, behind]
  | blockComment inside _ ih =>
    simp only [List.cons_append, List.append_assoc]
    exact .blockComment inside (ih behind)
  | openComment inside =>
    obtain ⟨rfl, rfl⟩ := List.append_eq_nil_iff.mp behind
    rw [List.append_nil]
    exact .openComment inside

/-- Trivia in front of a text stays trivia when the text is taken away. -/
theorem alone {gap rest : List Char} (h : Before gap rest) : Before gap [] := by
  induction h with
  | nil => exact .nil
  | blank blank _ ih => exact .blank blank ih
  | lineBreak breaks _ ih => exact .lineBreak breaks ih
  | @lineComment body gap rest line ended _ ih =>
    refine .lineComment line ?_ ih
    cases gap with
    | nil => rfl
    | cons c gap => simpa using ended
  | blockComment inside _ ih => exact .blockComment inside ih
  | openComment inside => exact .openComment inside

/-- Trivia that is followed by something other than a line end is trivia in front of any text: nothing
in it waits for its end. -/
theorem move {gap rest : List Char} {c : Char} (h : Before gap (c :: rest))
    (apart : Text.isLineBreak c = false) (rest' : List Char) : Before gap rest' := by
  generalize behind : c :: rest = all at h
  induction h with
  | nil => exact .nil
  | blank blank _ ih => exact .blank blank (ih behind)
  | lineBreak breaks _ ih => exact .lineBreak breaks (ih behind)
  | @lineComment body gap rest line ended _ ih =>
    refine .lineComment line ?_ (ih behind)
    cases gap with
    | nil => subst behind; simp [apart] at ended
    | cons d gap => simpa using ended
  | blockComment inside _ ih => exact .blockComment inside (ih behind)
  | openComment inside => cases behind

end Before

/-- One item goes in front of trivia. -/
private theorem exists_item {cs : List Char} (taken : 0 < item cs) :
    ∃ first rest, cs = first ++ rest ∧ item cs = first.length ∧
      ∀ gap rest', rest = gap ++ rest' → Before gap rest' → Before (first ++ gap) rest' := by
  unfold item at taken ⊢
  split at taken
  · next cs =>
    refine ⟨'/' :: '/' :: cs.takeWhile (fun c => !Text.isLineBreak c),
      cs.dropWhile (fun c => !Text.isLineBreak c), ?_, ?_, fun gap rest' split before => ?_⟩
    · rw [List.cons_append, List.cons_append, List.takeWhile_append_dropWhile]
    · simp only [Munch.run, List.length_cons]
      omega
    · refine .lineComment (fun c member => ?_) ?_ before
      · simpa using List.mem_takeWhile_imp member
      · rw [← split]
        have stops := List.head?_dropWhile_not (fun c => !Text.isLineBreak c) cs
        cases ended : (cs.dropWhile fun c => !Text.isLineBreak c).head? with
        | none => rfl
        | some c => rw [ended] at stops; simpa using stops
  · next cs =>
    rcases exists_inside cs with ⟨body, rest, rfl, inside⟩ | inside
    · refine ⟨'/' :: '*' :: (body ++ ['*', '/']), rest, by simp, ?_, fun gap rest' _ before => ?_⟩
      · simp only [blockRest, Munch.andThen, many_inside_append rest inside, List.drop_left]
        simp [Munch.word]
        omega
      · simpa using Before.blockComment inside before
    · refine ⟨'/' :: '*' :: cs, [], by simp, ?_, fun gap rest' split _ => ?_⟩
      · simp only [blockRest, Munch.andThen, many_inside inside, List.drop_length]
        simp [Munch.word]
        omega
      · obtain ⟨rfl, rfl⟩ := List.append_eq_nil_iff.mp split.symm
        rw [List.append_nil]
        exact .openComment inside
  · next cs =>
    exact ⟨['\r', '\n'], cs, rfl, rfl,
      fun gap rest' _ before => .lineBreak rfl (.lineBreak rfl before)⟩
  · cases cs with
    | nil => cases taken
    | cons c cs =>
      simp only [Munch.one] at taken ⊢
      split at taken
      · next space =>
        refine ⟨[c], cs, rfl, if_pos space, fun gap rest' _ before => ?_⟩
        rcases Bool.or_eq_true_iff.mp space with blank | breaks
        · exact .blank blank before
        · exact .lineBreak breaks before
      · exact absurd taken (Nat.lt_irrefl 0)

/-- **A text is trivia and a rest that begins with none**, and the scan takes the trivia. -/
theorem exists_before (cs : List Char) :
    ∃ gap rest, cs = gap ++ rest ∧ Before gap rest ∧ item rest = 0 ∧ length cs = gap.length := by
  induction cs using Munch.many_induction bounded_item with
  | stop cs none => exact ⟨[], cs, rfl, .nil, none, length_eq_zero none⟩
  | more cs n taken ih =>
    have some : 0 < item cs := by omega
    obtain ⟨first, behind, rfl, size, front⟩ := exists_item some
    rw [taken] at size
    rw [size, List.drop_left] at ih
    obtain ⟨gap, rest, rfl, before, none, _⟩ := ih
    have whole : Before (first ++ gap) rest := front gap rest rfl before
    refine ⟨first ++ gap, rest, (List.append_assoc _ _ _).symm, whole, none, ?_⟩
    rw [← List.append_assoc, whole.length_eq none]

/-- What the scan takes is trivia in front of what it leaves. -/
theorem before_of_length {gap rest : List Char} (h : length (gap ++ rest) = gap.length) :
    Before gap rest := by
  obtain ⟨gap', rest', split, before, _, taken⟩ := exists_before (gap ++ rest)
  obtain ⟨rfl, rfl⟩ := List.append_inj split (h.symm.trans taken)
  exact before

/-- Behind what the scan takes no item begins. -/
theorem item_of_length {gap rest : List Char} (h : length (gap ++ rest) = gap.length) :
    item rest = 0 := by
  have none := item_drop_length (gap ++ rest)
  rwa [h, List.drop_left] at none

/-- Trivia that is scanned on its own is taken whole. -/
theorem length_alone {gap rest : List Char} (h : length (gap ++ rest) = gap.length) :
    length gap = gap.length := by
  have := (before_of_length h).alone.length_eq rfl
  rwa [List.append_nil] at this

/-! ## Where no item begins -/

/-- A text begins with no item when it begins with neither a blank nor a line end nor the mark of a
comment. -/
theorem item_cons_eq_zero_iff {c : Char} {cs : List Char} :
    item (c :: cs) = 0 ↔
      isSpace c = false ∧ (c = '/' → cs.head? ≠ some '/' ∧ cs.head? ≠ some '*') := by
  unfold item
  split
  · next h => obtain ⟨rfl, rfl⟩ := List.cons.inj h; simp
  · next h => obtain ⟨rfl, rfl⟩ := List.cons.inj h; simp
  · next h => obtain ⟨rfl, rfl⟩ := List.cons.inj h; simp [isSpace, isBlank, Text.isLineBreak]
  · next line block _ =>
    simp only [Munch.one, isSpace]
    split
    · next space => simp [space]
    · next space =>
      simp only [Bool.not_eq_true] at space
      simp only [space, true_and, true_iff]
      rintro rfl
      constructor
      · intro head
        obtain ⟨tail, rfl⟩ := List.head?_eq_some_iff.mp head
        exact line tail rfl
      · intro head
        obtain ⟨tail, rfl⟩ := List.head?_eq_some_iff.mp head
        exact block tail rfl

/-- Trivia in front of a text in which no item begins is trivia in front of any text. -/
theorem Before.move_of_item {gap rest : List Char} (h : Before gap rest) (nonempty : rest ≠ [])
    (none : item rest = 0) (rest' : List Char) : Before gap rest' := by
  obtain ⟨c, rest, rfl⟩ := List.exists_cons_of_ne_nil nonempty
  have apart : isSpace c = false := (item_cons_eq_zero_iff.mp none).1
  exact h.move (Bool.or_eq_false_iff.mp apart).2 rest'

/-- Where no item begins, none begins when a blank or a line end takes the place of what follows. -/
theorem item_append_eq_zero {front rest rest' : List Char} (nonempty : front ≠ [])
    (none : item (front ++ rest) = 0) (spaced : rest'.head?.all isSpace = true) :
    item (front ++ rest') = 0 := by
  obtain ⟨c, front, rfl⟩ := List.exists_cons_of_ne_nil nonempty
  rw [List.cons_append, item_cons_eq_zero_iff] at none ⊢
  refine ⟨none.1, fun slash => ?_⟩
  cases front with
  | cons d front => exact none.2 slash
  | nil =>
    cases rest' with
    | nil => simp
    | cons d rest' =>
      have space : isSpace d = true := by simpa using spaced
      simp only [List.nil_append, List.head?_cons, ne_eq, Option.some.injEq]
      constructor <;> rintro rfl <;> exact absurd space (by decide)

/-- Trivia that ends inside a comment which nothing closes. -/
def EndsOpen (gap : List Char) : Prop :=
  ∃ front body, gap = front ++ '/' :: '*' :: body ∧ Before front ('/' :: '*' :: body) ∧ Inside body

/-- **Trivia that does not end inside a comment is trivia in front of a line end.** -/
theorem Before.extend {gap rest : List Char} (h : Before gap []) (closed : ¬ EndsOpen gap)
    (ended : rest.head?.all Text.isLineBreak = true) : Before gap rest := by
  generalize behind : ([] : List Char) = all at h
  induction h with
  | nil => exact .nil
  | blank blank _ ih =>
    refine .blank blank (ih (fun open' => closed ?_) behind)
    obtain ⟨front, body, rfl, before, inside⟩ := open'
    exact ⟨_ :: front, body, rfl, .blank blank before, inside⟩
  | lineBreak breaks _ ih =>
    refine .lineBreak breaks (ih (fun open' => closed ?_) behind)
    obtain ⟨front, body, rfl, before, inside⟩ := open'
    exact ⟨_ :: front, body, rfl, .lineBreak breaks before, inside⟩
  | @lineComment comment gap rest line ended' _ ih =>
    subst behind
    refine .lineComment line ?_ (ih (fun open' => closed ?_) rfl)
    · cases gap with
      | nil => exact ended
      | cons c gap => simpa using ended'
    · obtain ⟨front, body, rfl, before, inside⟩ := open'
      refine ⟨'/' :: '/' :: (comment ++ front), body, by simp, .lineComment line ?_ before, inside⟩
      rwa [List.append_nil] at ended'
  | @blockComment comment gap rest inside' _ ih =>
    refine .blockComment inside' (ih (fun open' => closed ?_) behind)
    obtain ⟨front, body, rfl, before, inside⟩ := open'
    exact ⟨'/' :: '*' :: (comment ++ '*' :: '/' :: front), body, by simp,
      .blockComment inside' before, inside⟩
  | @openComment body inside => exact absurd ⟨[], body, rfl, .nil, inside⟩ closed

end Lexis.Trivia
