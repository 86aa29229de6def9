import Lexis.Proofs.Text.Slice
import Lexis.Proofs.Scan.Munch

/-!
# Walking over a text by byte offsets

A walk moves a cursor over a text. The cursor is a number of bytes, which nothing keeps on a character
boundary or within the text; a walk stumbles when it asks for a part of the text from anywhere else. All
offsets that the cursor is moved to are kept.

`Goes` says of a walk that it does not stumble: from a place of the text it comes to another with an
answer, and every offset on the way is that of a place not in front of a given one. A place is told by what
of the text is behind it. Walks that go one behind the other go together, and a loop goes if its turns
do and each gets further. `Passes` forgets the answer and says how far a walk goes from every place, by a
form that measures the front of a text.
-/

set_option autoImplicit false

namespace Lexis

/-- Why a walk comes to no end. -/
inductive Stumble where
  /-- A part of the text was asked for that leaves the text, runs backwards or cuts a character. -/
  | offBoundary
  /-- A turn of a loop did not bring the cursor further on in the text. -/
  | standstill
deriving DecidableEq

/-- The offset at which a walk is, and those to which it was moved, the last first. -/
structure Cursor where
  offset : Nat
  trail : List Nat
deriving DecidableEq

/-- A walk over a text. -/
abbrev Walk := ReaderT (List Char) (StateT Cursor (Except Stumble))

namespace Walk

/-! ## Steps -/

/-- The offset of the cursor. -/
def offset : Walk Nat := return (← get).offset

/-- Moves the cursor to an offset. -/
def moveTo (offset : Nat) : Walk Unit := modify fun c => ⟨offset, offset :: c.trail⟩

/-- Moves the cursor on by so many bytes. -/
def jump (bytes : Nat) : Walk Unit := do moveTo ((← offset) + bytes)

/-- The text behind the cursor. -/
def ahead : Walk (List Char) := do
  match Text.charIndex? (← read) (← offset) with
  | some passed => return (← read).drop passed
  | none => throw .offBoundary

/-- The text from an offset up to the cursor. -/
def sliceFrom (start : Nat) : Walk (List Char) := do
  match Text.slice? (← read) start (← offset) with
  | some part => return part
  | none => throw .offBoundary

/-- The character that so many characters further on begins. -/
def peek (lookahead : Nat) : Walk (Option Char) := return (← ahead)[lookahead]?

/-- Moves the cursor behind the next character, if there is one. -/
def advance : Walk (Option Char) := do
  match ← peek 0 with
  | some c =>
    jump c.utf8Size
    return some c
  | none => return none

/-- Moves the cursor behind the next character if it is one of the given. -/
def eatAny (options : List Char) : Walk Bool := do
  match ← peek 0 with
  | some c =>
    if options.contains c then
      let _ ← advance
      return true
    else return false
  | none => return false

/-- Takes turns until one is the last. -/
def turns {σ : Type} (turn : σ → Walk (ForInStep σ)) (s : σ) : Walk σ := fun text c => go text s c
where
  /-- Goes on from a cursor. -/
  go (text : List Char) (s : σ) (c : Cursor) : Except Stumble (σ × Cursor) :=
    match turn s text c with
    | .error e => .error e
    | .ok (.done s, c') => .ok (s, c')
    | .ok (.yield s, c') =>
      if c.offset < c'.offset ∧ c'.offset ≤ Text.byteLength text then go text s c'
      else .error .standstill
  termination_by Text.byteLength text - c.offset

/-- Moves the cursor on as long as the next character is of a class. -/
def advanceWhile (p : Char → Bool) : Walk Unit :=
  turns (fun _ => do
    match ← peek 0 with
    | some c =>
      if p c then
        let _ ← advance
        return .yield ()
      else return .done ()
    | none => return .done ()) ()

/-- Cuts out what a walk passes. -/
def cut (x : Walk Unit) : Walk (List Char) := do
  let start ← offset
  x
  sliceFrom start

/-! ## Places -/

/-- The offset of the place of a text that has the given rest behind it. -/
def offsetOf (text rest : List Char) : Nat := Text.byteLength text - Text.byteLength rest

/-- **A walk goes** from the place in front of `rest` to the place in front of `left`, with an answer. It is
moved only to places of the text that are not in front of the place before `low`. -/
def Goes {α : Type} (text low : List Char) (x : Walk α) (rest : List Char) (a : α) (left : List Char) :
    Prop :=
  low <:+ text → rest <:+ low → left <:+ low ∧ ∀ trail, ∃ passed,
    x text ⟨offsetOf text rest, trail⟩ = .ok (a, ⟨offsetOf text left, passed ++ trail⟩) ∧
    ∀ offset ∈ passed, ∃ place, place <:+ low ∧ offset = offsetOf text place

variable {text low rest mid left part : List Char} {α β : Type} {a : α} {b : β}

theorem offsetOf_append (front rest : List Char) : offsetOf (front ++ rest) rest = Text.byteLength front := by
  rw [offsetOf, Text.byteLength_append, Nat.add_sub_cancel]

/-- What is in front of a part of a text is as long as the part and what is in front of the rest. -/
theorem offsetOf_part (suffix : part ++ left <:+ text) :
    offsetOf text left = offsetOf text (part ++ left) + Text.byteLength part := by
  obtain ⟨front, rfl⟩ := suffix
  rw [offsetOf_append, ← List.append_assoc, offsetOf_append, Text.byteLength_append]

/-- Of two places, the one with less behind it is further on. -/
theorem offsetOf_lt (inside : rest <:+ text) (inside' : left <:+ text) (shorter : left.length < rest.length) :
    offsetOf text rest < offsetOf text left := by
  obtain ⟨part, rfl⟩ := List.suffix_of_suffix_length_le inside' inside (Nat.le_of_lt shorter)
  rw [offsetOf_part inside]
  cases part with
  | nil => exact absurd shorter (Nat.lt_irrefl _)
  | cons c part =>
    have := c.utf8Size_pos
    rw [Text.byteLength_cons]
    omega

theorem offsetOf_le_byteLength (text rest : List Char) : offsetOf text rest ≤ Text.byteLength text :=
  Nat.sub_le _ _

/-! ## Walks that go -/

theorem goes_pure (a : α) (rest : List Char) : Goes text low (pure a) rest a rest :=
  fun _ below => ⟨below, fun _ => ⟨[], rfl, nofun⟩⟩

/-- **Walks go one behind the other.** -/
theorem Goes.bind {x : Walk α} {f : α → Walk β} (first : Goes text low x rest a mid)
    (second : Goes text low (f a) mid b left) : Goes text low (x >>= f) rest b left := by
  intro whole below
  obtain ⟨between, first⟩ := first whole below
  obtain ⟨last, second⟩ := second whole between
  refine ⟨last, fun trail => ?_⟩
  obtain ⟨passed, run, places⟩ := first trail
  obtain ⟨passed', run', places'⟩ := second (passed ++ trail)
  refine ⟨passed' ++ passed, ?_, fun offset member => ?_⟩
  · show (x text _ >>= fun p => f p.1 text p.2) = _
    rw [run, List.append_assoc]
    exact run'
  · rcases List.mem_append.mp member with later | earlier
    · exact places' offset later
    · exact places offset earlier

/-- A walk that only looks leaves the cursor. -/
private theorem goes_of_looks {x : Walk α}
    (looks : low <:+ text → rest <:+ low → ∀ trail, x text ⟨offsetOf text rest, trail⟩ =
      .ok (a, ⟨offsetOf text rest, trail⟩)) : Goes text low x rest a rest :=
  fun whole below => ⟨below, fun trail => ⟨[], looks whole below trail, nofun⟩⟩

theorem goes_offset (rest : List Char) : Goes text low offset rest (offsetOf text rest) rest :=
  goes_of_looks fun _ _ _ => rfl

theorem goes_moveTo (rest : List Char) (inside : left <:+ low) :
    Goes text low (moveTo (offsetOf text left)) rest () left :=
  fun _ _ => ⟨inside, fun _ => ⟨[offsetOf text left], rfl, fun _ member =>
    ⟨left, inside, List.mem_singleton.mp member⟩⟩⟩

theorem goes_jump (part left : List Char) :
    Goes text low (jump (Text.byteLength part)) (part ++ left) () left := by
  intro whole below
  have moved : Goes text low (moveTo (offsetOf text left)) (part ++ left) () left :=
    goes_moveTo _ ((List.suffix_append part left).trans below)
  rw [offsetOf_part (below.trans whole)] at moved
  exact ((goes_offset _).bind moved) whole below

/-- At a place of the text, what is ahead is the rest. -/
theorem goes_ahead (rest : List Char) : Goes text low ahead rest rest rest := by
  refine goes_of_looks fun whole below trail => ?_
  obtain ⟨front, rfl⟩ := below.trans whole
  have here : Text.charIndex? (front ++ rest) (offsetOf (front ++ rest) rest) = some front.length := by
    rw [offsetOf_append]
    exact Text.charIndex?_byteLength front rest
  have looked : ahead (front ++ rest) ⟨offsetOf (front ++ rest) rest, trail⟩ =
      .ok ((front ++ rest).drop front.length, ⟨offsetOf (front ++ rest) rest, trail⟩) := by
    show (match Text.charIndex? (front ++ rest) (offsetOf (front ++ rest) rest) with
      | some passed => (return (← read).drop passed : Walk (List Char))
      | none => throw Stumble.offBoundary) _ _ = _
    rw [here]
    rfl
  rw [looked, List.drop_left]

/-- From the lowest place up to the cursor, a part of the text is cut. -/
theorem goes_sliceFrom (part left : List Char) :
    Goes text (part ++ left) (sliceFrom (offsetOf text (part ++ left))) left part left := by
  refine goes_of_looks fun whole below trail => ?_
  have behind := offsetOf_part whole
  obtain ⟨front, rfl⟩ := whole
  rw [offsetOf_append] at behind ⊢
  have here : Text.slice? (front ++ (part ++ left)) (Text.byteLength front)
      (offsetOf (front ++ (part ++ left)) left) = some part := by
    rw [behind]
    exact Text.slice?_byteLength front part left
  show (match Text.slice? (front ++ (part ++ left)) (Text.byteLength front)
      (offsetOf (front ++ (part ++ left)) left) with
    | some part => (return part : Walk (List Char))
    | none => throw Stumble.offBoundary) _ _ = _
  rw [here]
  rfl

theorem goes_peek (lookahead : Nat) (rest : List Char) :
    Goes text low (peek lookahead) rest rest[lookahead]? rest :=
  (goes_ahead rest).bind (goes_pure _ rest)

/-- A text that shows two characters begins with them. -/
theorem exists_of_peek {cs : List Char} {c d : Char} (first : cs[0]? = some c) (second : cs[1]? = some d) :
    ∃ behind, cs = c :: d :: behind := by
  match cs, first, second with
  | _ :: _ :: behind, rfl, rfl => exact ⟨behind, rfl⟩

theorem goes_advance_nil : Goes text low advance [] none [] :=
  (goes_peek 0 []).bind (goes_pure none [])

theorem goes_advance (c : Char) (left : List Char) : Goes text low advance (c :: left) (some c) left := by
  have bytes : Text.byteLength [c] = c.utf8Size := by
    rw [Text.byteLength_cons, Text.byteLength_nil, Nat.add_zero]
  have moved : Goes text low _ _ _ _ := goes_jump [c] left
  rw [bytes] at moved
  exact (goes_peek 0 _).bind (moved.bind (goes_pure _ left))

theorem contains_singleton (d c : Char) : [d].contains c = (c == d) := by
  rw [List.contains_cons, List.contains_nil, Bool.or_false]

/-- A character is eaten if it is one of the given. -/
theorem goes_eatAny {options : List Char} {p : Char → Bool} (same : ∀ c, options.contains c = p c)
    (rest : List Char) :
    Goes text low (eatAny options) rest (rest.head?.any p) (rest.drop (Munch.one p rest)) := by
  cases rest with
  | nil => exact (goes_peek 0 []).bind (goes_pure _ _)
  | cons c left =>
    refine (goes_peek 0 _).bind ?_
    by_cases wanted : p c = true
    · have eaten : Munch.one p (c :: left) = 1 := if_pos wanted
      simp only [List.getElem?_cons_zero, same, wanted, List.head?_cons, Option.any_some, eaten,
        List.drop_succ_cons, List.drop_zero, if_true]
      exact (goes_advance c left).bind (goes_pure _ _)
    · have kept : Munch.one p (c :: left) = 0 := if_neg wanted
      simp only [List.getElem?_cons_zero, same, wanted, List.head?_cons, Option.any_some, kept,
        List.drop_zero, if_false, Bool.false_eq_true]
      exact goes_pure _ _

theorem goes_eatAny_of_ne {d : Char} (other : rest.head? ≠ some d) :
    Goes text low (eatAny [d]) rest false rest := by
  have eaten : Goes text low (eatAny [d]) rest _ _ := goes_eatAny (contains_singleton d) rest
  cases rest with
  | nil => exact eaten
  | cons c left =>
    have apart : (c == d) = false := by simpa using other
    rwa [List.head?_cons, Option.any_some, Munch.one, apart, if_neg Bool.false_ne_true] at eaten

/-! ## Loops -/

section Loops

variable {σ : Type} {turn : σ → Walk (ForInStep σ)} {s s' s'' : σ}

/-- A loop ends with a turn that is the last. -/
theorem goes_turns_done (last : Goes text low (turn s) rest (.done s') left) :
    Goes text low (turns turn s) rest s' left := by
  intro whole below
  obtain ⟨inside, run⟩ := last whole below
  refine ⟨inside, fun trail => ?_⟩
  obtain ⟨passed, run, places⟩ := run trail
  refine ⟨passed, ?_, places⟩
  show turns.go turn text s _ = _
  rw [turns.go, run]

/-- A loop goes on behind a turn that gets further. -/
theorem goes_turns_yield (first : Goes text low (turn s) rest (.yield s') mid)
    (shorter : mid.length < rest.length) (later : Goes text low (turns turn s') mid s'' left) :
    Goes text low (turns turn s) rest s'' left := by
  intro whole below
  obtain ⟨between, run⟩ := first whole below
  obtain ⟨inside, run'⟩ := later whole between
  refine ⟨inside, fun trail => ?_⟩
  obtain ⟨passed, run, places⟩ := run trail
  obtain ⟨passed', run', places'⟩ := run' (passed ++ trail)
  have further := offsetOf_lt (below.trans whole) (between.trans whole) shorter
  refine ⟨passed' ++ passed, ?_, fun offset member => ?_⟩
  · show turns.go turn text s _ = _
    rw [turns.go, run]
    simp only
    rw [if_pos ⟨further, offsetOf_le_byteLength text mid⟩, List.append_assoc]
    exact run'
  · rcases List.mem_append.mp member with later | earlier
    · exact places' offset later
    · exact places offset earlier

/-- **A loop passes what it repeats.** If a turn passes one item and notes whether it held a character of a
class, the loop goes on behind all items, and it noted whether one of them did. -/
theorem goes_turns_many {item : Munch} (bounded : Munch.Bounded item) {p : Char → Bool}
    {turn : Bool → Walk (ForInStep Bool)}
    (each : ∀ cs n saw, item cs = n + 1 →
      Goes text low (turn saw) cs (.yield (saw || (cs.take (n + 1)).any p)) (cs.drop (n + 1)))
    (cs : List Char) (saw : Bool) {noted : Bool}
    (last : Goes text low (turns turn (saw || (cs.take (Munch.many item cs)).any p))
      (cs.drop (Munch.many item cs)) noted left) :
    Goes text low (turns turn saw) cs noted left := by
  induction cs using Munch.many_induction bounded generalizing saw with
  | stop cs none =>
    rwa [Munch.many_eq_zero none, List.take_zero, List.any_nil, Bool.or_false, List.drop_zero] at last
  | more cs n taken ih =>
    have inside := bounded cs
    have behind : cs.drop (Munch.many item cs) =
        (cs.drop (n + 1)).drop (Munch.many item (cs.drop (n + 1))) := by
      rw [Munch.many_eq_add bounded taken, List.drop_drop]
    rw [behind, Munch.many_eq_add bounded taken, List.take_add, List.any_append,
      ← Bool.or_assoc] at last
    refine goes_turns_yield (each cs n saw taken) ?_ (ih _ last)
    rw [List.length_drop]
    omega

/-- A loop whose turns pass one item each goes on behind a row of items. -/
theorem goes_turns_row {Item : List Char → Prop} (nonempty : ∀ x, Item x → x ≠ [])
    (each : ∀ x rest, Item x → Goes text low (turn s) (x ++ rest) (.yield s) rest) {row : List Char}
    (items : Munch.Row Item row) (last : Goes text low (turns turn s) rest s' left) :
    Goes text low (turns turn s) (row ++ rest) s' left := by
  induction items with
  | nil => exact last
  | @cons x row item _ ih =>
    have shorter : (row ++ rest).length < (x ++ (row ++ rest)).length := by
      have := List.length_pos_iff.mpr (nonempty x item)
      simp only [List.length_append]
      omega
    rw [List.append_assoc]
    exact goes_turns_yield (each x _ item) shorter ih

end Loops

/-- All characters of a class that stand together are passed. -/
theorem goes_advanceWhile (p : Char → Bool) (rest : List Char) :
    Goes text low (advanceWhile p) rest () (rest.drop (Munch.run p rest)) := by
  unfold advanceWhile
  induction rest with
  | nil => exact goes_turns_done ((goes_peek 0 []).bind (goes_pure _ _))
  | cons c rest ih =>
    by_cases holds : p c = true
    · have size : Munch.run p (c :: rest) = Munch.run p rest + 1 := by simp [Munch.run, holds]
      rw [size, List.drop_succ_cons]
      refine goes_turns_yield ((goes_peek 0 _).bind ?_) (Nat.lt_succ_self _) ih
      simp only [List.getElem?_cons_zero, holds, if_true]
      exact (goes_advance c rest).bind (goes_pure _ _)
    · have size : Munch.run p (c :: rest) = 0 := by simp [Munch.run, holds]
      rw [size, List.drop_zero]
      refine goes_turns_done ((goes_peek 0 _).bind ?_)
      simp only [List.getElem?_cons_zero, holds, if_false, Bool.false_eq_true]
      exact goes_pure _ _

/-! ## Walks that pass forms -/

/-- **A walk passes a form**: wherever it begins, it comes behind what the form takes there. -/
def Passes (text low : List Char) (x : Walk α) (form : Munch) : Prop :=
  ∀ rest, ∃ a, Goes text low x rest a (rest.drop (form rest))

section Passes

variable {x : Walk α} {y : Walk β} {form first second : Munch}

theorem Passes.andThen (here : Passes text low x first) (there : Passes text low y second) :
    Passes text low (x >>= fun _ => y) (first.andThen second) := by
  intro rest
  obtain ⟨_, here⟩ := here rest
  obtain ⟨b, there⟩ := there (rest.drop (first rest))
  rw [List.drop_drop] at there
  exact ⟨b, here.bind there⟩

/-- A walk passes the same when what it comes to is put aside. -/
theorem Passes.put (passes : Passes text low x form) (b : β) :
    Passes text low (x >>= fun _ => pure b) form := by
  intro rest
  obtain ⟨_, goes⟩ := passes rest
  exact ⟨b, goes.bind (goes_pure b _)⟩

theorem passes_eatAny {options : List Char} {p : Char → Bool} (same : ∀ c, options.contains c = p c) :
    Passes text low (eatAny options) (Munch.one p) :=
  fun rest => ⟨_, goes_eatAny same rest⟩

/-- What is cut out of a text is what a walk passes. -/
theorem goes_cut {x : Walk Unit} {rest : List Char} (passes : Passes text rest x form) :
    Goes text rest (cut x) rest (rest.take (form rest)) (rest.drop (form rest)) := by
  obtain ⟨_, goes⟩ := passes rest
  have sliced : Goes text _ _ _ _ _ := goes_sliceFrom (rest.take (form rest)) (rest.drop (form rest))
  rw [List.take_append_drop] at sliced
  exact (goes_offset rest).bind (goes.bind sliced)

end Passes

end Walk

end Lexis
