import Lexis.Proofs.Lexer.Progress
import Mathlib.Logic.Function.Basic

/-!
# Stepping, saving and restoring

A lexer is asked for its next token in two ways, with the end repeated or with nothing behind it, and
whether it is at its end; it is saved and restored in between. Whatever is done, in whatever order, an
answer depends on one number: how many tokens the lexer in hand handed out. Its token is the one whose
turn it is in the list of all tokens of the text (`byTurn_run`), and a lexer that was restored goes on as
if nothing had been done since it was saved.

The invariant is `Stands`: a lexer either runs and has the rest of the list in front of it, or it holds
the last token of the list and has nothing left to read.
-/

set_option autoImplicit false

namespace Lexis

/-- What a lexer is asked for: the next token, the next token unless the end was handed out, or whether
it is at its end. -/
inductive Request where
  | token
  | item
  | atEnd

/-- What a lexer answers. -/
inductive Answer where
  | token (t? : Option Token)
  | flag (b : Bool)

/-- A lexer and how many tokens it handed out. -/
structure Reading where
  lexer : Lexer
  produced : Nat

/-- What a lexer answers to a request. -/
def Reading.answer (r : Reading) : Request → Answer
  | .token => .token (some r.lexer.next.1)
  | .item => .token (r.lexer.next?.map Prod.fst)
  | .atEnd => .flag r.lexer.atEnd

/-- A lexer behind a request. -/
def Reading.behind (r : Reading) : Request → Reading
  | .token => ⟨r.lexer.next.2, r.produced + 1⟩
  | .item =>
    match r.lexer.next? with
    | none => r
    | some (_, after) => ⟨after, r.produced + 1⟩
  | .atEnd => r

/-- What is done with the lexer in hand: it is asked, saved in a slot, or replaced by what was saved. -/
inductive Operation where
  | ask (request : Request)
  | save (slot : Nat)
  | restore (slot : Nat)

/-- The lexer in hand and the saved ones, each with its own count. -/
structure Desk where
  inHand : Reading
  saved : Nat → Option Reading

namespace Desk

/-- The desk in front of a text. -/
def start (v : Vocabulary) (text : List Char) : Desk where
  inHand := ⟨Lexer.start v text, 0⟩
  saved := fun _ => none

/-- The desk behind an operation. A slot in which nothing was saved restores nothing. -/
def perform (d : Desk) : Operation → Desk
  | .ask request => { d with inHand := d.inHand.behind request }
  | .save slot => { d with saved := Function.update d.saved slot (some d.inHand) }
  | .restore slot => { d with inHand := (d.saved slot).getD d.inHand }

/-- The desk behind operations. -/
def run (d : Desk) (operations : List Operation) : Desk := operations.foldl perform d

/-- What is answered to the requests among operations. -/
def answers (d : Desk) : List Operation → List Answer
  | [] => []
  | .ask request :: operations => d.inHand.answer request :: (d.perform (.ask request)).answers operations
  | .save slot :: operations => (d.perform (.save slot)).answers operations
  | .restore slot :: operations => (d.perform (.restore slot)).answers operations

end Desk

/-- **A lexer answers by turn**: as the list of all tokens says, for the tokens that it handed out. -/
structure ByTurn (tokens : List Token) (r : Reading) : Prop where
  token : ∀ t, tokens[r.produced]? = some t → r.answer .token = .token (some t)
  /-- Behind the list its last token comes every time. -/
  token_again : tokens.length ≤ r.produced → ∃ last, tokens.getLast? = some last ∧
    last.kind = .endOfInput ∧ r.answer .token = .token (some last)
  item : r.answer .item = .token tokens[r.produced]?
  atEnd_behind : tokens.length ≤ r.produced → r.answer .atEnd = .flag true
  /-- With nothing left to read, it is the turn of the token that marks the end. -/
  kind_of_atEnd : ∀ t, tokens[r.produced]? = some t → r.answer .atEnd = .flag true →
    t.kind = .endOfInput

/-! ## Where a lexer stands -/

namespace Lexer

/-- **A step tells what it is**: it either hands out the end, which the lexer then holds with nothing
left to read, or a token of another kind, and the lexer runs on. -/
theorem next_cases {l : Lexer} (running : l.finished? = none) :
    (l.next.1.kind = .endOfInput ∧ l.next.2.finished? = some l.next.1 ∧ l.next.2.rest = []) ∨
      (l.next.1.kind ≠ .endOfInput ∧ l.next.2.finished? = none) := by
  obtain ⟨pieces, last, cut⟩ := Cut.exists_cut l.vocabulary l.rest
  generalize here : l.rest = text at cut
  cases cut with
  | last trivia =>
    rw [← here] at trivia
    rw [next_last running trivia]
    exact .inl ⟨rfl, rfl, rfl⟩
  | piece trivia found _ =>
    rw [next_piece running here trivia found]
    exact .inr ⟨(Lexeme.kind_of_first? found).1, running⟩

/-- With nothing left to read, the next token marks the end. -/
theorem kind_next_of_rest_eq_nil {l : Lexer} (running : l.finished? = none) (nothing : l.rest = []) :
    l.next.1.kind = .endOfInput := by
  have trivia : Trivia.length l.rest = l.rest.length := by
    rw [nothing]
    exact Trivia.length_nil
  rw [next_last running trivia]
  rfl

end Lexer

/-- **Where a lexer stands** in the list of all tokens. -/
inductive Stands (tokens : List Token) : Reading → Prop
  | running {r : Reading} : r.lexer.finished? = none → r.lexer.remaining = tokens.drop r.produced →
      Stands tokens r
  | ended {r : Reading} {last : Token} : r.lexer.finished? = some last → r.lexer.rest = [] →
      tokens.getLast? = some last → last.kind = .endOfInput → tokens.length ≤ r.produced →
      Stands tokens r

/-- A lexer that starts in front of a text stands in front of its tokens. -/
theorem stands_start (v : Vocabulary) (text : List Char) :
    Stands (tokensOf v text) (Desk.start v text).inHand :=
  .running rfl rfl

/-- What remains of a lexer that runs is its next token and what remains behind it. -/
theorem Lexer.remaining_of_running {l : Lexer} (running : l.finished? = none) :
    l.remaining = l.next.1 :: l.next.2.remaining :=
  remaining_of_next? (by simp [next?, running])

namespace Stands

variable {tokens : List Token} {r : Reading}

/-- **A step keeps to the list.** -/
theorem next (stands : Stands tokens r) : Stands tokens ⟨r.lexer.next.2, r.produced + 1⟩ := by
  cases stands with
  | running running remaining =>
    have split := (Lexer.remaining_of_running running).symm.trans remaining
    have behind : r.lexer.next.2.remaining = tokens.drop (r.produced + 1) := by
      rw [← List.tail_drop, ← split, List.tail_cons]
    rcases Lexer.next_cases running with ⟨kind, finished, nothing⟩ | ⟨-, running⟩
    · -- nothing remains behind the end, so the token is the last of the list
      have done : r.lexer.next.2.remaining = [] :=
        Lexer.remaining_of_done (by simp [Lexer.next?, finished])
      have last : tokens.getLast? = some r.lexer.next.1 := by
        rw [← List.take_append_drop r.produced tokens, ← split, done, List.getLast?_concat]
      exact .ended finished nothing last kind (List.drop_eq_nil_iff.mp (behind.symm.trans done))
    · exact .running running behind
  | ended finished nothing last kind behind =>
    have same : r.lexer.next.2 = r.lexer := by simp only [Lexer.next, finished]
    rw [same]
    exact .ended finished nothing last kind (Nat.le_succ_of_le behind)

/-- A request keeps to the list. -/
theorem behind (stands : Stands tokens r) (request : Request) : Stands tokens (r.behind request) := by
  cases request with
  | token => exact stands.next
  | item =>
    cases ended : r.lexer.finished?.isSome with
    | false => simpa [Reading.behind, Lexer.next?, ended] using stands.next
    | true => simpa [Reading.behind, Lexer.next?, ended] using stands
  | atEnd => exact stands

/-- **A lexer that keeps to the list answers by turn.** -/
theorem byTurn (stands : Stands tokens r) : ByTurn tokens r := by
  cases stands with
  | running running remaining =>
    have split := (Lexer.remaining_of_running running).symm.trans remaining
    have turn : tokens[r.produced]? = some r.lexer.next.1 := by
      rw [← List.head?_drop, ← split, List.head?_cons]
    have within : r.produced < tokens.length := (List.getElem?_eq_some_iff.mp turn).1
    refine ⟨fun t here => ?_, fun behind => ?_, ?_, fun behind => ?_, fun t here atEnd => ?_⟩
    · rw [← turn.symm.trans here]
      rfl
    · exact absurd within (Nat.not_lt.mpr behind)
    · simp [Reading.answer, Lexer.next?, running, turn]
    · exact absurd within (Nat.not_lt.mpr behind)
    · obtain rfl : r.lexer.next.1 = t := Option.some.inj (turn.symm.trans here)
      have nothing : r.lexer.rest = [] := by simpa [Reading.answer, Lexer.atEnd] using atEnd
      exact Lexer.kind_next_of_rest_eq_nil running nothing
  | ended finished nothing last kind behind =>
    have none_left : tokens[r.produced]? = none := List.getElem?_eq_none behind
    refine ⟨fun t here => ?_, fun _ => ⟨_, last, kind, ?_⟩, ?_, fun _ => ?_, fun t here _ => ?_⟩
    · exact absurd (none_left.symm.trans here) (by simp)
    · simp [Reading.answer, Lexer.next, finished]
    · simp [Reading.answer, Lexer.next?, finished, none_left]
    · simp [Reading.answer, Lexer.atEnd, nothing]
    · exact absurd (none_left.symm.trans here) (by simp)

end Stands

/-! ## Runs -/

namespace Desk

variable {tokens : List Token}

/-- All lexers of a desk stand in one list of tokens. -/
def AllStand (tokens : List Token) (d : Desk) : Prop :=
  Stands tokens d.inHand ∧ ∀ slot r, d.saved slot = some r → Stands tokens r

theorem AllStand.perform {d : Desk} (all : d.AllStand tokens) (operation : Operation) :
    (d.perform operation).AllStand tokens := by
  obtain ⟨inHand, saved⟩ := all
  cases operation with
  | ask request => exact ⟨inHand.behind request, saved⟩
  | save slot =>
    refine ⟨inHand, fun other r found => ?_⟩
    by_cases h : other = slot
    · subst h
      simp only [Desk.perform, Function.update_self, Option.some.injEq] at found
      exact found ▸ inHand
    · simp only [Desk.perform, Function.update_of_ne h] at found
      exact saved other r found
  | restore slot =>
    refine ⟨?_, saved⟩
    cases found : d.saved slot with
    | none => simpa [Desk.perform, found] using inHand
    | some r => simpa [Desk.perform, found] using saved slot r found

theorem AllStand.run {d : Desk} (all : d.AllStand tokens) (operations : List Operation) :
    (d.run operations).AllStand tokens := by
  induction operations generalizing d with
  | nil => exact all
  | cons operation operations ih => exact ih (all.perform operation)

/-- Operations that do not save in a slot leave it as it is. -/
theorem saved_run {d : Desk} {slot : Nat} {operations : List Operation}
    (untouched : .save slot ∉ operations) : (d.run operations).saved slot = d.saved slot := by
  induction operations generalizing d with
  | nil => rfl
  | cons operation operations ih =>
    obtain ⟨other, untouched⟩ := not_or.mp (mt List.mem_cons.mpr untouched)
    refine (ih untouched).trans ?_
    cases operation with
    | ask _ => rfl
    | save slot' => exact Function.update_of_ne (fun h => other (congrArg Operation.save h)) _ _
    | restore _ => rfl

/-- **What is answered** depends on the lexer in hand and on the slots that are restored. -/
theorem answers_congr {d e : Desk} {operations : List Operation} (inHand : d.inHand = e.inHand)
    (saved : ∀ slot, .restore slot ∈ operations → d.saved slot = e.saved slot) :
    d.answers operations = e.answers operations := by
  induction operations generalizing d e with
  | nil => rfl
  | cons operation operations ih =>
    have later : ∀ slot, .restore slot ∈ operations → d.saved slot = e.saved slot :=
      fun slot member => saved slot (List.mem_cons_of_mem _ member)
    cases operation with
    | ask request =>
      rw [answers, answers, inHand]
      exact congrArg (_ :: ·) (ih (by rw [perform, perform, inHand]) later)
    | save slot =>
      refine ih inHand fun other member => ?_
      simp only [perform, inHand, Function.update_apply, later other member]
    | restore slot =>
      refine ih ?_ later
      simp only [perform, inHand, saved slot (List.mem_cons_self ..)]

/-- **Whatever is done with the lexers of a text, they answer by turn**, and a lexer that is restored
answers from there on, saved and restored further as it may be, what it would have answered without the
operations in between. -/
theorem byTurn_run (v : Vocabulary) (text : List Char) (operations : List Operation) :
    ByTurn (tokensOf v text) ((start v text).run operations).inHand ∧
      ∀ slot between later, .save slot ∉ between →
        (∀ other, .restore other ∈ later → .save other ∉ between) →
        let saved := ((start v text).run operations).perform (.save slot)
        let restored := saved.run (between ++ [.restore slot])
        restored.inHand = saved.inHand ∧ restored.answers later = saved.answers later := by
  have all : (start v text).AllStand (tokensOf v text) := ⟨stands_start v text, nofun⟩
  refine ⟨(all.run operations).1.byTurn, fun slot between later kept others => ?_⟩
  intro saved restored
  have last : restored = (saved.run between).perform (.restore slot) := by
    simp only [restored, run, List.foldl_append, List.foldl_cons, List.foldl_nil]
  have inHand : restored.inHand = saved.inHand := by
    have found : (saved.run between).saved slot = some saved.inHand :=
      (saved_run kept).trans (Function.update_self ..)
    rw [last, perform, found, Option.getD_some]
  refine ⟨inHand, answers_congr inHand fun other member => ?_⟩
  rw [last]
  exact saved_run (others other member)

end Desk

end Lexis
