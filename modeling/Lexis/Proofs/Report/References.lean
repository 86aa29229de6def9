import Lexis.Proofs.Lexer.Partition
import Lexis.Proofs.Report.FirstSeen
import Lexis.Report
import Mathlib.Data.List.Induction

/-!
# References are faithful

A table of references changes by `References.refer` alone, which either changes nothing or puts one value
behind the others (`values_refer`). So the values of a table are those that were referred to, in the order
in which they are first seen (`values_run_empty`), and whatever happens later leaves a number as it is
(`number?_run`).

What is written for a token can therefore be told by the last table (`written_append`), although it was
written by an earlier one.

A table knows values and no kinds. Tokens of one value are taken for the same for that, and rightly: the
text of an identifier or a literal tells its kind (`Lexeme.kind_of_named`), whatever is around it.
-/

set_option autoImplicit false

namespace Lexis

namespace References

/-- What a table is called for: the number of a value, given to it if it has none, or only looked up. -/
inductive Call where
  | refer (value : String)
  | number (value : String)

/-- What a table answers a call. -/
def answer (r : References) : Call → Option Nat
  | .refer value => some (r.refer value).1
  | .number value => r.number? value

/-- The table behind a call. -/
def behind (r : References) : Call → References
  | .refer value => (r.refer value).2
  | .number _ => r

/-- The table behind calls. -/
def run (r : References) (calls : List Call) : References := calls.foldl behind r

/-- The value that a call refers to, if it does not only look it up. -/
def Call.referred? : Call → Option String
  | .refer value => some value
  | .number _ => none

/-- **A table behind calls of a fresh one** as it should be. -/
structure Numbered (calls : List Call) (r : References) : Prop where
  /-- The values that were referred to stand in the order in which they are first seen. -/
  entries : r.entries = (calls.filterMap Call.referred?).eraseDups.zipIdx 1
  distinct : (r.entries.map Prod.fst).Nodup
  /-- Who refers to a value is told the number that it has from then on. -/
  refers : ∀ value, answer r (.refer value) = answer (behind r (.refer value)) (.number value)
  found : ∀ value n, answer r (.number value) = some n ↔ (value, n) ∈ r.entries
  missing : ∀ value, answer r (.number value) = none ↔ value ∉ calls.filterMap Call.referred?
  /-- A number that was given stays, and is told again to who refers to the value again. -/
  kept : ∀ later value n, answer r (.number value) = some n →
    answer (run r later) (.number value) = some n ∧ answer (run r later) (.refer value) = some n
  unchanged : ∀ value, behind r (.number value) = r

/-- What opens a token: a line break, if it starts a line behind others. -/
def opening (later : Bool) (t : Token) : String := if t.startsLine && later then "\n" else ""

/-- What is written for tokens, behind others or not, when a table knows the numbers. -/
inductive Writes (r : References) : Bool → List Token → String → Prop
  | nil {later : Bool} : Writes r later [] ""
  | reference {later : Bool} {t : Token} {ts : List Token} {n : Nat} {written : String} :
      isReferred t = true → r.number? t.value = some n → Writes r true ts written →
      Writes r later (t :: ts) (opening later t ++ s!"<ID{n}> " ++ written)
  | value {later : Bool} {t : Token} {ts : List Token} {written : String} :
      isReferred t = false → Writes r true ts written →
      Writes r later (t :: ts) (opening later t ++ t.value ++ " " ++ written)

/-- The values of the identifiers and literals of a token sequence. -/
def referredValues (ts : List Token) : List String := (ts.filter isReferred).map Token.value

/-- **Tokens are written with references**: what is written agrees with the table. -/
structure Rendered (ts : List Token) (written : String) (table : References) : Prop where
  entries : table.entries = (referredValues ts).eraseDups.zipIdx 1
  written : ∃ body, Writes table false (ts.filter fun t => !t.isEndOfInput) body ∧
    written = "Lexemes\n" ++ Report.rule ++ body ++ "\n" ++ Report.rule

/-- **Numbers tell** identifiers and literals of a token sequence apart. -/
structure Tells (ts : List Token) (table : References) : Prop where
  numbered : ∀ t ∈ ts, isReferred t = true → ∃ n, table.number? t.value = some n
  values : ∀ t ∈ ts, ∀ u ∈ ts, isReferred t = true → isReferred u = true →
    (table.number? t.value = table.number? u.value ↔ t.value = u.value)
  kinds : ∀ t ∈ ts, ∀ u ∈ ts, isReferred t = true → isReferred u = true →
    t.value = u.value → t.kind = u.kind

/-! ## Numbers -/

section

variable {r : References} {value : String} {n : Nat}

theorem number?_eq_some_iff : r.number? value = some n ↔ (value, n) ∈ r.entries := by
  rw [entries, List.mk_mem_zipIdx_iff_le_and_getElem?_sub, number?, Option.map_eq_some_iff]
  constructor
  · rintro ⟨i, here, rfl⟩
    obtain ⟨inside, same, -⟩ := List.idxOf?_eq_some_iff.mp here
    exact ⟨Nat.le_add_left 1 i, List.getElem?_eq_some_iff.mpr ⟨inside, same⟩⟩
  · rintro ⟨pos, here⟩
    obtain ⟨inside, same⟩ := List.getElem?_eq_some_iff.mp here
    refine ⟨n - 1, List.idxOf?_eq_some_iff.mpr ⟨inside, same, fun j before equal => ?_⟩,
      Nat.sub_add_cancel pos⟩
    -- a value stands in one place only
    have place : j = n - 1 := (List.Nodup.getElem_inj_iff r.distinct).mp (equal.trans same.symm)
    exact absurd place (Nat.ne_of_lt before)

/-- Different values have different numbers. -/
theorem number?_injective {other : String} (here : r.number? value = some n)
    (there : r.number? other = some n) : value = other := by
  rw [number?_eq_some_iff, entries, List.mk_mem_zipIdx_iff_le_and_getElem?_sub] at here there
  exact Option.some.inj (here.2.symm.trans there.2)

end

/-! ## Calls -/

/-- **A value that is referred to** stands among the others already, or is put behind them. -/
theorem values_refer (r : References) (value : String) :
    (r.refer value).2.values = if value ∈ r.values then r.values else r.values ++ [value] := by
  unfold refer
  split
  · next n found =>
    have seen : value ∈ r.values := by
      by_contra fresh
      rw [number?_eq_none_iff.mpr fresh] at found
      cases found
    rw [if_pos seen]
  · next missing => rw [if_neg (number?_eq_none_iff.mp missing)]

/-- The number that is answered is the one that the value has from then on. -/
theorem number?_refer (r : References) (value : String) :
    (r.refer value).2.number? value = some (r.refer value).1 := by
  unfold refer
  split
  · next n found => exact found
  · next missing =>
    rw [number?_eq_some_iff, entries, List.zipIdx_append]
    simp [Nat.add_comm]

theorem values_prefix_refer (r : References) (value : String) : r.values <+: (r.refer value).2.values := by
  rw [values_refer]
  split
  · exact List.prefix_rfl
  · exact List.prefix_append _ _

theorem values_prefix_run (r : References) (calls : List Call) : r.values <+: (run r calls).values := by
  induction calls generalizing r with
  | nil => exact List.prefix_rfl
  | cons call calls ih =>
    cases call with
    | refer value => exact (values_prefix_refer r value).trans (ih (r.refer value).2)
    | number value => exact ih r

/-- **A number stays** whatever a table is called for later. -/
theorem number?_run {r : References} {value : String} {n : Nat} (given : r.number? value = some n)
    (calls : List Call) : (run r calls).number? value = some n := by
  rw [number?_eq_some_iff] at given ⊢
  obtain ⟨more, values⟩ := values_prefix_run r calls
  rw [entries, ← values, List.zipIdx_append]
  exact List.mem_append_left _ given

theorem run_append (r : References) (calls later : List Call) :
    run r (calls ++ later) = run (run r calls) later := List.foldl_append

/-- **The values of a table** are those that were referred to, in the order in which they are first
seen. -/
theorem values_run_empty (calls : List Call) :
    (run empty calls).values = (calls.filterMap Call.referred?).eraseDups := by
  induction calls using List.reverseRecOn with
  | nil => rfl
  | append_singleton calls call ih =>
    rw [run_append, List.filterMap_append]
    cases call with
    | refer value =>
      show ((run empty calls).refer value).2.values = (calls.filterMap Call.referred? ++ [value]).eraseDups
      rw [values_refer, ih]
      split
      · next seen => rw [FirstSeen.eraseDups_concat_of_mem (List.mem_eraseDups.mp seen)]
      · next fresh => rw [FirstSeen.eraseDups_concat_of_not_mem (mt List.mem_eraseDups.mpr fresh)]
    | number value =>
      show (run empty calls).values = (calls.filterMap Call.referred? ++ []).eraseDups
      rw [ih, List.append_nil]

/-- A value that has a number is referred to by it. -/
theorem refer_of_number? {r : References} {value : String} {n : Nat} (given : r.number? value = some n) :
    (r.refer value).1 = n := by
  have stays := number?_run given [.refer value]
  exact Option.some.inj ((number?_refer r value).symm.trans stays)

/-- **A table behind calls of a fresh one** is as it should be. -/
theorem numbered_run (calls : List Call) : Numbered calls (run empty calls) where
  entries := by rw [entries, values_run_empty]
  distinct := by
    rw [entries, List.zipIdx_map_fst]
    exact (run empty calls).distinct
  refers value := (number?_refer _ value).symm
  found _ _ := number?_eq_some_iff
  missing value := by
    rw [answer, number?_eq_none_iff, values_run_empty, List.mem_eraseDups]
  kept later value n given := by
    have stays := number?_run given later
    exact ⟨stays, congrArg some (refer_of_number? stays)⟩
  unchanged _ := rfl

example : (run empty [.refer "b", .number "a", .refer "c", .refer "b"]).entries = [("b", 1), ("c", 2)] := by
  decide

/-! ## Tokens with references -/

/-- The calls for a token sequence: its identifiers and literals are referred to. -/
def callsFor (ts : List Token) : List Call := (ts.filter isReferred).map fun t => .refer t.value

theorem referred_callsFor (ts : List Token) :
    (callsFor ts).filterMap Call.referred? = referredValues ts := by
  rw [callsFor, List.filterMap_map, referredValues, ← List.filterMap_eq_map]
  rfl

/-- **What is written behind something** is told by the table that comes out of it. -/
theorem written_append (r : References) (written : String) (ts : List Token) :
    (append r written ts).2 = run r (callsFor ts) ∧
      ∃ body, (append r written ts).1 = written ++ body ∧ Writes (append r written ts).2 true ts body := by
  induction ts generalizing r written with
  | nil => exact ⟨rfl, "", String.append_empty.symm, .nil⟩
  | cons t ts ih =>
    have opened : (if t.startsLine then written ++ "\n" else written) = written ++ opening true t := by
      rw [opening, Bool.and_true]
      split
      · rfl
      · exact String.append_empty.symm
    rw [append, opened]
    cases referred : isReferred t with
    | true =>
      obtain ⟨table, body, split, writes⟩ :=
        ih (r.refer t.value).2 (written ++ opening true t ++ s!"<ID{(r.refer t.value).1}> ")
      have number := number?_run (number?_refer r t.value) (callsFor ts)
      rw [← table] at number
      rw [if_pos rfl]
      refine ⟨?_, _, ?_, .reference referred number writes⟩
      · rw [callsFor, List.filter_cons_of_pos referred]
        exact table
      · rw [split]
        simp only [String.append_assoc]
    | false =>
      obtain ⟨table, body, split, writes⟩ := ih r (written ++ opening true t ++ t.value ++ " ")
      rw [if_neg Bool.false_ne_true]
      refine ⟨?_, _, ?_, .value referred writes⟩
      · rw [callsFor, List.filter_cons_of_neg (by simp [referred])]
        exact table
      · rw [split]
        simp only [String.append_assoc]

/-- A token that starts no line is written as if nothing was in front of it. -/
theorem Writes.first {r : References} {t : Token} {ts : List Token} {written : String}
    (writes : Writes r true ({ t with startsLine := false } :: ts) written) :
    Writes r false (t :: ts) written := by
  have same : opening true { t with startsLine := false } = opening false t := by simp [opening]
  cases writes with
  | reference referred number writes =>
    rw [same]
    exact .reference referred number writes
  | value other writes =>
    rw [same]
    exact .value other writes

theorem referredValues_front (ts : List Token) :
    referredValues (ts.filter fun t => !t.isEndOfInput) = referredValues ts := by
  rw [referredValues, List.filter_filter, referredValues]
  congr 1
  refine List.filter_congr fun t _ => ?_
  cases kind : t.kind <;> simp [isReferred, Token.isEndOfInput, kind]

/-- Which values are referred to does not depend on where lines start. -/
theorem referredValues_cons_unstarted (t : Token) (ts : List Token) :
    referredValues ({ t with startsLine := false } :: ts) = referredValues (t :: ts) := by
  have same : isReferred { t with startsLine := false } = isReferred t := rfl
  cases referred : isReferred t with
  | true => simp [referredValues, same, referred]
  | false => simp [referredValues, same, referred]

/-- The table of some tokens is that of their identifiers and literals. -/
theorem entries_of_eq_run {table : References} {ts : List Token} (eq : table = run empty (callsFor ts)) :
    table.entries = (referredValues ts).eraseDups.zipIdx 1 := by
  rw [eq, entries, values_run_empty, referred_callsFor]

/-- **Tokens are written with references.** -/
theorem rendered_render (ts : List Token) : Rendered ts (render ts).1 (render ts).2 := by
  have front := referredValues_front ts
  cases tokens : ts.filter fun t => !t.isEndOfInput with
  | nil =>
    rw [tokens] at front
    simp only [render, tokens]
    refine ⟨?_, "", ?_, rfl⟩
    · rw [← front]
      rfl
    · rw [tokens]
      exact .nil
  | cons t rest =>
    rw [tokens] at front
    simp only [render, tokens]
    obtain ⟨table, body, split, writes⟩ := written_append empty "" ({ t with startsLine := false } :: rest)
    rw [String.empty_append] at split
    refine ⟨?_, body, ?_, by rw [← split]⟩
    · rw [← front, ← referredValues_cons_unstarted]
      exact entries_of_eq_run table
    · rw [tokens]
      exact writes.first

end References

/-! ## Kinds of identifiers and literals -/

theorem isReferred_iff {t : Token} :
    References.isReferred t = true ↔ t.kind = .identifier ∨ ∃ type, t.kind = .literal type := by
  cases kind : t.kind <;> simp [References.isReferred, kind]

/-- The kind that an identifier or a literal with a text has. -/
def Vocabulary.kindOfNamed (v : Vocabulary) (text : List Char) : TokenKind :=
  if text.head?.any Word.isStart then v.kindOfWord text else (Lexeme.literal text).kind

/-- **The text of an identifier or a literal tells its kind.** -/
theorem Lexeme.kind_of_named {v : Vocabulary} {cs : List Char} {lexeme : Lexeme}
    (found : Lexeme.first? v cs = some lexeme)
    (named : lexeme.kind = .identifier ∨ ∃ type, lexeme.kind = .literal type) :
    lexeme.kind = v.kindOfNamed lexeme.text := by
  obtain ⟨rest, -, before⟩ := exists_before found
  cases before with
  | @word c cs rest start size => simp [Vocabulary.kindOfNamed, start]
  | @numeral c cs rest start digit size => simp [Vocabulary.kindOfNamed, start]
  | @string closed cs rest read =>
    have start : Word.isStart '"' = false := by decide
    cases closed with
    | true => simp [Vocabulary.kindOfNamed, quoted, start]
    | false => simp [quoted] at named
  | @char closed cs rest read =>
    have start : Word.isStart '\'' = false := by decide
    cases closed with
    | true => simp [Vocabulary.kindOfNamed, quoted, start]
    | false => simp [quoted] at named
  | symbol unmarked spelled here =>
    rcases kind_of_symbolAt? here with rfl | rfl <;> simp at named
  | unrecognised unmarked none => simp at named

/-- An identifier or a literal of a text has the kind that its value tells. -/
theorem kind_of_isReferred {v : Vocabulary} {text : List Char} {t : Token} (member : t ∈ tokensOf v text)
    (referred : References.isReferred t = true) : t.kind = v.kindOfNamed t.value.toList := by
  have named := isReferred_iff.mp referred
  obtain ⟨pieces, last, cut⟩ := Cut.exists_cut v text
  obtain ⟨covered, -, which⟩ := (cut.covers member).exists_slice?
  rcases which with ⟨p, among, rfl, kind, value⟩ | ⟨-, kind, -⟩
  · obtain ⟨cs, found⟩ := cut.exists_first? among
    rw [kind] at named ⊢
    have spelled : p.lexeme.value = String.ofList p.lexeme.text := by
      rcases named with kind | ⟨type, kind⟩ <;> simp [Lexeme.value, kind]
    rw [value, spelled, String.toList_ofList]
    exact Lexeme.kind_of_named found named
  · rw [kind] at named
    simp at named

namespace References

/-- A table that tokens were written with tells their values apart. -/
theorem Rendered.tells {v : Vocabulary} {text : List Char} {written : String} {table : References}
    (rendered : Rendered (tokensOf v text) written table) : Tells (tokensOf v text) table := by
  have numbered : ∀ t ∈ tokensOf v text, isReferred t = true → ∃ n, table.number? t.value = some n := by
    intro t member referred
    have seen : t.value ∈ (referredValues (tokensOf v text)).eraseDups :=
      List.mem_eraseDups.mpr (List.mem_map_of_mem (List.mem_filter.mpr ⟨member, referred⟩))
    obtain ⟨i, inside, same⟩ := List.mem_iff_getElem.mp seen
    refine ⟨i + 1, number?_eq_some_iff.mpr ?_⟩
    rw [rendered.entries, List.mk_mem_zipIdx_iff_le_and_getElem?_sub]
    exact ⟨Nat.le_add_left 1 i, List.getElem?_eq_some_iff.mpr ⟨inside, same⟩⟩
  refine ⟨numbered, fun t here u there referred referred' => ⟨fun same => ?_, fun same => ?_⟩, ?_⟩
  · obtain ⟨n, number⟩ := numbered t here referred
    exact number?_injective number (same ▸ number)
  · rw [same]
  · intro t here u there referred referred' same
    rw [kind_of_isReferred here referred, kind_of_isReferred there referred', same]

/-- **References are faithful**: whatever a table is called for, whichever tokens are written with it,
and whatever text, in whichever vocabulary, the tokens are of. -/
theorem faithful (calls : List Call) (ts : List Token) (v : Vocabulary) (text : List Char) :
    Numbered calls (run empty calls) ∧ Rendered ts (render ts).1 (render ts).2 ∧
      Tells (tokensOf v text) (render (tokensOf v text)).2 :=
  ⟨numbered_run calls, rendered_render ts, (rendered_render (tokensOf v text)).tells⟩

end References

end Lexis
