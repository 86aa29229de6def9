import Lexis.Token

/-!
# Reports

A report has three parts: the listing of the tokens, the frequency tables, and the tokens with
references. Only the listing knows colours. A sequence without tokens has the empty report.

- The listing shows all tokens in their short form, one behind the other. A token that starts a line of
  the text opens a new line of the listing, which begins with its own number.
- A tally belongs to one kind of token and counts its values in the order in which they were first seen.
  Tallies stand in the order of their kinds, and only kinds that occur have one. Literals of one spelling
  and different types are different values.
- Identifiers and literals can be written as references: each value gets a number when it is first used
  and keeps it. A table of references holds the values in the order of their numbers, which count from 1.
-/

set_option autoImplicit false

namespace Lexis

/-! ## The token listing -/

namespace Listing

/-- A token's short form, bold and red for an error when colours are wanted. -/
def entry (colors : Bool) (t : Token) : String :=
  if colors && t.error?.isSome then "\x1b[1;31m" ++ t.display ++ "\x1b[0m" else t.display

/-- Writes tokens behind what is already written; `line` is the number of the next line. -/
def append (colors : Bool) (written : String) (line : Nat) : List Token → String
  | [] => written
  | t :: ts =>
    if t.startsLine then
      append colors (written ++ s!"\n{line}\t" ++ entry colors t) (line + 1) ts
    else append colors (written ++ entry colors t) line ts

/-- The listing of a token sequence, with an empty line at its end. -/
def render (colors : Bool) (ts : List Token) : String :=
  append colors "" 1 ts ++ "\n\n"

end Listing

/-! ## Frequency tables -/

/-- The line that sets off the parts of a report: sixty equals signs. -/
def Report.rule : String := "".pushn '=' 60 ++ "\n"

/-- The value under which a token is counted. -/
def Token.countedAs (t : Token) : String :=
  match t.kind with
  | .literal type => s!"({t.value}, {type.name})"
  | _ => t.value

/-- Counts one more occurrence of a key. A new key goes to the end. -/
def countOne (key : String) : List (String × Nat) → List (String × Nat)
  | [] => [(key, 1)]
  | (seen, n) :: counts =>
    if seen = key then (seen, n + 1) :: counts else (seen, n) :: countOne key counts

/-- The counts of the values of one kind of token. -/
structure Tally where
  /-- The place of the kind among the kinds. -/
  rank : Nat
  /-- The heading of the kind. -/
  label : String
  /-- The values with their counts, in the order of their first occurrence. -/
  counts : List (String × Nat)
deriving DecidableEq

namespace Tally

/-- The number of tokens that a tally counted. -/
def total (t : Tally) : Nat := t.counts.foldr (fun entry n => entry.2 + n) 0

/-- Counts a token in the tally of its kind, which is put in its place if it is the first. -/
def addTo (token : Token) : List Tally → List Tally
  | [] => [⟨token.kind.rank, token.kind.label, countOne token.countedAs []⟩]
  | tally :: tallies =>
    if token.kind.rank < tally.rank then
      ⟨token.kind.rank, token.kind.label, countOne token.countedAs []⟩ :: tally :: tallies
    else if token.kind.rank = tally.rank then
      { tally with counts := countOne token.countedAs tally.counts } :: tallies
    else tally :: addTo token tallies

/-- A tally as a table: a heading, and a numbered row for each value with its count. -/
def render (t : Tally) : String :=
  let row (entry : (String × Nat) × Nat) : String := s!"{entry.2}\t{entry.1.2}\t{entry.1.1}\n"
  t.label ++ "\n" ++ Report.rule ++ "i\tcnt\tval\n" ++ Report.rule ++
    String.join ((t.counts.zipIdx 1).map row) ++ Report.rule ++ "\n"

end Tally

namespace Statistics

/-- The tallies of a token sequence. -/
def collect (ts : List Token) : List Tally :=
  ts.foldl (fun tallies token => Tally.addTo token tallies) []

/-- The tally with a given heading. -/
def find? (tallies : List Tally) (label : String) : Option Tally :=
  tallies.find? (·.label == label)

/-- All tables one after the other. -/
def render (tallies : List Tally) : String :=
  "\nStats\n\n\n" ++ String.join (tallies.map Tally.render)

end Statistics

/-! ## References -/

/-- Values that have been given numbers, in the order of the numbers. -/
structure References where
  values : List String
  distinct : values.Nodup

namespace References

/-- The table in which nothing has a number. -/
def empty : References := ⟨[], List.nodup_nil⟩

/-- The number of a value, if it was given one. -/
def number? (r : References) (value : String) : Option Nat :=
  (r.values.idxOf? value).map (· + 1)

theorem number?_eq_none_iff {r : References} {value : String} :
    r.number? value = none ↔ value ∉ r.values := by
  simp [number?]

/-- The number of a value, which is given the next one if it has none, and the table after that. -/
def refer (r : References) (value : String) : Nat × References :=
  match found : r.number? value with
  | some n => (n, r)
  | none =>
    (r.values.length + 1,
      ⟨r.values ++ [value], by
        have fresh : value ∉ r.values := number?_eq_none_iff.mp found
        refine List.nodup_append.mpr ⟨r.distinct, List.nodup_cons.mpr ⟨List.not_mem_nil, List.nodup_nil⟩, ?_⟩
        intro seen member other last equal
        rw [List.mem_singleton.mp last] at equal
        exact fresh (equal ▸ member)⟩)

/-- How many values have a number. -/
def size (r : References) : Nat := r.values.length

/-- Whether no value has a number. -/
def isEmpty (r : References) : Bool := r.values.isEmpty

/-- The values with their numbers. -/
def entries (r : References) : List (String × Nat) := r.values.zipIdx 1

/-- Whether a token is written as a reference. -/
def isReferred (t : Token) : Bool :=
  match t.kind with
  | .identifier => true
  | .literal _ => true
  | _ => false

/-- Writes tokens behind what is already written, each on a new line that starts one. -/
def append (r : References) (written : String) : List Token → String × References
  | [] => (written, r)
  | t :: ts =>
    let opened := if t.startsLine then written ++ "\n" else written
    if isReferred t then
      let (n, r) := r.refer t.value
      append r (opened ++ s!"<ID{n}> ") ts
    else append r (opened ++ t.value ++ " ") ts

/-- The tokens in front of the end of the text with references in place of identifiers and literals,
and the table of the references. The first token opens no line. -/
def render (ts : List Token) : String × References :=
  let body :=
    match ts.filter fun t => !t.isEndOfInput with
    | [] => ("", empty)
    | t :: ts => append empty "" ({ t with startsLine := false } :: ts)
  ("Lexemes\n" ++ Report.rule ++ body.1 ++ "\n" ++ Report.rule, body.2)

end References

/-! ## The report -/

/-- The report of a token sequence. -/
def Report.render (colors : Bool) (ts : List Token) : String :=
  if ts.isEmpty then ""
  else
    Listing.render colors ts ++ Statistics.render (Statistics.collect ts) ++ (References.render ts).1

end Lexis
