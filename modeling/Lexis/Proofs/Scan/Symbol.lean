import Lexis.Scan.Lexeme
import Lexis.Proofs.Scan.Border
import Lexis.Proofs.Text.Slice

/-!
# Symbols and what stands behind them

The longest symbol at the front of a text is looked for among all symbols, so what stands behind it
could make a difference. In front of a blank or a line end it makes none (`symbolAt?_spaced`), as long
as no symbol of the vocabulary holds a blank or a line end.
-/

set_option autoImplicit false

namespace Lexis

namespace Symbols

/-- The symbols of a list are those of the list, each as often as it is listed. -/
theorem ofList_perm (symbols : List String) : (ofList symbols).entries.Perm symbols := by
  induction symbols with
  | nil => exact List.Perm.refl _
  | cons symbol symbols ih => exact (place_perm symbol _).trans (ih.cons symbol)

/-- No symbol holds a blank or a line end. -/
def Unspaced (s : Symbols) : Prop :=
  ∀ symbol ∈ s.entries, ∀ c ∈ symbol.toList, Trivia.isSpace c = false

theorem longestPrefix?_prefix {s : Symbols} {cs : List Char} {symbol : String}
    (found : s.longestPrefix? cs = some symbol) : symbol.toList <+: cs := by
  have holds := List.find?_some found
  simp only [Bool.and_eq_true] at holds
  exact List.isPrefixOf_iff_prefix.mp holds.2

/-- A search finds the same when fewer texts pass, but the one it found among them. -/
private theorem find?_eq_of_imp {p q : String → Bool} {entries : List String}
    (fewer : ∀ e ∈ entries, q e = true → p e = true)
    (kept : ∀ e, entries.find? p = some e → q e = true) : entries.find? q = entries.find? p := by
  induction entries with
  | nil => rfl
  | cons e entries ih =>
    rw [List.find?_cons, List.find?_cons] at *
    cases passed : p e with
    | true =>
      have found := kept e (by rw [passed])
      rw [found]
    | false =>
      have dropped : q e = false := by
        cases h : q e with
        | false => rfl
        | true => rw [fewer e (List.mem_cons_self ..) h] at passed; cases passed
      rw [dropped]
      rw [passed] at kept
      exact ih (fun e member => fewer e (List.mem_cons_of_mem _ member)) kept

/-- A text without blanks and line ends at the front of a text ends in front of the first of them. -/
private theorem prefix_of_unspaced {symbol front behind : List Char}
    (unspaced : ∀ c ∈ symbol, Trivia.isSpace c = false)
    (space : behind.head?.all Trivia.isSpace = true) (begins : symbol <+: front ++ behind) :
    symbol <+: front := by
  obtain ⟨rest, split⟩ := begins
  rcases List.append_eq_append_iff.mp split with ⟨more, rfl, -⟩ | ⟨more, rfl, rfl⟩
  · exact List.prefix_append _ _
  · cases more with
    | nil => simp
    | cons c more =>
      have apart := unspaced c (by simp)
      have : Trivia.isSpace c = true := by simpa using space
      rw [this] at apart
      cases apart

/-- A symbol that ends in front of what is behind is found again when a text that begins with a blank or
a line end is behind, and so is none. -/
theorem longestPrefix?_spaced {s : Symbols} {front behind behind' : List Char}
    (unspaced : s.Unspaced) (space : behind'.head?.all Trivia.isSpace = true)
    (inside : ∀ symbol, s.longestPrefix? (front ++ behind) = some symbol →
      symbol.toList.length ≤ front.length) :
    s.longestPrefix? (front ++ behind') = s.longestPrefix? (front ++ behind) := by
  refine find?_eq_of_imp (fun symbol member passes => ?_) (fun symbol found => ?_)
  · simp only [Bool.and_eq_true, List.isPrefixOf_iff_prefix] at passes ⊢
    have short := prefix_of_unspaced (unspaced symbol member) space passes.2
    exact ⟨passes.1, short.trans (List.prefix_append _ _)⟩
  · have passes := List.find?_some found
    simp only [Bool.and_eq_true, List.isPrefixOf_iff_prefix] at passes ⊢
    have short := List.prefix_of_prefix_length_le passes.2 (List.prefix_append front behind)
      (inside symbol found)
    exact ⟨passes.1, short.trans (List.prefix_append _ _)⟩

end Symbols

namespace Vocabulary

/-- No symbol of a vocabulary holds a blank or a line end. -/
def Unspaced (v : Vocabulary) : Prop := v.operators.Unspaced ∧ v.separators.Unspaced

theorem unspaced_ofLists {keywords literalWords operators separators : List String}
    (unspaced : (operators ++ separators).all
      (fun symbol => symbol.toList.all fun c => !Trivia.isSpace c) = true) :
    (ofLists keywords literalWords operators separators).Unspaced := by
  rw [List.all_append, Bool.and_eq_true] at unspaced
  have listed : ∀ symbols : List String,
      symbols.all (fun symbol => symbol.toList.all fun c => !Trivia.isSpace c) = true →
        (Symbols.ofList symbols).Unspaced := by
    intro symbols all symbol member c inside
    have member' := (Symbols.ofList_perm symbols).mem_iff.mp member
    have clean := List.all_eq_true.mp (List.all_eq_true.mp all symbol member') c inside
    simpa using clean
  exact ⟨listed _ unspaced.1, listed _ unspaced.2⟩

/-- The symbols of Java hold neither blanks nor line ends. -/
theorem unspaced_java : java.Unspaced := unspaced_ofLists (by decide)

/-- Of two symbols at the front of a text, the one with no more bytes has no more characters. -/
private theorem length_le_of_bytes {cs : List Char} {s t : String} (hs : s.toList <+: cs)
    (ht : t.toList <+: cs) (le : s.utf8ByteSize ≤ t.utf8ByteSize) :
    s.toList.length ≤ t.toList.length := by
  by_contra longer
  have more := Text.byteLength_lt_of_prefix ht hs (Nat.lt_of_not_le longer)
  rw [Text.utf8ByteSize_eq_byteLength, Text.utf8ByteSize_eq_byteLength] at le
  exact absurd more (Nat.not_lt_of_le le)

/-- The symbol at the front of a text is no shorter than any operator or separator there. -/
theorem symbolAt?_longest {v : Vocabulary} {cs : List Char} {kind : TokenKind} {symbol : String}
    (found : v.symbolAt? cs = some (kind, symbol)) :
    symbol.toList <+: cs ∧
      (∀ operator, v.operators.longestPrefix? cs = some operator →
        operator.toList.length ≤ symbol.toList.length) ∧
      (∀ separator, v.separators.longestPrefix? cs = some separator →
        separator.toList.length ≤ symbol.toList.length) := by
  unfold symbolAt? at found
  split at found
  · next operator separator ho hs =>
    have po := Symbols.longestPrefix?_prefix ho
    have ps := Symbols.longestPrefix?_prefix hs
    rw [ho, hs]
    split at found
    · next shorter =>
      cases found
      exact ⟨ps, by rintro _ ⟨⟩; exact length_le_of_bytes po ps (Nat.le_of_lt shorter),
        by rintro _ ⟨⟩; exact Nat.le_refl _⟩
    · next longer =>
      cases found
      exact ⟨po, by rintro _ ⟨⟩; exact Nat.le_refl _,
        by rintro _ ⟨⟩; exact length_le_of_bytes ps po (Nat.le_of_not_lt longer)⟩
  · next operator ho hs =>
    cases found
    rw [ho, hs]
    exact ⟨Symbols.longestPrefix?_prefix ho, by rintro _ ⟨⟩; exact Nat.le_refl _,
      by rintro _ ⟨⟩⟩
  · next separator ho hs =>
    cases found
    rw [ho, hs]
    exact ⟨Symbols.longestPrefix?_prefix hs, by rintro _ ⟨⟩, by rintro _ ⟨⟩; exact Nat.le_refl _⟩
  · cases found

theorem symbolAt?_eq_none {v : Vocabulary} {cs : List Char} :
    v.symbolAt? cs = none ↔
      v.operators.longestPrefix? cs = none ∧ v.separators.longestPrefix? cs = none := by
  unfold symbolAt?
  split
  · next ho hs => split <;> simp [ho]
  · next ho hs => simp [ho]
  · next ho hs => simp [hs]
  · next ho hs => simp [ho, hs]

/-- **The symbol at the front of a text is found again** when a text that begins with a blank or a line
end is behind it, and so is none. -/
theorem symbolAt?_spaced {v : Vocabulary} {front behind behind' : List Char}
    (unspaced : v.Unspaced) (space : behind'.head?.all Trivia.isSpace = true)
    (inside : ∀ found ∈ v.symbolAt? (front ++ behind), found.2.toList.length ≤ front.length) :
    v.symbolAt? (front ++ behind') = v.symbolAt? (front ++ behind) := by
  have each : (∀ operator, v.operators.longestPrefix? (front ++ behind) = some operator →
        operator.toList.length ≤ front.length) ∧
      (∀ separator, v.separators.longestPrefix? (front ++ behind) = some separator →
        separator.toList.length ≤ front.length) := by
    cases found : v.symbolAt? (front ++ behind) with
    | none =>
      obtain ⟨ho, hs⟩ := symbolAt?_eq_none.mp found
      rw [ho, hs]
      exact ⟨by rintro _ ⟨⟩, by rintro _ ⟨⟩⟩
    | some found' =>
      have short := inside found' found
      obtain ⟨-, ho, hs⟩ := symbolAt?_longest found
      exact ⟨fun operator h => (ho operator h).trans short,
        fun separator h => (hs separator h).trans short⟩
  unfold symbolAt?
  rw [Symbols.longestPrefix?_spaced unspaced.1 space each.1,
    Symbols.longestPrefix?_spaced unspaced.2 space each.2]

end Vocabulary

end Lexis
