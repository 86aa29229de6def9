import Lexis.Proofs.Scan.Symbol

/-!
# The longest symbol, by sets

The symbols of a list are kept in a row, longest first, and the first that begins a text is taken. That
the row is a stable sort of the list, that its first symbol bounds the bytes of all, and that a text is
one of them when it is in the list, is collected in `Sorts`. The search for the longest symbol could do
with the bound and the set alone: `longestPrefix?_eq_search` says that trying the fronts of the text
from the bound down finds the same. So lists with the same members, but for the empty one, have the same
longest symbols (`Alike.longestPrefix?_eq`).

A vocabulary has two rows. Of the two symbols that are found it takes the longer, and the operator where
they are equally long; `symbolAt?_ofLists` says that this is the longest symbol of both lists together.
-/

set_option autoImplicit false

namespace Lexis

namespace Symbols

/-! ## A row of symbols and its list -/

/-- **Symbols sort a list**: they are the list, longest first, with the order kept among those of one
length, and tell the greatest length and the members of the list. -/
structure Sorts (s : Symbols) (list : List String) : Prop where
  perm : s.entries.Perm list
  longestFirst : s.entries.Pairwise fun symbol next => next.utf8ByteSize ≤ symbol.utf8ByteSize
  stable : ∀ bytes, s.entries.filter (·.utf8ByteSize == bytes) = list.filter (·.utf8ByteSize == bytes)
  maxByteLength : s.maxByteLength = (list.map String.utf8ByteSize).max?.getD 0
  contains : ∀ symbol, s.contains symbol = true ↔ symbol ∈ list

/-- A symbol is placed behind longer ones only. -/
private theorem filter_place (symbol : String) (list : List String) (bytes : Nat) :
    (place symbol list).filter (·.utf8ByteSize == bytes) =
      (symbol :: list).filter (·.utf8ByteSize == bytes) := by
  induction list with
  | nil => rfl
  | cons first rest ih =>
    unfold place
    split
    · rfl
    · next longer =>
      rw [List.filter_cons, ih]
      by_cases here : first.utf8ByteSize = bytes
      · have other : symbol.utf8ByteSize ≠ bytes := by omega
        simp [here, other]
      · simp [List.filter_cons, here]

private theorem filter_ofList (list : List String) (bytes : Nat) :
    (ofList list).entries.filter (·.utf8ByteSize == bytes) =
      list.filter (·.utf8ByteSize == bytes) := by
  induction list with
  | nil => rfl
  | cons symbol list ih =>
    refine (filter_place symbol (ofList list).entries bytes).trans ?_
    rw [List.filter_cons, List.filter_cons, ih]

/-- No symbol has more bytes than the first. -/
theorem utf8ByteSize_le_max {s : Symbols} {symbol : String} (member : symbol ∈ s.entries) :
    symbol.utf8ByteSize ≤ s.maxByteLength := by
  obtain ⟨entries, sorted⟩ := s
  cases entries with
  | nil => cases member
  | cons first rest =>
    rcases List.mem_cons.mp member with rfl | member
    · exact Nat.le_refl _
    · exact (List.pairwise_cons.mp sorted).1 symbol member

/-- The bound is reached, unless there are no symbols. -/
theorem exists_maxByteLength (s : Symbols) :
    (s.entries = [] ∧ s.maxByteLength = 0) ∨
      ∃ symbol ∈ s.entries, symbol.utf8ByteSize = s.maxByteLength := by
  obtain ⟨entries, sorted⟩ := s
  cases entries with
  | nil => exact .inl ⟨rfl, rfl⟩
  | cons first rest => exact .inr ⟨first, List.mem_cons_self .., rfl⟩

theorem mem_ofList {list : List String} {symbol : String} :
    symbol ∈ (ofList list).entries ↔ symbol ∈ list :=
  (ofList_perm list).mem_iff

/-- **The symbols of a list sort it.** -/
theorem sorts_ofList (list : List String) : (ofList list).Sorts list where
  perm := ofList_perm list
  longestFirst := (ofList list).longestFirst
  stable := filter_ofList list
  maxByteLength := by
    rcases exists_maxByteLength (ofList list) with ⟨nothing, zero⟩ | ⟨symbol, member, reached⟩
    · have empty : list = [] := List.nil_perm.mp (nothing ▸ ofList_perm list)
      rw [zero, empty]
      rfl
    · have greatest : (list.map String.utf8ByteSize).max? = some (ofList list).maxByteLength := by
        refine List.max?_eq_some_iff.mpr ⟨?_, fun bytes inside => ?_⟩
        · exact reached ▸ List.mem_map_of_mem (mem_ofList.mp member)
        · obtain ⟨other, among, rfl⟩ := List.mem_map.mp inside
          exact utf8ByteSize_le_max (mem_ofList.mpr among)
      rw [greatest, Option.getD_some]
  contains symbol := by rw [Symbols.contains, List.contains_iff_mem, mem_ofList]

/-! ## The search by sets -/

/-- The longest front of a text with no more than so many bytes that is a symbol, found by trying one
number of bytes after the other. -/
def search (s : Symbols) (cs : List Char) : Nat → Option String
  | 0 => none
  | bytes + 1 =>
    match Text.slice? cs 0 (bytes + 1) with
    | some front =>
      if s.contains (String.ofList front) then some (String.ofList front) else s.search cs bytes
    | none => s.search cs bytes

/-- A symbol that is not empty and begins a text. -/
structure Begins (s : Symbols) (symbol : String) (cs : List Char) : Prop where
  member : symbol ∈ s.entries
  nonempty : symbol ≠ ""
  front : symbol.toList <+: cs

variable {s : Symbols} {cs : List Char} {symbol : String}

/-- A symbol that begins a text, and none of those that do is longer. -/
structure Longest (s : Symbols) (symbol : String) (cs : List Char) : Prop where
  begins : s.Begins symbol cs
  longest : ∀ other, s.Begins other cs → other.utf8ByteSize ≤ symbol.utf8ByteSize

/-- A symbol that begins a text is the part of the text that its bytes fill. -/
theorem Begins.slice?_eq (begins : s.Begins symbol cs) :
    Text.slice? cs 0 symbol.utf8ByteSize = some symbol.toList :=
  Text.slice?_zero.mpr ⟨begins.front, (Text.utf8ByteSize_eq_byteLength symbol).symm⟩

theorem Begins.utf8ByteSize_pos (begins : s.Begins symbol cs) : 0 < symbol.utf8ByteSize := by
  rw [Nat.pos_iff_ne_zero]
  exact fun zero => begins.nonempty (String.utf8ByteSize_eq_zero_iff.mp zero)

/-- Of the symbols that begin a text, no two have as many bytes. -/
theorem Begins.eq_of_utf8ByteSize_eq {other : String} (begins : s.Begins symbol cs)
    (begins' : s.Begins other cs) (bytes : symbol.utf8ByteSize = other.utf8ByteSize) :
    symbol = other := by
  have same := begins.slice?_eq.symm.trans (bytes ▸ begins'.slice?_eq)
  exact String.toList_inj.mp (Option.some.inj same)

/-- There is one longest symbol at most. -/
theorem Longest.unique {other : String} (longest : s.Longest symbol cs)
    (longest' : s.Longest other cs) : symbol = other :=
  longest.begins.eq_of_utf8ByteSize_eq longest'.begins
    (Nat.le_antisymm (longest'.longest _ longest.begins) (longest.longest _ longest'.begins))

private theorem passes_iff :
    (!symbol.isEmpty && symbol.toList.isPrefixOf cs) = true ↔
      symbol ≠ "" ∧ symbol.toList <+: cs := by
  simp [List.isPrefixOf_iff_prefix]

private theorem longest_of_found (found : s.longestPrefix? cs = some symbol) :
    s.Longest symbol cs := by
  obtain ⟨here, longer, shorter, entries, above⟩ := List.find?_eq_some_iff_append.mp found
  obtain ⟨nonempty, front⟩ := passes_iff.mp here
  refine ⟨⟨entries ▸ by simp, nonempty, front⟩, fun other begins => ?_⟩
  rcases List.mem_append.mp (entries ▸ begins.member) with member | member
  · -- what stands in front of the one that was found was passed over
    have fails := above other member
    rw [passes_iff.mpr ⟨begins.nonempty, begins.front⟩] at fails
    cases fails
  · rcases List.mem_cons.mp member with rfl | member
    · exact Nat.le_refl _
    · have sorted := entries ▸ s.longestFirst
      exact (List.pairwise_cons.mp (List.pairwise_append.mp sorted).2.1).1 other member

/-- **What is found in the row** is the longest symbol that begins the text. -/
theorem longestPrefix?_eq_some : s.longestPrefix? cs = some symbol ↔ s.Longest symbol cs := by
  refine ⟨longest_of_found, fun longest => ?_⟩
  cases found : s.longestPrefix? cs with
  | none =>
    have fails := List.find?_eq_none.mp found symbol longest.begins.member
    exact absurd (passes_iff.mpr ⟨longest.begins.nonempty, longest.begins.front⟩) fails
  | some other => rw [longest.unique (longest_of_found found)]

theorem longestPrefix?_eq_none : s.longestPrefix? cs = none ↔ ∀ symbol, ¬ s.Begins symbol cs := by
  refine List.find?_eq_none.trans ⟨fun fails symbol begins => ?_, fun none symbol member passes => ?_⟩
  · exact fails symbol begins.member (passes_iff.mpr ⟨begins.nonempty, begins.front⟩)
  · obtain ⟨nonempty, front⟩ := passes_iff.mp passes
    exact none symbol ⟨member, nonempty, front⟩

/-- A symbol with as many bytes as are tried is found. -/
private theorem search_of_begins {bytes : Nat} (begins : s.Begins symbol cs)
    (size : symbol.utf8ByteSize = bytes + 1) : s.search cs (bytes + 1) = some symbol := by
  have member : s.contains symbol = true := List.contains_iff_mem.mpr begins.member
  simp [search, ← size, begins.slice?_eq, String.ofList_toList, member]

/-- Where no symbol has as many bytes as are tried, fewer are tried. -/
private theorem search_of_none {bytes : Nat}
    (none : ∀ symbol, s.Begins symbol cs → symbol.utf8ByteSize ≠ bytes + 1) :
    s.search cs (bytes + 1) = s.search cs bytes := by
  rw [search]
  split
  · next front part =>
    obtain ⟨begins, size⟩ := Text.slice?_zero.mp part
    have size : (String.ofList front).utf8ByteSize = bytes + 1 := by
      rw [Text.utf8ByteSize_eq_byteLength, String.toList_ofList, size]
    split
    · next member =>
      refine absurd size (none _ ⟨List.contains_iff_mem.mp member, fun empty => ?_, ?_⟩)
      · rw [empty] at size
        cases size
      · rwa [String.toList_ofList]
    · rfl
  · rfl

/-- What is found among the fronts with no more than so many bytes is the longest symbol there. -/
private theorem search_eq_some {bytes : Nat} :
    s.search cs bytes = some symbol ↔ s.Begins symbol cs ∧ symbol.utf8ByteSize ≤ bytes ∧
      ∀ other, s.Begins other cs → other.utf8ByteSize ≤ bytes →
        other.utf8ByteSize ≤ symbol.utf8ByteSize := by
  induction bytes with
  | zero =>
    refine ⟨nofun, fun ⟨begins, small, _⟩ => ?_⟩
    exact absurd begins.utf8ByteSize_pos (Nat.not_lt.mpr small)
  | succ bytes ih =>
    by_cases here : ∃ full, s.Begins full cs ∧ full.utf8ByteSize = bytes + 1
    · obtain ⟨full, begins, size⟩ := here
      rw [search_of_begins begins size, Option.some.injEq]
      constructor
      · rintro rfl
        exact ⟨begins, Nat.le_of_eq size, fun _ _ small => size ▸ small⟩
      · rintro ⟨begins', small, longest⟩
        refine begins.eq_of_utf8ByteSize_eq begins' (Nat.le_antisymm ?_ (size ▸ small))
        exact longest full begins (Nat.le_of_eq size)
    · have fewer : ∀ other, s.Begins other cs →
          (other.utf8ByteSize ≤ bytes + 1 ↔ other.utf8ByteSize ≤ bytes) := by
        intro other begins
        have apart : other.utf8ByteSize ≠ bytes + 1 := fun size => here ⟨other, begins, size⟩
        omega
      rw [search_of_none fun other begins size => here ⟨other, begins, size⟩, ih]
      refine and_congr_right fun begins => and_congr (fewer _ begins).symm ?_
      exact forall₂_congr fun other begins => imp_congr_left (fewer other begins).symm

/-- **The longest symbol is found by sets**: it is enough to try the fronts of a text from the bound down,
and to ask of each whether it is a symbol. -/
theorem longestPrefix?_eq_search (s : Symbols) (cs : List Char) :
    s.longestPrefix? cs = s.search cs (min s.maxByteLength (Text.byteLength cs)) := by
  have bounded : ∀ symbol, s.Begins symbol cs →
      symbol.utf8ByteSize ≤ min s.maxByteLength (Text.byteLength cs) := by
    intro symbol begins
    obtain ⟨behind, rfl⟩ := begins.front
    rw [Text.byteLength_append, ← Text.utf8ByteSize_eq_byteLength]
    exact Nat.le_min.mpr ⟨utf8ByteSize_le_max begins.member, Nat.le_add_right _ _⟩
  refine Option.ext fun symbol => ?_
  rw [longestPrefix?_eq_some, search_eq_some]
  refine ⟨fun ⟨begins, longest⟩ => ⟨begins, bounded _ begins, fun other begins' _ => ?_⟩,
    fun ⟨begins, _, longest⟩ => ⟨begins, fun other begins' => ?_⟩⟩
  · exact longest other begins'
  · exact longest other begins' (bounded other begins')

/-! ## Lists with the same members -/

/-- Two lists have the same members but for the empty string. -/
def Alike (list list' : List String) : Prop := ∀ symbol, symbol ≠ "" → (symbol ∈ list ↔ symbol ∈ list')

variable {list list' : List String}

theorem Alike.symm (alike : Alike list list') : Alike list' list :=
  fun symbol nonempty => (alike symbol nonempty).symm

private theorem Alike.maxByteLength_le (alike : Alike list list') :
    (ofList list).maxByteLength ≤ (ofList list').maxByteLength := by
  rcases exists_maxByteLength (ofList list) with ⟨-, zero⟩ | ⟨symbol, member, reached⟩
  · exact zero ▸ Nat.zero_le _
  · rw [← reached]
    by_cases empty : symbol = ""
    · rw [empty]
      exact Nat.zero_le _
    · exact utf8ByteSize_le_max (mem_ofList.mpr ((alike symbol empty).mp (mem_ofList.mp member)))

/-- The bound of the lengths is the same. -/
theorem Alike.maxByteLength_eq (alike : Alike list list') :
    (ofList list).maxByteLength = (ofList list').maxByteLength :=
  Nat.le_antisymm alike.maxByteLength_le alike.symm.maxByteLength_le

/-- A search asks of texts that are not empty only. -/
private theorem Alike.search_eq (alike : Alike list list') (cs : List Char) (bytes : Nat) :
    (ofList list).search cs bytes = (ofList list').search cs bytes := by
  induction bytes with
  | zero => rfl
  | succ bytes ih =>
    rw [search, search, ih]
    split
    · next front part =>
      have nonempty : String.ofList front ≠ "" := by
        intro empty
        have size := (Text.slice?_zero.mp part).2
        rw [← String.toList_ofList (l := front), empty] at size
        cases size
      have same : (ofList list).contains (String.ofList front) =
          (ofList list').contains (String.ofList front) := by
        rw [Bool.eq_iff_iff, (sorts_ofList list).contains, (sorts_ofList list').contains]
        exact alike _ nonempty
      rw [same]
    · rfl

/-- **Lists with the same members have the same longest symbols.** -/
theorem Alike.longestPrefix?_eq (alike : Alike list list') (cs : List Char) :
    (ofList list).longestPrefix? cs = (ofList list').longestPrefix? cs := by
  rw [longestPrefix?_eq_search, longestPrefix?_eq_search, alike.maxByteLength_eq, alike.search_eq]

end Symbols

/-! ## Operators and separators -/

namespace Vocabulary

open Symbols (ofList)

/-- The symbol at the front of a text as two searches by sets find it, one among the operators and one
among the separators. -/
def searchSymbol? (v : Vocabulary) (cs : List Char) : Option (TokenKind × String) :=
  let bounded (s : Symbols) := s.search cs (min s.maxByteLength (Text.byteLength cs))
  match bounded v.operators, bounded v.separators with
  | some operator, some separator =>
    if operator.utf8ByteSize < separator.utf8ByteSize then some (.separator, separator)
    else some (.operator, operator)
  | some operator, none => some (.operator, operator)
  | none, some separator => some (.separator, separator)
  | none, none => none

theorem symbolAt?_eq_searchSymbol? (v : Vocabulary) (cs : List Char) :
    v.symbolAt? cs = v.searchSymbol? cs := by
  unfold symbolAt? searchSymbol?
  rewrite [Symbols.longestPrefix?_eq_search, Symbols.longestPrefix?_eq_search]
  rfl

/-- **The symbol that a text begins with**, of two lists: it stands in one of them, is not empty, and has
no fewer bytes than any symbol of either list that begins the text. It is an operator if it is listed as
one, and otherwise a separator. -/
structure SymbolAt (operators separators : List String) (cs : List Char) (kind : TokenKind)
    (symbol : String) : Prop where
  member : symbol ∈ operators ∨ symbol ∈ separators
  nonempty : symbol ≠ ""
  begins : symbol.toList <+: cs
  longest : ∀ other, other ∈ operators ∨ other ∈ separators → other.toList <+: cs →
    other.utf8ByteSize ≤ symbol.utf8ByteSize
  kind : kind = if symbol ∈ operators then .operator else .separator

variable {v : Vocabulary} {operators separators : List String} {cs : List Char} {kind : TokenKind}
  {symbol : String}

/-- An operator that is found is as long as any separator at the least, and a separator that is found is
longer than any operator. -/
theorem longest_of_symbolAt? (found : v.symbolAt? cs = some (kind, symbol)) :
    (kind = .operator ∧ v.operators.Longest symbol cs ∧
        ∀ other, v.separators.Begins other cs → other.utf8ByteSize ≤ symbol.utf8ByteSize) ∨
      (kind = .separator ∧ v.separators.Longest symbol cs ∧
        ∀ other, v.operators.Begins other cs → other.utf8ByteSize < symbol.utf8ByteSize) := by
  unfold symbolAt? at found
  split at found
  · next operator separator ho hs =>
    have operator' := Symbols.longestPrefix?_eq_some.mp ho
    have separator' := Symbols.longestPrefix?_eq_some.mp hs
    split at found
    · next shorter =>
      cases found
      exact .inr ⟨rfl, separator', fun other begins =>
        Nat.lt_of_le_of_lt (operator'.longest other begins) shorter⟩
    · next enough =>
      cases found
      exact .inl ⟨rfl, operator', fun other begins =>
        Nat.le_trans (separator'.longest other begins) (Nat.le_of_not_lt enough)⟩
  · next operator ho hs =>
    cases found
    exact .inl ⟨rfl, Symbols.longestPrefix?_eq_some.mp ho, fun other begins =>
      absurd begins (Symbols.longestPrefix?_eq_none.mp hs other)⟩
  · next separator ho hs =>
    cases found
    exact .inr ⟨rfl, Symbols.longestPrefix?_eq_some.mp hs, fun other begins =>
      absurd begins (Symbols.longestPrefix?_eq_none.mp ho other)⟩
  · cases found

/-- A bound for the symbols of a list that begin a text is one for the empty symbol too. -/
private theorem le_of_begins {list : List String} {bound : Nat} {other : String}
    (bounded : ∀ symbol, (ofList list).Begins symbol cs → symbol.utf8ByteSize ≤ bound)
    (member : other ∈ list) (begins : other.toList <+: cs) : other.utf8ByteSize ≤ bound := by
  by_cases empty : other = ""
  · rw [empty]
    exact Nat.zero_le _
  · exact bounded other ⟨Symbols.mem_ofList.mpr member, empty, begins⟩

variable {keywords literalWords : List String}

theorem symbolAt_of_found
    (found : (ofLists keywords literalWords operators separators).symbolAt? cs = some (kind, symbol)) :
    SymbolAt operators separators cs kind symbol := by
  rcases longest_of_symbolAt? found with ⟨rfl, longest, others⟩ | ⟨rfl, longest, others⟩
  · have listed : symbol ∈ operators := Symbols.mem_ofList.mp longest.begins.member
    refine ⟨.inl listed, longest.begins.nonempty, longest.begins.front, ?_, (if_pos listed).symm⟩
    rintro other (member | member) begins
    · exact le_of_begins longest.longest member begins
    · exact le_of_begins others member begins
  · have listed : symbol ∈ separators := Symbols.mem_ofList.mp longest.begins.member
    have unlisted : symbol ∉ operators := fun member =>
      absurd (others symbol ⟨Symbols.mem_ofList.mpr member, longest.begins.nonempty,
        longest.begins.front⟩) (Nat.lt_irrefl _)
    refine ⟨.inr listed, longest.begins.nonempty, longest.begins.front, ?_, (if_neg unlisted).symm⟩
    rintro other (member | member) begins
    · exact le_of_begins (fun _ front => Nat.le_of_lt (others _ front)) member begins
    · exact le_of_begins longest.longest member begins

/-- The symbol that a text begins with is the longest of both lists together. -/
theorem SymbolAt.toLongest (at' : SymbolAt operators separators cs kind symbol) :
    (ofList (operators ++ separators)).Longest symbol cs where
  begins := ⟨Symbols.mem_ofList.mpr (List.mem_append.mpr at'.member), at'.nonempty, at'.begins⟩
  longest other begins :=
    at'.longest other (List.mem_append.mp (Symbols.mem_ofList.mp begins.member)) begins.front

theorem SymbolAt.unique {kind' : TokenKind} {other : String}
    (at' : SymbolAt operators separators cs kind symbol)
    (at'' : SymbolAt operators separators cs kind' other) : kind = kind' ∧ symbol = other := by
  obtain rfl : symbol = other := at'.toLongest.unique at''.toLongest
  exact ⟨at'.kind.trans at''.kind.symm, rfl⟩

theorem symbolAt?_ofLists_eq_none :
    (ofLists keywords literalWords operators separators).symbolAt? cs = none ↔
      ∀ symbol, symbol ∈ operators ∨ symbol ∈ separators → symbol.toList <+: cs → symbol = "" := by
  rw [symbolAt?_eq_none, Symbols.longestPrefix?_eq_none, Symbols.longestPrefix?_eq_none]
  constructor
  · rintro ⟨operators', separators'⟩ symbol (member | member) begins
    · by_contra nonempty
      exact operators' symbol ⟨Symbols.mem_ofList.mpr member, nonempty, begins⟩
    · by_contra nonempty
      exact separators' symbol ⟨Symbols.mem_ofList.mpr member, nonempty, begins⟩
  · intro none
    exact ⟨fun symbol ⟨member, nonempty, front⟩ =>
        nonempty (none symbol (.inl (Symbols.mem_ofList.mp member)) front),
      fun symbol ⟨member, nonempty, front⟩ =>
        nonempty (none symbol (.inr (Symbols.mem_ofList.mp member)) front)⟩

/-- **What a vocabulary finds at the front of a text** whose operators and separators are those of two
lists. -/
structure FindsSymbols (v : Vocabulary) (operators separators : List String) (cs : List Char) :
    Prop where
  absent : v.symbolAt? cs = none ↔
    ∀ symbol, symbol ∈ operators ∨ symbol ∈ separators → symbol.toList <+: cs → symbol = ""
  found : ∀ kind symbol, v.symbolAt? cs = some (kind, symbol) ↔
    SymbolAt operators separators cs kind symbol
  /-- A separator is longer than every operator that begins the text. -/
  longer : ∀ symbol, v.symbolAt? cs = some (.separator, symbol) →
    ∀ operator ∈ operators, operator.toList <+: cs → operator.utf8ByteSize < symbol.utf8ByteSize
  /-- Two searches by sets, downward from the longest lengths, find the same. -/
  search : v.symbolAt? cs = v.searchSymbol? cs

/-- **The symbol that is found is the longest of both lists**, and an operator where two are equally
long; none is found where no symbol but the empty one begins the text. -/
theorem symbolAt?_ofLists (keywords literalWords operators separators : List String)
    (cs : List Char) :
    FindsSymbols (ofLists keywords literalWords operators separators) operators separators cs where
  absent := symbolAt?_ofLists_eq_none
  found := by
    refine fun kind symbol => ⟨symbolAt_of_found, fun at' => ?_⟩
    cases found : (ofLists keywords literalWords operators separators).symbolAt? cs with
    | none =>
      exact absurd (symbolAt?_ofLists_eq_none.mp found symbol at'.member at'.begins) at'.nonempty
    | some result =>
      obtain ⟨rfl, rfl⟩ := at'.unique (symbolAt_of_found found)
      rfl
  longer := by
    intro symbol found operator member begins
    rcases longest_of_symbolAt? found with ⟨kind, -⟩ | ⟨-, longest, others⟩
    · cases kind
    · by_cases empty : operator = ""
      · rw [empty]
        exact longest.begins.utf8ByteSize_pos
      · exact others operator ⟨Symbols.mem_ofList.mpr member, empty, begins⟩
  search := symbolAt?_eq_searchSymbol? _ cs

/-- An ellipsis is longer than the point, though it is a separator. -/
example : Vocabulary.java.symbolAt? ['.', '.', '.', '.'] = some (.separator, "...") := by decide

end Vocabulary

end Lexis
