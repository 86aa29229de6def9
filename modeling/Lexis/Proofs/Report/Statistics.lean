import Lexis.Proofs.Report.FirstSeen
import Lexis.Proofs.Report.Listing
import Lexis.Report
import Mathlib.Algebra.Ring.Nat

/-!
# Frequency tables count what occurs

The tables of a token sequence have a closed form (`Statistics.collect_eq`): for each kind that occurs, in
the order of the kinds, the keys of its tokens in the order in which they are first seen, each with the
number of its occurrences. What one more token does to the tables is what it does to the closed form
(`Tally.addTo_tallies`), and the rest is read off the closed form (`Statistics.collects`).

The key of a literal is its value and the name of its type without any escape. Since no name of a type
holds a space, the last space of the key tells where the value ends.
-/

set_option autoImplicit false

namespace Lexis

/-- The headings of the kinds, in the order of reports. -/
def headings : List String :=
  ["EOF", "ERROR", "IDENTIFIER", "KEYWORD", "LITERAL", "OPERATOR", "SEPARATOR"]

/-- The tokens of the kind with a heading. -/
def tokensUnder (heading : String) (ts : List Token) : List Token :=
  ts.filter fun t => t.kind.label == heading

/-- Tallies of the same tokens in another order: the same keys with the same counts. -/
structure Tally.Alike (a b : Tally) : Prop where
  label : a.label = b.label
  counts : a.counts.Perm b.counts

/-- **Tallies of a token sequence** as they should be. -/
structure Collects (ts : List Token) (tallies : List Tally) : Prop where
  /-- There is one tally for each kind that occurs, and they stand in order. -/
  labels : tallies.map (·.label) = headings.filter fun heading => ts.any fun t => t.kind.label == heading
  /-- The keys of a tally stand in the order in which they are first seen. -/
  keys : ∀ tally ∈ tallies, tally.counts.map Prod.fst =
    ((tokensUnder tally.label ts).map Token.countedAs).eraseDups
  distinct : ∀ tally ∈ tallies, (tally.counts.map Prod.fst).Nodup
  counts : ∀ tally ∈ tallies, ∀ key n, (key, n) ∈ tally.counts →
    n = ts.countP fun t => t.kind.label == tally.label && t.countedAs == key
  total : (tallies.map Tally.total).sum = ts.length
  /-- Two literals are counted under one key just if they have one value and one type. -/
  literals : ∀ (t u : Token) (type type' : LiteralType), t.kind = .literal type → u.kind = .literal type' →
    (t.countedAs = u.countedAs ↔ t.value = u.value ∧ type = type')
  permuted : ∀ us, us.Perm ts → List.Forall₂ Tally.Alike (Statistics.collect us) tallies

/-! ## Keys of literals -/

theorem LiteralType.name_injective {type type' : LiteralType} (same : type.name = type'.name) :
    type = type' := by
  cases type <;> cases type' <;> first | rfl | exact absurd same (by decide)

theorem LiteralType.not_mem_space (type : LiteralType) : ' ' ∉ type.name.toList := by
  cases type <;> decide

theorem toList_countedAs {t : Token} {type : LiteralType} (kind : t.kind = .literal type) :
    t.countedAs.toList = '(' :: (t.value.toList ++ [','] ++ ' ' :: type.name.toList) ++ [')'] := by
  simp [Token.countedAs, kind, toString]

/-- The key of a literal tells its value and its type. -/
theorem countedAs_eq_iff {t u : Token} {type type' : LiteralType} (kind : t.kind = .literal type)
    (kind' : u.kind = .literal type') :
    t.countedAs = u.countedAs ↔ t.value = u.value ∧ type = type' := by
  constructor
  · intro same
    have inside : t.value.toList ++ [','] ++ ' ' :: type.name.toList =
        u.value.toList ++ [','] ++ ' ' :: type'.name.toList := by
      have spelled := congrArg String.toList same
      rw [toList_countedAs kind, toList_countedAs kind'] at spelled
      exact (List.cons.inj (List.append_cancel_right spelled)).2
    -- read backwards, the first space ends the name of the type
    have backwards := congrArg List.reverse inside
    simp only [List.reverse_append, List.reverse_cons, List.append_assoc] at backwards
    have ends : Listing.EndsAt ' ' (fun name => ' ' ∉ name) := Listing.endsAt_of_not_mem fun _ => id
    obtain ⟨names, values⟩ := ends.cancel (by simpa using type.not_mem_space)
      (by simpa using type'.not_mem_space) backwards
    exact ⟨String.toList_inj.mp (by simpa using values),
      LiteralType.name_injective (String.toList_inj.mp (by simpa using names))⟩
  · rintro ⟨value, rfl⟩
    simp [Token.countedAs, kind, kind', value]

/-! ## Counts of keys -/

/-- The keys that occur, in the order in which they are first seen, with the numbers of their
occurrences. -/
def countKeys (keys : List String) : List (String × Nat) :=
  keys.eraseDups.map fun key => (key, keys.count key)

section countOne

variable {keys : List String} {key : String}

theorem countOne_map_of_not_mem (count : String → Nat) (new : key ∉ keys) :
    countOne key (keys.map fun key => (key, count key)) =
      (keys.map fun key => (key, count key)) ++ [(key, 1)] := by
  induction keys with
  | nil => rfl
  | cons first keys ih =>
    obtain ⟨other, new⟩ := not_or.mp (mt List.mem_cons.mpr new)
    rw [List.map_cons, countOne, if_neg (Ne.symm other), ih new]
    rfl

theorem countOne_map_of_mem (count : String → Nat) (distinct : keys.Nodup) (seen : key ∈ keys) :
    countOne key (keys.map fun key => (key, count key)) =
      keys.map fun other => (other, if other = key then count other + 1 else count other) := by
  induction keys with
  | nil => cases seen
  | cons first keys ih =>
    obtain ⟨new, distinct⟩ := List.nodup_cons.mp distinct
    rw [List.map_cons, List.map_cons, countOne]
    split
    · next same =>
      subst same
      refine congrArg _ (List.map_congr_left fun other member => ?_)
      rw [if_neg (ne_of_mem_of_not_mem member new)]
    · next other =>
      rw [ih distinct (List.mem_of_ne_of_mem (Ne.symm other) seen)]

/-- **One more key is counted.** -/
theorem countOne_countKeys (keys : List String) (key : String) :
    countOne key (countKeys keys) = countKeys (keys ++ [key]) := by
  unfold countKeys
  by_cases seen : key ∈ keys
  · rw [countOne_map_of_mem _ (FirstSeen.nodup_eraseDups keys) (List.mem_eraseDups.mpr seen),
      FirstSeen.eraseDups_concat_of_mem seen]
    refine List.map_congr_left fun other _ => ?_
    rw [List.count_append, List.count_singleton]
    by_cases same : other = key
    · simp [same]
    · simp [same, Ne.symm same]
  · rw [countOne_map_of_not_mem _ (mt List.mem_eraseDups.mp seen),
      FirstSeen.eraseDups_concat_of_not_mem seen, List.map_append]
    congr 1
    · refine List.map_congr_left fun other member => ?_
      have here : other ∈ keys := List.mem_eraseDups.mp member
      rw [List.count_append, List.count_singleton]
      simp [(ne_of_mem_of_not_mem here seen).symm]
    · simp [List.count_eq_zero_of_not_mem seen]

end countOne

theorem keys_countKeys (keys : List String) : (countKeys keys).map Prod.fst = keys.eraseDups := by
  simp [countKeys, Function.comp_def]

theorem mem_countKeys {keys : List String} {key : String} {n : Nat} (member : (key, n) ∈ countKeys keys) :
    n = keys.count key := by
  obtain ⟨other, -, entry⟩ := List.mem_map.mp member
  obtain ⟨rfl, rfl⟩ := Prod.mk.inj entry
  rfl

theorem countKeys_perm {keys keys' : List String} (perm : keys.Perm keys') :
    (countKeys keys).Perm (countKeys keys') := by
  have counts : (fun key => (key, keys.count key)) = fun key => (key, keys'.count key) :=
    funext fun key => by rw [perm.count_eq]
  rw [countKeys, counts]
  exact (FirstSeen.eraseDups_perm perm).map _

theorem total_countOne (key : String) (counts : List (String × Nat)) :
    (countOne key counts).foldr (fun entry n => entry.2 + n) 0 =
      counts.foldr (fun entry n => entry.2 + n) 0 + 1 := by
  induction counts with
  | nil => rfl
  | cons entry counts ih =>
    rw [countOne]
    split
    · simp only [List.foldr_cons]
      omega
    · simp only [List.foldr_cons, ih]
      omega

/-! ## Tallies of kinds -/

/-- The tally of the kind with a heading and a rank, if it occurs. -/
def tally? (ts : List Token) (kind : String × Nat) : Option Tally :=
  if tokensUnder kind.1 ts = [] then none
  else some ⟨kind.2, kind.1, countKeys ((tokensUnder kind.1 ts).map Token.countedAs)⟩

theorem TokenKind.mem_headings (kind : TokenKind) : (kind.label, kind.rank) ∈ headings.zipIdx := by
  cases kind <;> simp [label, rank, headings]

/-- The heading of a kind and its rank tell the same. -/
theorem TokenKind.label_eq_iff {kind : TokenKind} {listed : String × Nat}
    (member : listed ∈ headings.zipIdx) : kind.label = listed.1 ↔ kind.rank = listed.2 := by
  have apart : ∀ a ∈ headings.zipIdx, ∀ b ∈ headings.zipIdx, a.1 = b.1 ↔ a.2 = b.2 := by decide
  exact apart (kind.label, kind.rank) kind.mem_headings listed member

section tally?

variable {ts : List Token} {t : Token} {kind : String × Nat}

theorem tally?_eq_some_iff {tally : Tally} : tally? ts kind = some tally ↔ tokensUnder kind.1 ts ≠ [] ∧
    ⟨kind.2, kind.1, countKeys ((tokensUnder kind.1 ts).map Token.countedAs)⟩ = tally := by
  unfold tally?
  split <;> simp [*]

/-- One more token leaves the tallies of other kinds as they are. -/
theorem tally?_concat_of_ne (other : t.kind.label ≠ kind.1) : tally? (ts ++ [t]) kind = tally? ts kind := by
  have same : tokensUnder kind.1 (ts ++ [t]) = tokensUnder kind.1 ts := by simp [tokensUnder, other]
  rw [tally?, same, tally?]

theorem tally?_concat_self : tally? (ts ++ [t]) (t.kind.label, t.kind.rank) =
    some ⟨t.kind.rank, t.kind.label,
      countOne t.countedAs (countKeys ((tokensUnder t.kind.label ts).map Token.countedAs))⟩ := by
  have more : tokensUnder t.kind.label (ts ++ [t]) = tokensUnder t.kind.label ts ++ [t] := by
    simp [tokensUnder]
  rw [tally?, if_neg (by simp [more]), more, List.map_append, countOne_countKeys]
  rfl

end tally?

/-- The tallies that there are have the headings of the kinds that occur. -/
theorem labels_tallies (ts : List Token) (kinds : List (String × Nat)) :
    (kinds.filterMap (tally? ts)).map (·.label) =
      (kinds.map Prod.fst).filter fun heading => ts.any fun t => t.kind.label == heading := by
  induction kinds with
  | nil => rfl
  | cons kind kinds ih =>
    rw [List.filterMap_cons, List.map_cons, List.filter_cons]
    cases occurs : ts.any fun t => t.kind.label == kind.1 with
    | false =>
      have none : tokensUnder kind.1 ts = [] := List.filter_eq_nil_iff.mpr (List.any_eq_false.mp occurs)
      rw [tally?, if_pos none, ih]
      rfl
    | true =>
      have some : tokensUnder kind.1 ts ≠ [] := by
        intro none
        rw [List.any_eq_false.mpr (List.filter_eq_nil_iff.mp none)] at occurs
        cases occurs
      rw [tally?, if_neg some, if_pos rfl, List.map_cons, ih]

/-- In another order the tokens have the same tallies. -/
theorem alike_tallies {us ts : List Token} (perm : us.Perm ts) (kinds : List (String × Nat)) :
    List.Forall₂ Tally.Alike (kinds.filterMap (tally? us)) (kinds.filterMap (tally? ts)) := by
  induction kinds with
  | nil => exact .nil
  | cons kind kinds ih =>
    have under : (tokensUnder kind.1 us).Perm (tokensUnder kind.1 ts) := perm.filter _
    rw [List.filterMap_cons, List.filterMap_cons]
    by_cases none : tokensUnder kind.1 ts = []
    · have none' : tokensUnder kind.1 us = [] := (none ▸ under).eq_nil
      rw [tally?, if_pos none', tally?, if_pos none]
      exact ih
    · have some : tokensUnder kind.1 us ≠ [] := fun none' => none (none' ▸ under).symm.eq_nil
      rw [tally?, if_neg some, tally?, if_neg none]
      exact .cons ⟨rfl, countKeys_perm (under.map _)⟩ ih

namespace Tally

/-- A token of a kind that comes first of those that occur opens the first tally. -/
theorem addTo_of_lt {t : Token} {tallies : List Tally} (first : ∀ tally ∈ tallies, t.kind.rank < tally.rank) :
    addTo t tallies = ⟨t.kind.rank, t.kind.label, countOne t.countedAs []⟩ :: tallies := by
  cases tallies with
  | nil => rfl
  | cons tally tallies => rw [addTo, if_pos (first tally (List.mem_cons_self ..))]

/-- Tallies of later kinds have later ranks. -/
theorem lt_rank_of_mem {ts : List Token} {rank : Nat} {kinds : List (String × Nat)}
    (first : ∀ kind ∈ kinds, rank < kind.2) : ∀ tally ∈ kinds.filterMap (tally? ts), rank < tally.rank := by
  intro tally here
  obtain ⟨kind, member, found⟩ := List.mem_filterMap.mp here
  obtain ⟨-, rfl⟩ := tally?_eq_some_iff.mp found
  exact first kind member

/-- **One more token** does to the tallies of kinds what it does to that of its own kind. -/
theorem addTo_tallies {ts : List Token} {t : Token} {kinds : List (String × Nat)}
    (sorted : kinds.Pairwise fun a b => a.2 < b.2) (among : kinds ⊆ headings.zipIdx)
    (member : (t.kind.label, t.kind.rank) ∈ kinds) :
    addTo t (kinds.filterMap (tally? ts)) = kinds.filterMap (tally? (ts ++ [t])) := by
  induction kinds with
  | nil => cases member
  | cons kind kinds ih =>
    obtain ⟨first, sorted⟩ := List.pairwise_cons.mp sorted
    obtain ⟨listed, behind⟩ := List.cons_subset.mp among
    rw [List.filterMap_cons, List.filterMap_cons]
    rcases List.mem_cons.mp member with rfl | member
    · have others : kinds.filterMap (tally? (ts ++ [t])) = kinds.filterMap (tally? ts) := by
        refine List.filterMap_congr fun other here => tally?_concat_of_ne ?_
        rw [Ne, TokenKind.label_eq_iff (behind here)]
        exact Nat.ne_of_lt (first other here)
      rw [tally?_concat_self, others]
      cases tally : tally? ts (t.kind.label, t.kind.rank) with
      | none =>
        have unseen : tokensUnder t.kind.label ts = [] := by
          by_contra seen
          simp [tally?, seen] at tally
        rw [unseen]
        show addTo t (kinds.filterMap (tally? ts)) = _
        exact addTo_of_lt (lt_rank_of_mem first)
      | some tally =>
        obtain ⟨-, rfl⟩ := tally?_eq_some_iff.mp tally
        simp [addTo]
    · have later : kind.2 < t.kind.rank := first _ member
      have other : t.kind.label ≠ kind.1 := by
        rw [Ne, TokenKind.label_eq_iff listed]
        exact Nat.ne_of_gt later
      rw [tally?_concat_of_ne other]
      cases tally : tally? ts kind with
      | none => exact ih sorted behind member
      | some tally =>
        obtain ⟨-, rfl⟩ := tally?_eq_some_iff.mp tally
        simp only [addTo, if_neg (Nat.lt_asymm later), if_neg (Nat.ne_of_gt later)]
        rw [ih sorted behind member]

/-- One more token is counted once. -/
theorem total_addTo (t : Token) (tallies : List Tally) :
    ((addTo t tallies).map total).sum = (tallies.map total).sum + 1 := by
  have alone : (countOne t.countedAs []).foldr (fun entry n => entry.2 + n) 0 = 1 := rfl
  induction tallies with
  | nil => rfl
  | cons tally tallies ih =>
    rw [addTo]
    split
    · simp only [List.map_cons, List.sum_cons, total, alone]
      omega
    · split
      · simp only [List.map_cons, List.sum_cons, total, total_countOne]
        omega
      · simp only [List.map_cons, List.sum_cons, ih]
        omega

end Tally

/-! ## The tables -/

namespace Statistics

theorem collect_concat (ts : List Token) (t : Token) :
    collect (ts ++ [t]) = Tally.addTo t (collect ts) := by
  rw [collect, List.foldl_append]
  rfl

/-- **The tallies of a token sequence** are those of the kinds that occur. -/
theorem collect_eq (ts : List Token) : collect ts = headings.zipIdx.filterMap (tally? ts) := by
  induction ts using List.reverseRecOn with
  | nil => rfl
  | append_singleton ts t ih =>
    rw [collect_concat, ih, Tally.addTo_tallies (by decide) (List.Subset.refl _) t.kind.mem_headings]

/-- A tally counts the keys of the tokens under its heading. -/
theorem counts_of_mem {ts : List Token} {tally : Tally} (member : tally ∈ collect ts) :
    tally.counts = countKeys ((tokensUnder tally.label ts).map Token.countedAs) := by
  rw [collect_eq] at member
  obtain ⟨kind, -, found⟩ := List.mem_filterMap.mp member
  obtain ⟨-, rfl⟩ := tally?_eq_some_iff.mp found
  rfl

theorem total_collect (ts : List Token) : ((collect ts).map Tally.total).sum = ts.length := by
  induction ts using List.reverseRecOn with
  | nil => rfl
  | append_singleton ts t ih =>
    rw [collect_concat, Tally.total_addTo, ih, List.length_append, List.length_singleton]

end Statistics

/-- **The tallies of a token sequence count what occurs in it.** -/
theorem Statistics.collects (ts : List Token) : Collects ts (collect ts) where
  labels := by
    rw [collect_eq, labels_tallies]
    rfl
  keys tally member := by rw [counts_of_mem member, keys_countKeys]
  distinct tally member := by
    rw [counts_of_mem member, keys_countKeys]
    exact FirstSeen.nodup_eraseDups _
  counts tally member key n entry := by
    rw [counts_of_mem member] at entry
    rw [mem_countKeys entry, List.count_eq_countP, List.countP_map, tokensUnder, List.countP_filter]
    refine List.countP_congr fun t _ => ?_
    simp [and_comm]
  total := total_collect ts
  literals _ _ _ _ kind kind' := countedAs_eq_iff kind kind'
  permuted us perm := by
    rw [collect_eq, collect_eq]
    exact alike_tallies perm _

end Lexis
