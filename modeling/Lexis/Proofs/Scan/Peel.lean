import Mathlib.Computability.Language

/-!
# Peeling a part off the front of a text

A text is checked against a sequence of parts from left to right: each step peels its part off the front
and hands on what is left. A step *peels* a language when what it takes is a text of the language, and
when it takes such a text whole wherever nothing stands behind it that the step would also take.

A sequence of steps peels the product of the languages, provided the characters at each border are told
apart (`Peels.andThen_of_covers`). From that come the two facts for which there is no need to go back: a
text is in a product just when what is left behind the first factor is in the second (`Peels.mem_mul`),
and the border between the two is at one place only (`Peels.dividesOnce`).
-/

set_option autoImplicit false

namespace Lexis

open scoped Computability

/-! ## Languages of single characters -/

/-- The texts of one character of a class. -/
def ofClass (p : Char → Bool) : Language Char := {cs | ∃ c, p c = true ∧ cs = [c]}

/-- The texts of one of the given characters. -/
def oneOf (marks : List Char) : Language Char := ofClass marks.contains

section Languages

variable {p q : Char → Bool} {marks cs : List Char} {part part' : Language Char}

theorem mem_ofClass : cs ∈ ofClass p ↔ ∃ c, p c = true ∧ cs = [c] := Iff.rfl

theorem mem_oneOf : cs ∈ oneOf marks ↔ ∃ c ∈ marks, cs = [c] := by
  simp only [oneOf, mem_ofClass, List.contains_iff_mem]

theorem cons_mem_ofClass_mul {c : Char} :
    c :: cs ∈ ofClass p * part ↔ p c = true ∧ cs ∈ part := by
  rw [Language.mem_mul]
  constructor
  · rintro ⟨_, ⟨c, holds, rfl⟩, back, member, split⟩
    obtain ⟨rfl, rfl⟩ := List.cons.inj split
    exact ⟨holds, member⟩
  · rintro ⟨holds, member⟩
    exact ⟨[c], ⟨c, holds, rfl⟩, cs, member, rfl⟩

/-- A text is a row of characters of a class when all its characters are of the class. -/
theorem mem_kstar_ofClass : cs ∈ (ofClass p)∗ ↔ ∀ c ∈ cs, p c = true := by
  induction cs with
  | nil => simp [Language.nil_mem_kstar]
  | cons c cs ih =>
    rw [← Language.one_add_self_mul_kstar_eq_kstar, Language.mem_add, Language.mem_one,
      cons_mem_ofClass_mul, ih, List.forall_mem_cons]
    simp

/-- A language whose texts all begin with a character of a class. -/
def Leads (p : Char → Bool) (part : Language Char) : Prop := ∀ cs ∈ part, cs.head?.any p = true

/-- A language with no text that begins with a character of a class. -/
def Apart (p : Char → Bool) (part : Language Char) : Prop :=
  ∀ cs ∈ part, ∀ c ∈ cs.head?, p c = false

theorem leads_ofClass (p : Char → Bool) : Leads p (ofClass p) := by
  rintro _ ⟨c, holds, rfl⟩
  exact holds

theorem Leads.mul (leads : Leads p part) : Leads p (part * part') := by
  intro cs member
  obtain ⟨front, first, back, -, rfl⟩ := Language.mem_mul.mp member
  have begins := leads front first
  cases front with
  | nil => cases begins
  | cons c front => exact begins

theorem Leads.apart (leads : Leads q part) (other : ∀ c, q c = true → p c = false) :
    Apart p part := by
  intro cs member c first
  have begins := leads cs member
  rw [Option.mem_def.mp first] at begins
  exact other c begins

theorem apart_one : Apart p 1 := by
  intro cs member c first
  rw [(Language.mem_one cs).mp member] at first
  cases first

theorem apart_kstar (other : ∀ c, q c = true → p c = false) : Apart p (ofClass q)∗ :=
  fun _ member c first => other c (mem_kstar_ofClass.mp member c (List.mem_of_mem_head? first))

theorem Apart.add (apart : Apart p part) (apart' : Apart p part') : Apart p (part + part') := by
  intro cs member
  rcases (Language.mem_add _ _ _).mp member with member | member
  · exact apart cs member
  · exact apart' cs member

theorem Apart.mul (apart : Apart p part) (apart' : Apart p part') : Apart p (part * part') := by
  intro cs member c first
  obtain ⟨front, ahead, back, behind, rfl⟩ := Language.mem_mul.mp member
  cases front with
  | nil => exact apart' back behind c first
  | cons d front => exact apart _ ahead c first

end Languages

/-! ## Steps -/

namespace Peel

/-- One step, and another on what it leaves. -/
def andThen (first second : List Char → Option (List Char)) (cs : List Char) : Option (List Char) :=
  (first cs).bind second

/-- A step that may be left out. -/
def optional (peel : List Char → Option (List Char)) (cs : List Char) : Option (List Char) :=
  some ((peel cs).getD cs)

/-- The step over one character of a class. -/
def one (p : Char → Bool) : List Char → Option (List Char)
  | c :: cs => if p c then some cs else none
  | [] => none

/-- The step over all characters of a class that stand in front. -/
def run (p : Char → Bool) (cs : List Char) : Option (List Char) := some (cs.dropWhile p)

end Peel

open Peel

/-- **A step peels a language**: what it takes is a text of the language, and it takes such a text whole
where no character follows that would be taken as well. -/
structure Peels (inside : Char → Bool) (part : Language Char)
    (peel : List Char → Option (List Char)) : Prop where
  sound : ∀ cs rest, peel cs = some rest → ∃ front ∈ part, front ++ rest = cs
  complete : ∀ front ∈ part, ∀ rest, (∀ c ∈ rest.head?, inside c = false) →
    peel (front ++ rest) = some rest

section Laws

variable {p inside inside' : Char → Bool} {part part' behind : Language Char}
  {peel peel' : List Char → Option (List Char)} {cs : List Char}

theorem peels_one (p : Char → Bool) : Peels (fun _ => false) (ofClass p) (one p) where
  sound := by
    intro cs rest taken
    cases cs with
    | nil => cases taken
    | cons c cs =>
      simp only [one, Option.ite_none_right_eq_some, Option.some.injEq] at taken
      obtain ⟨holds, rfl⟩ := taken
      exact ⟨[c], ⟨c, holds, rfl⟩, rfl⟩
  complete := by
    rintro _ ⟨c, holds, rfl⟩ rest -
    simp [one, holds]

theorem peels_run (p : Char → Bool) : Peels p (ofClass p)∗ (run p) where
  sound := by
    intro cs rest taken
    obtain rfl := Option.some.inj taken
    exact ⟨cs.takeWhile p, mem_kstar_ofClass.mpr (List.all_eq_true.mp List.all_takeWhile),
      List.takeWhile_append_dropWhile⟩
  complete := by
    intro front member rest stop
    rw [run, List.dropWhile_append_of_pos (mem_kstar_ofClass.mp member)]
    cases rest with
    | nil => rfl
    | cons c rest => rw [List.dropWhile_cons_of_neg (by simp [stop c rfl])]

/-- A step may be said to take more, and it may be written in another way. -/
theorem Peels.congr (peels : Peels inside part peel) (fewer : ∀ c, inside' c = false → inside c = false)
    (same : ∀ cs, peel' cs = peel cs) : Peels inside' part peel' where
  sound := fun cs rest taken => peels.sound cs rest (same cs ▸ taken)
  complete := fun front member rest stop =>
    (same _).trans (peels.complete front member rest fun c first => fewer c (stop c first))

/-- **Steps in sequence peel a product**, where the second part begins with no character that the first
step would take. If the second part can be empty, the step over it stops at those characters too. -/
theorem Peels.andThen_of_covers (peels : Peels inside part peel) (peels' : Peels inside' part' peel')
    (apart : Apart inside part') (covers : [] ∈ part' → ∀ c, inside' c = false → inside c = false) :
    Peels inside' (part * part') (andThen peel peel') where
  sound := by
    intro cs rest taken
    obtain ⟨left, taken, taken'⟩ := Option.bind_eq_some_iff.mp taken
    obtain ⟨front, member, rfl⟩ := peels.sound cs left taken
    obtain ⟨back, member', rfl⟩ := peels'.sound left rest taken'
    exact ⟨front ++ back, Language.append_mem_mul member member', List.append_assoc _ _ _⟩
  complete := by
    intro cs member rest stop
    obtain ⟨front, first, back, second, rfl⟩ := Language.mem_mul.mp member
    have border : ∀ c ∈ (back ++ rest).head?, inside c = false := by
      cases back with
      | nil => exact fun c behind => covers second c (stop c behind)
      | cons d back => exact fun c behind => apart _ second c behind
    rw [andThen, List.append_assoc, peels.complete front first _ border]
    exact peels'.complete back second rest stop

/-- Behind two steps neither goes on. -/
theorem Peels.andThen (peels : Peels inside part peel) (peels' : Peels inside' part' peel')
    (apart : Apart inside part') :
    Peels (fun c => inside c || inside' c) (part * part') (Peel.andThen peel peel') :=
  peels.andThen_of_covers
    (peels'.congr (fun _ stop => (Bool.or_eq_false_iff.mp stop).2) fun _ => rfl) apart
    fun _ _ stop => (Bool.or_eq_false_iff.mp stop).1

/-- Behind a part that is never empty, what the first step would take does not matter. -/
theorem Peels.andThen_of_leads (peels : Peels inside part peel) (peels' : Peels inside' part' peel')
    (leads : Leads p part') (other : ∀ c, p c = true → inside c = false) :
    Peels inside' (part * part') (Peel.andThen peel peel') :=
  peels.andThen_of_covers peels' (leads.apart other) fun empty => by cases leads [] empty

/-- A step behind a single character. -/
theorem Peels.cons (peels : Peels inside part peel) :
    Peels inside (ofClass p * part) (Peel.andThen (one p) peel) :=
  ((peels_one p).andThen peels fun _ _ _ _ => rfl).congr (fun _ stop => stop) fun _ => rfl

/-- **A step that may be left out** stops also at what its part would begin with. -/
theorem Peels.optional (peels : Peels inside part peel) (leads : Leads p part) :
    Peels (fun c => inside c || p c) (1 + part) (optional peel) where
  sound := by
    intro cs rest taken
    obtain rfl := Option.some.inj taken
    cases left : peel cs with
    | none => exact ⟨[], .inl rfl, rfl⟩
    | some rest =>
      obtain ⟨front, member, split⟩ := peels.sound cs rest left
      exact ⟨front, .inr member, split⟩
  complete := by
    intro front member rest stop
    simp only [Bool.or_eq_false_iff] at stop
    rw [Peel.optional, Option.some.injEq]
    rcases (Language.mem_add _ _ _).mp member with empty | member
    · obtain rfl := (Language.mem_one front).mp empty
      cases left : peel rest with
      | none => rw [List.nil_append, left]; rfl
      | some behind =>
        -- a text of the part would stand here, but the text does not begin like one
        obtain ⟨front, member, rfl⟩ := peels.sound rest behind left
        have begins := leads front member
        cases front with
        | nil => cases begins
        | cons c front => exact absurd begins (by simp [(stop c rfl).2])
    · rw [peels.complete front member rest fun c first => (stop c first).1]
      rfl

/-! ## What is left -/

/-- **A text is in a product just when what is left behind the first factor is in the second.** -/
theorem Peels.mem_mul (peels : Peels inside part peel) (apart : Apart inside behind) :
    cs ∈ part * behind ↔ ∃ rest, peel cs = some rest ∧ rest ∈ behind := by
  rw [Language.mem_mul]
  constructor
  · rintro ⟨front, first, back, second, rfl⟩
    exact ⟨back, peels.complete front first back (apart back second), second⟩
  · rintro ⟨rest, taken, member⟩
    obtain ⟨front, first, split⟩ := peels.sound cs rest taken
    exact ⟨front, first, rest, member, split⟩

theorem Peels.mem (peels : Peels inside part peel) : cs ∈ part ↔ peel cs = some [] := by
  have whole : cs ∈ part * 1 ↔ _ := peels.mem_mul apart_one
  rw [← mul_one part, whole]
  constructor
  · rintro ⟨rest, taken, member⟩
    rwa [← (Language.mem_one rest).mp member]
  · exact fun taken => ⟨[], taken, Language.nil_mem_one⟩

/-- A text that is divided into a text of one language and a text of another behind it is divided so at
one place only. -/
def DividesOnce (part behind : Language Char) (cs : List Char) : Prop :=
  ∀ front back front' back', front ∈ part → back ∈ behind → front ++ back = cs →
    front' ∈ part → back' ∈ behind → front' ++ back' = cs → front = front' ∧ back = back'

theorem Peels.dividesOnce (peels : Peels inside part peel) (apart : Apart inside behind)
    (cs : List Char) : DividesOnce part behind cs := by
  intro front back front' back' first second split first' second' split'
  have left := peels.complete front first back (apart back second)
  have left' := peels.complete front' first' back' (apart back' second')
  rw [split] at left
  rw [split', left] at left'
  obtain rfl := Option.some.inj left'
  exact ⟨List.append_cancel_right (split.trans split'.symm), rfl⟩

end Laws

end Lexis
