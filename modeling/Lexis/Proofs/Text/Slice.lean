import Lexis.Span

/-!
# Parts of a text by byte offsets

A text that is put together from parts can be taken apart again by the bytes of the parts: the bytes in
front of a part fall on a character boundary, and so do the bytes up to its end.
-/

set_option autoImplicit false

namespace Lexis.Text

/-- The bytes of a text are those of the string that it spells. -/
theorem utf8ByteSize_eq_byteLength (s : String) : s.utf8ByteSize = byteLength s.toList := by
  have spelled : ∀ cs : List Char, (String.ofList cs).utf8ByteSize = byteLength cs := by
    intro cs
    induction cs with
    | nil => rfl
    | cons c cs ih =>
      rw [String.ofList_cons, String.utf8ByteSize_append, String.utf8ByteSize_singleton, ih,
        byteLength_cons]
  rw [← spelled, String.ofList_toList]

/-- Of two fronts of one text, the one with more characters has more bytes. -/
theorem byteLength_lt_of_prefix {x y text : List Char} (hx : x <+: text) (hy : y <+: text)
    (shorter : x.length < y.length) : byteLength x < byteLength y := by
  obtain ⟨more, rfl⟩ := List.prefix_of_prefix_length_le hx hy (Nat.le_of_lt shorter)
  cases more with
  | nil => simp at shorter
  | cons c more =>
    have := c.utf8Size_pos
    rw [byteLength_append, byteLength_cons]
    omega

/-- Of two fronts of one text, the one with no more bytes begins the other. -/
theorem exists_append_of_byteLength_le {front rest text behind : List Char}
    (split : front ++ rest = text ++ behind) (le : byteLength front ≤ byteLength text) :
    ∃ more, text = front ++ more ∧ rest = more ++ behind := by
  rcases List.append_eq_append_iff.mp split with h | ⟨more, rfl, rfl⟩
  · exact h
  · cases more with
    | nil => exact ⟨[], by simp, rfl⟩
    | cons c more =>
      have := c.utf8Size_pos
      rw [byteLength_append, byteLength_cons] at le
      omega

private theorem charIndex?_go (passed : Nat) (front back : List Char) :
    charIndex?.go passed (front ++ back) (byteLength front) = some (passed + front.length) := by
  induction front generalizing passed with
  | nil => simp [charIndex?.go]
  | cons c front ih =>
    obtain ⟨n, size⟩ : ∃ n, c.utf8Size = n + 1 :=
      Nat.exists_eq_succ_of_ne_zero (Nat.ne_of_gt c.utf8Size_pos)
    have more : byteLength (c :: front) = (n + byteLength front) + 1 := by
      rw [byteLength_cons, size]
      omega
    have fits : c.utf8Size ≤ n + byteLength front + 1 := by omega
    have left : n + byteLength front + 1 - c.utf8Size = byteLength front := by omega
    rw [more, List.cons_append, charIndex?.go, if_pos fits, left, ih, List.length_cons]
    congr 1
    omega

/-- The bytes of the front of a text are filled by the characters of the front. -/
theorem charIndex?_byteLength (front back : List Char) :
    charIndex? (front ++ back) (byteLength front) = some front.length := by
  unfold charIndex?
  rw [charIndex?_go, Nat.zero_add]

private theorem byteLength_of_go {passed : Nat} {cs : List Char} {offset k : Nat}
    (found : charIndex?.go passed cs offset = some k) :
    ∃ more, k = passed + more ∧ byteLength (cs.take more) = offset := by
  induction cs generalizing passed offset with
  | nil =>
    cases offset with
    | zero => exact ⟨0, (Option.some.inj found).symm, rfl⟩
    | succ offset => cases found
  | cons c cs ih =>
    cases offset with
    | zero => exact ⟨0, (Option.some.inj found).symm, rfl⟩
    | succ offset =>
      rw [charIndex?.go] at found
      split at found
      · next fits =>
        obtain ⟨more, rfl, bytes⟩ := ih found
        refine ⟨more + 1, by omega, ?_⟩
        rw [List.take_succ_cons, byteLength_cons, bytes]
        omega
      · cases found

/-- The characters that fill the first bytes of a text have as many bytes. -/
theorem byteLength_take_of_charIndex? {cs : List Char} {offset k : Nat}
    (found : charIndex? cs offset = some k) : byteLength (cs.take k) = offset := by
  obtain ⟨more, rfl, bytes⟩ := byteLength_of_go found
  rwa [Nat.zero_add]

/-- **The front of a text with so many bytes** is the one front that has as many, if there is one. -/
theorem slice?_zero {cs front : List Char} {bytes : Nat} :
    slice? cs 0 bytes = some front ↔ front <+: cs ∧ byteLength front = bytes := by
  have first : charIndex? cs 0 = some 0 := charIndex?_byteLength [] cs
  constructor
  · intro found
    cases last : charIndex? cs bytes with
    | none => simp [slice?, first, last] at found
    | some k =>
      obtain rfl : cs.take k = front := by simpa [slice?, first, last] using found
      exact ⟨List.take_prefix k cs, byteLength_take_of_charIndex? last⟩
  · rintro ⟨⟨behind, rfl⟩, rfl⟩
    have last := charIndex?_byteLength front behind
    simp [slice?, first, last]

/-- **A part of a text is found by its bytes.** -/
theorem slice?_byteLength (front part back : List Char) :
    slice? (front ++ (part ++ back)) (byteLength front) (byteLength front + byteLength part) =
      some part := by
  have first := charIndex?_byteLength front (part ++ back)
  have last : charIndex? (front ++ (part ++ back)) (byteLength front + byteLength part) =
      some (front.length + part.length) := by
    have := charIndex?_byteLength (front ++ part) back
    rwa [List.append_assoc, byteLength_append, List.length_append] at this
  unfold slice?
  rw [first, last]
  simp

end Lexis.Text
