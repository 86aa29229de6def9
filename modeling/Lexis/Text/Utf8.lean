/-!
# Offsets in UTF-8

Texts are lists of characters; positions in them are counted in the bytes of their UTF-8 form. Two
functions pass between the counts: the bytes that a text takes, and the number of characters that fill
the first bytes of it. The second has no answer where the offset falls inside a character.
-/

set_option autoImplicit false

namespace Lexis.Text

/-- The number of bytes that a text takes. -/
def byteLength (cs : List Char) : Nat :=
  cs.foldl (fun n c => n + c.utf8Size) 0

private theorem foldl_utf8Size (cs : List Char) (n : Nat) :
    cs.foldl (fun n c => n + c.utf8Size) n = n + byteLength cs := by
  induction cs generalizing n with
  | nil => rfl
  | cons c cs ih =>
    simp only [byteLength, List.foldl_cons]
    rw [ih, ih (0 + c.utf8Size)]
    omega

@[simp] theorem byteLength_nil : byteLength [] = 0 := rfl

@[simp] theorem byteLength_cons (c : Char) (cs : List Char) :
    byteLength (c :: cs) = c.utf8Size + byteLength cs := by
  simp only [byteLength, List.foldl_cons]
  rw [foldl_utf8Size]
  simp [byteLength]

@[simp] theorem byteLength_append (cs ds : List Char) :
    byteLength (cs ++ ds) = byteLength cs + byteLength ds := by
  rw [byteLength, List.foldl_append, foldl_utf8Size]
  rfl

/-- The number of characters that fill exactly the first `offset` bytes of a text. -/
def charIndex? (cs : List Char) (offset : Nat) : Option Nat :=
  go 0 cs offset
where
  /-- Counts on from the characters already passed. -/
  go (passed : Nat) : List Char → Nat → Option Nat
    | _, 0 => some passed
    | [], _ + 1 => none
    | c :: cs, offset + 1 =>
      if c.utf8Size ≤ offset + 1 then go (passed + 1) cs (offset + 1 - c.utf8Size) else none

/-- The characters between two byte offsets, when both fall on character boundaries in order. -/
def slice? (cs : List Char) (start stop : Nat) : Option (List Char) := do
  let first ← charIndex? cs start
  let last ← charIndex? cs stop
  if first ≤ last then some ((cs.drop first).take (last - first)) else none

end Lexis.Text
