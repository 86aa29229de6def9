import Lexis.Span

/-!
# Readers

A reader takes something from the front of a text or fails; a failure leaves nothing behind, so another
reader can be tried at the same place. The text carries the number of bytes in front of it.
-/

set_option autoImplicit false

namespace Lexis

/-- A text still to be read and the bytes in front of it. -/
structure Reader.Input where
  rest : List Char
  offset : Nat

/-- A function that takes something from the front of a text. -/
abbrev Reader := StateT Reader.Input Option

namespace Reader

/-- One character of a class. -/
def one (p : Char → Bool) : Reader Char := fun input =>
  match input.rest with
  | c :: rest => if p c then some (c, ⟨rest, input.offset + c.utf8Size⟩) else none
  | [] => none

/-- One given character. -/
def char (c : Char) : Reader Unit := do
  let _ ← one (· == c)

/-- A given word. -/
def word (w : String) : Reader Unit := w.toList.forM char

/-- All characters of a class that stand together. -/
def takeWhile (p : Char → Bool) : Reader (List Char) := fun input =>
  let taken := input.rest.takeWhile p
  some (taken, ⟨input.rest.dropWhile p, input.offset + Text.byteLength taken⟩)

/-- At least one character of a class. -/
def takeWhile1 (p : Char → Bool) : Reader (List Char) := do
  let taken ← takeWhile p
  if taken.isEmpty then failure else return taken

/-- Exactly so many characters of a class. -/
def exactly (p : Char → Bool) : Nat → Reader (List Char)
  | 0 => return []
  | n + 1 => do
    let c ← one p
    return c :: (← exactly p n)

/-- Nothing, at the end of the text. -/
def atEnd : Reader Unit := fun input => if input.rest.isEmpty then some ((), input) else none

/-- What a reader takes, or a default where it fails. -/
def withDefault {α : Type} (default : α) (r : Reader α) : Reader α := r <|> pure default

/-- What a reader would take, which stays in the text. -/
def ahead {α : Type} (r : Reader α) : Reader α := fun input =>
  (r input).map fun result => (result.1, input)

/-- What a reader takes, as often as it succeeds and takes something. -/
def many {α : Type} (r : Reader α) : Reader (List α) := fun input =>
  some (go [] input.rest.length input)
where
  /-- Goes on at most as often as there are characters. -/
  go (found : List α) : Nat → Input → List α × Input
    | 0, input => (found.reverse, input)
    | steps + 1, input =>
      match r input with
      | none => (found.reverse, input)
      | some (a, after) =>
        if after.offset = input.offset then (found.reverse, input) else go (a :: found) steps after

/-- What a reader takes, between separators. Nothing is a list as well. -/
def separatedBy {α : Type} (separator : Reader Unit) (r : Reader α) : Reader (List α) :=
  withDefault [] do
    let first ← r
    return first :: (← many do separator; r)

/-- What a reader takes, with its place. -/
def located {α : Type} (r : Reader α) : Reader (α × Span) := fun input =>
  (r input).map fun result => ((result.1, ⟨input.offset, result.2.offset⟩), result.2)

end Reader

end Lexis
