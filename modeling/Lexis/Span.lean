import Lexis.Text.Utf8

/-!
# Spans

A span is a pair of byte offsets into a text. Spans that the lexer makes are in order and fall on
character boundaries; a span made by hand need not, so its length and its text may be missing. What is
asked of it all the same stops with a fault, which is a value like any other.
-/

set_option autoImplicit false

namespace Lexis

/-- Why a computation stopped. -/
inductive Fault where
  /-- A length was asked of a span that ends before it starts. -/
  | reversedSpan
  /-- A field was asked for that is wider than the layout allows. -/
  | fieldTooWide
  /-- A line for the user could not be printed. -/
  | unprintable (reason : String)
deriving DecidableEq

/-- The wording of a fault. -/
def Fault.message : Fault → String
  | .reversedSpan => "attempt to subtract with overflow"
  | .fieldTooWide => "Formatting argument out of range"
  | .unprintable reason => s!"failed printing to stdout: {reason}"

/-- The bytes from `start` up to `stop`. -/
structure Span where
  start : Nat
  stop : Nat
deriving DecidableEq

namespace Span

/-- The number of bytes in a span. A span that ends before it starts has none to give. -/
def length (s : Span) : Except Fault Nat :=
  if s.start ≤ s.stop then .ok (s.stop - s.start) else .error .reversedSpan

/-- Whether a span starts where it ends. -/
def isEmpty (s : Span) : Bool := s.start == s.stop

/-- The part of a text that a span covers, absent when the span leaves the text, runs backwards or cuts
a character. -/
def slice? (s : Span) (text : List Char) : Option (List Char) :=
  Text.slice? text s.start s.stop

/-- The same span further on in a text. -/
def shift (s : Span) (bytes : Nat) : Span := ⟨s.start + bytes, s.stop + bytes⟩

end Span

end Lexis
