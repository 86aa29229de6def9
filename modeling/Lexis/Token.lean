import Lexis.LexicalError
import Lexis.LiteralType

/-!
# Tokens

A token has a kind, a value, the span of text it was cut from, and a flag that tells whether it is the
first on its line. The kind carries what only some tokens have: a literal its type, an error its reason.
-/

set_option autoImplicit false

namespace Lexis

/-- The kinds of token. -/
inductive TokenKind where
  | endOfInput
  | error (reason : LexicalError)
  | identifier
  | keyword
  | literal (type : LiteralType)
  | operator
  | separator
deriving DecidableEq

namespace TokenKind

/-- The heading of a kind in reports. All errors share one, and so do all literals. -/
def label : TokenKind → String
  | .endOfInput => "EOF"
  | .error _ => "ERROR"
  | .identifier => "IDENTIFIER"
  | .keyword => "KEYWORD"
  | .literal _ => "LITERAL"
  | .operator => "OPERATOR"
  | .separator => "SEPARATOR"

/-- The place of a kind in reports, the end of input first and the separators last. -/
def rank : TokenKind → Nat
  | .endOfInput => 0
  | .error _ => 1
  | .identifier => 2
  | .keyword => 3
  | .literal _ => 4
  | .operator => 5
  | .separator => 6

end TokenKind

/-- A classified piece of a text. -/
structure Token where
  kind : TokenKind
  value : String
  span : Span
  startsLine : Bool
deriving DecidableEq

namespace Token

/-- Whether a token marks the end of the text. -/
def isEndOfInput (t : Token) : Bool :=
  match t.kind with
  | .endOfInput => true
  | _ => false

/-- The reason that an error token carries. -/
def error? (t : Token) : Option LexicalError :=
  match t.kind with
  | .error reason => some reason
  | _ => none

/-- The type of a literal token. -/
def literalType? (t : Token) : Option LiteralType :=
  match t.kind with
  | .literal type => some type
  | _ => none

/-- The diagnostic that an error token stands for. -/
def located? (t : Token) : Option LocatedError :=
  t.error?.map fun reason => ⟨reason, t.span⟩

/-- The short form of a token in listings. -/
def display (t : Token) : String :=
  match t.kind with
  | .endOfInput => "EOF"
  | .error _ => s!"ERR({t.value})"
  | .identifier => s!"ID({t.value})"
  | .keyword => s!"KEY({t.value})"
  | .literal type => s!"LIT({t.value}, {type.name})"
  | .operator => s!"OP({t.value})"
  | .separator => s!"SEP({t.value})"

/-- The same token further on in a text. -/
def shift (t : Token) (bytes : Nat) : Token := { t with span := t.span.shift bytes }

end Token

end Lexis
