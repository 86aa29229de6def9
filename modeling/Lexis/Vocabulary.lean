/-!
# Vocabularies

A vocabulary fixes the words and symbols of a language: keywords, words that are literals, operators and
separators. Symbols are kept longest first, so the first one that begins a text is the longest that
does. A symbol may be empty, and one may be listed twice; neither changes what is found.
-/

set_option autoImplicit false

namespace Lexis

/-- Symbols in the order in which they are tried: none is shorter than one behind it. -/
structure Symbols where
  entries : List String
  longestFirst : entries.Pairwise fun s t => t.utf8ByteSize ≤ s.utf8ByteSize

namespace Symbols

/-- A list with one more symbol, in front of the first that is not longer. -/
def place (symbol : String) : List String → List String
  | [] => [symbol]
  | s :: rest =>
    if s.utf8ByteSize ≤ symbol.utf8ByteSize then symbol :: s :: rest else s :: place symbol rest

theorem place_perm (symbol : String) (list : List String) :
    (place symbol list).Perm (symbol :: list) := by
  induction list with
  | nil => exact List.Perm.refl _
  | cons first rest ih =>
    unfold place
    split
    · exact List.Perm.refl _
    · exact (ih.cons first).trans (List.Perm.swap symbol first rest)

private theorem pairwise_place {symbol : String} {list : List String}
    (sorted : list.Pairwise fun s t => t.utf8ByteSize ≤ s.utf8ByteSize) :
    (place symbol list).Pairwise fun s t => t.utf8ByteSize ≤ s.utf8ByteSize := by
  induction list with
  | nil => exact List.pairwise_singleton _ _
  | cons first rest ih =>
    obtain ⟨below, sorted⟩ := List.pairwise_cons.mp sorted
    unfold place
    split
    · next short =>
      refine List.pairwise_cons.mpr ⟨?_, List.pairwise_cons.mpr ⟨below, sorted⟩⟩
      intro t member
      rcases List.mem_cons.mp member with rfl | behind
      · exact short
      · exact Nat.le_trans (below t behind) short
    · next long =>
      refine List.pairwise_cons.mpr ⟨?_, ih sorted⟩
      intro t member
      rcases List.mem_cons.mp ((place_perm symbol rest).mem_iff.mp member) with rfl | behind
      · exact Nat.le_of_lt (Nat.lt_of_not_le long)
      · exact below t behind

/-- No symbols. -/
def empty : Symbols := ⟨[], List.Pairwise.nil⟩

/-- One more symbol. It is tried before others of its length. -/
def insert (symbol : String) (s : Symbols) : Symbols :=
  ⟨place symbol s.entries, pairwise_place s.longestFirst⟩

/-- The symbols of a list. Those of one length keep their order. -/
def ofList (symbols : List String) : Symbols := symbols.foldr insert empty

/-- Whether a text is one of the symbols. -/
def contains (s : Symbols) (symbol : String) : Bool := s.entries.contains symbol

/-- The bytes of the longest symbol, 0 when there is none. -/
def maxByteLength (s : Symbols) : Nat :=
  match s.entries with
  | longest :: _ => longest.utf8ByteSize
  | [] => 0

/-- The longest symbol that is not empty and begins a text. -/
def longestPrefix? (s : Symbols) (cs : List Char) : Option String :=
  s.entries.find? fun symbol => !symbol.isEmpty && symbol.toList.isPrefixOf cs

end Symbols

/-- The words and symbols of a language. -/
structure Vocabulary where
  keywords : List String
  literalWords : List String
  operators : Symbols
  separators : Symbols

namespace Vocabulary

/-- A vocabulary from four lists in any order. -/
def ofLists (keywords literalWords operators separators : List String) : Vocabulary where
  keywords := keywords
  literalWords := literalWords
  operators := Symbols.ofList operators
  separators := Symbols.ofList separators

/-- Whether a word is a keyword. -/
def isKeyword (v : Vocabulary) (word : String) : Bool := v.keywords.contains word

/-- Whether a word is a literal. -/
def isLiteralWord (v : Vocabulary) (word : String) : Bool := v.literalWords.contains word

/-- The number of different keywords. -/
def keywordCount (v : Vocabulary) : Nat := v.keywords.eraseDups.length

/-- The words and symbols of Java. -/
def java : Vocabulary :=
  ofLists
    ["abstract", "assert", "boolean", "break", "byte", "case", "catch", "char", "class", "continue",
      "default", "do", "double", "else", "enum", "extends", "final", "finally", "float", "for", "if",
      "implements", "import", "instanceof", "int", "interface", "long", "native", "new", "package",
      "private", "protected", "public", "return", "short", "static", "strictfp", "super", "switch",
      "synchronized", "this", "throw", "throws", "transient", "try", "void", "volatile", "while"]
    ["true", "false", "null"]
    ["+", "-", "*", "/", "%", "++", "--", "==", "!=", "<", ">", "<=", ">=", "&&", "||", "!", "&", "|",
      "^", "~", "<<", ">>", ">>>", "=", "+=", "-=", "*=", "/=", "%=", "&=", "|=", "^=", "<<=", ">>=",
      ">>>=", "?", ":", "->", "::", "."]
    ["(", ")", "\x7b", "\x7d", "[", "]", ";", ",", "..."]

end Vocabulary

end Lexis
