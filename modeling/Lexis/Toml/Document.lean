import Lexis.Toml.Scalar

/-!
# TOML documents

A document is read into sections, each a header and the pairs under it, and the sections are put
together into one table. A table has one header at most; what a longer header or a dotted key made may
get more entries later, each in its own way. The span of a table runs from its header to the end of
its last value.
-/

set_option autoImplicit false

namespace Lexis.Toml

open Reader

/-! ## Keys and values -/

/-- How deep values may be nested in one another. -/
def maxNesting : Nat := 79

/-- How many parts a dotted key may have. -/
def maxKeyParts : Nat := 79

/-- One part of a key. -/
def keyPart : Reader Key := do
  let isBare (c : Char) : Bool := c.isAlphanum || c == '-' || c == '_'
  let (name, span) ← located <|
    basicString <|> literalString <|> do return String.ofList (← takeWhile1 isBare)
  return ⟨name, span⟩

/-- A key with points: all parts but the last, and the last. -/
def dottedKey : Reader (List Key × Key) := do
  let part : Reader Key := do
    blanks
    let key ← keyPart
    blanks
    return key
  let first ← part
  let more ← many do char '.'; part
  if maxKeyParts < more.length + 1 then failure
  else
    match more.getLast? with
    | none => return ([], first)
    | some last => return (first :: more.dropLast, last)

/-- A comment up to the end of its line. -/
def comment : Reader Unit := do
  char '#'
  let _ ← takeWhile isVisible

/-- What may stand between the parts of an array. -/
def arrayTrivia : Reader Unit := do
  let _ ← many ((do let _ ← one isBlank) <|> newline <|> comment)

/-- A value with parts that are nested at most so deep, or without parts. -/
def value : Nat → Reader Item
  | 0 => do
    let (scalar, span) ← located scalar
    return .scalar scalar span
  | nesting + 1 =>
    let part : Reader Item := do
      arrayTrivia
      let item ← value nesting
      arrayTrivia
      return item
    let array : Reader (List Item) := do
      char '['
      let items ← separatedBy (char ',') part
      if !items.isEmpty then withDefault () (char ',')
      arrayTrivia
      char ']'
      return items
    let pair : Reader (List Key × Key × Item) := do
      let (path, key) ← dottedKey
      char '='
      blanks
      let item ← value nesting
      blanks
      return (path, key, item)
    let table : Reader Entries := do
      char '\x7b'
      let pairs ← separatedBy (char ',') pair
      blanks
      char '\x7d'
      match Entries.ofPairs [] pairs with
      | some entries => return entries
      | none => failure
    (do
      let (items, span) ← located array
      return .array items span) <|>
    (do
      let (entries, span) ← located table
      return .table .inlineTable entries (some span)) <|>
    (do
      let (scalar, span) ← located scalar
      return .scalar scalar span)

/-! ## Sections -/

/-- The line on which the pairs of a section begin. -/
inductive Header where
  | table (path : List Key) (key : Key) (span : Span)
  | element (path : List Key) (key : Key) (span : Span)

/-- A header and the pairs under it. -/
structure Section where
  header : Header
  pairs : List (List Key × Key × Item)

/-- The rest of a line: blanks, a comment or none, and the line end or the end of the text. -/
def restOfLine : Reader Unit := do
  blanks
  withDefault () comment
  newline <|> atEnd

/-- Lines without content, and the blanks in front of the next one. -/
def emptyLines : Reader Unit := do
  let _ ← many do
    blanks
    newline <|> do comment; newline <|> atEnd
  blanks

/-- A key with its value on a line. -/
def pair : Reader (List Key × Key × Item) := do
  let (path, key) ← dottedKey
  char '='
  blanks
  let item ← value maxNesting
  restOfLine
  return (path, key, item)

/-- The pairs up to the next header. -/
def pairs : Reader (List (List Key × Key × Item)) := do
  emptyLines
  many do
    let found ← pair
    emptyLines
    return found

/-- A header on a line. -/
def header : Reader Header := do
  let element : Reader (List Key × Key) := do
    word "[["
    let found ← dottedKey
    word "]]"
    return found
  let table : Reader (List Key × Key) := do
    char '['
    let found ← dottedKey
    char ']'
    return found
  let found ←
    (do
      let ((path, key), span) ← located element
      return Header.element path key span) <|>
    (do
      let ((path, key), span) ← located table
      return Header.table path key span)
  restOfLine
  return found

/-- A header and the pairs up to the next one. -/
def headed : Reader Section := do
  let header ← header
  return ⟨header, ← pairs⟩

/-- The pairs in front of the first header, and the sections. -/
def document : Reader (List (List Key × Key × Item) × List Section) := do
  withDefault () (char '\uFEFF')
  let top ← pairs
  let sections ← many headed
  atEnd
  return (top, sections)

/-! ## Putting sections together -/

/-- From a header to the end of the last value under it. -/
def Section.extent (span : Span) (pairs : List (List Key × Key × Item)) : Span :=
  match pairs.getLast? with
  | some (_, _, item) => ⟨span.start, (item.span?.getD span).stop⟩
  | none => span

/-- A document with one more section. -/
def addSection (root : Entries) (s : Section) : Option Entries :=
  match s.header with
  | .table path key span =>
    let put (_ : Origin) (parent : Entries) : Option Entries := do
      let before ←
        match Entries.item? parent key.name with
        | none => some []
        | some (.table .longerHeader entries _) => some entries
        | some _ => none
      let entries ← Entries.ofPairs before s.pairs
      let table := Item.table .header entries (some (Section.extent span s.pairs))
      some (Entries.remove parent key.name ++ [(key, table)])
    Entries.alter .longerHeader put .header path root
  | .element path key span =>
    let put (_ : Origin) (parent : Entries) : Option Entries := do
      let entries ← Entries.ofPairs [] s.pairs
      let extent := Section.extent span s.pairs
      match Entries.item? parent key.name with
      | none => some (parent ++ [(key, .tables [entries] extent)])
      | some (.tables elements first) =>
        some (Entries.replace parent key.name
          (.tables (elements ++ [entries]) ⟨first.start, extent.stop⟩))
      | some _ => none
    Entries.alter .longerHeader put .header path root

/-- **The table that a TOML text spells**, absent when the text is not well formed. -/
def parse? (text : List Char) : Option Entries := do
  let ((top, sections), _) ← document ⟨text, 0⟩
  sections.foldlM addSection (← Entries.ofPairs [] top)

end Lexis.Toml
