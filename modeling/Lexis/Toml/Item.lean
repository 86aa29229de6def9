import Lexis.Span

/-!
# Items of a TOML document

A document is a table; a table is a list of keys with items, in the order in which they were written.
Items know where they were written, except tables that only came about because a longer key needed
them. How a table came about decides what may be added to it later.
-/

set_option autoImplicit false

namespace Lexis.Toml

/-- Values without parts. Of dates and times only their presence is kept. -/
inductive Scalar where
  | string (s : String)
  | integer (n : Int)
  | float (x : Float)
  | boolean (b : Bool)
  | dateTime

/-- What made a table. -/
inductive Origin where
  /-- A header of its own, or the document. -/
  | header
  /-- A longer header. -/
  | longerHeader
  /-- A key with points in it. -/
  | dottedKey
  /-- A table written as a value. -/
  | inlineTable
deriving DecidableEq

/-- A key and the place where it was written. -/
structure Key where
  name : String
  span : Span
deriving DecidableEq

/-- What a key can stand for. -/
inductive Item where
  | scalar (value : Scalar) (span : Span)
  | array (items : List Item) (span : Span)
  | table (origin : Origin) (entries : List (Key × Item)) (span? : Option Span)
  /-- Tables under headers that each add one more; the span runs from the first header on. -/
  | tables (elements : List (List (Key × Item))) (span : Span)

/-- The items of a table by their keys, in the order in which they were written. -/
abbrev Entries := List (Key × Item)

/-- Where an item was written, if it was written in one place. -/
def Item.span? : Item → Option Span
  | .scalar _ span => some span
  | .array _ span => some span
  | .table _ _ span? => span?
  | .tables _ span => some span

namespace Entries

/-- The item under a name. -/
def item? (entries : Entries) (name : String) : Option Item :=
  (entries.find? fun entry => entry.1.name == name).map Prod.snd

/-- Puts another item in the place of the one under a name. -/
def replace (entries : Entries) (name : String) (item : Item) : Entries :=
  entries.map fun entry => if entry.1.name == name then (entry.1, item) else entry

/-- Takes the item under a name away. -/
def remove (entries : Entries) (name : String) : Entries :=
  entries.filter fun entry => entry.1.name != name

/-- Changes the table at the end of a path. A table that the path needs and does not find is made, with
the given origin. A path does not lead through values, and one of dotted keys does not lead into a table
that has a header; the path enters a list of tables by its last element. The change is told how the
table it is made in came about. -/
def alter (made : Origin) (change : Origin → Entries → Option Entries) (here : Origin) :
    List Key → Entries → Option Entries
  | [], entries => change here entries
  | key :: path, entries =>
    match item? entries key.name with
    | none => do
      let inside ← alter made change made path []
      some (entries ++ [(key, .table made inside none)])
    | some (.table .inlineTable _ _) => none
    | some (.table origin inside span?) => do
      if made == .dottedKey && origin == .header then none
      let inside ← alter made change origin path inside
      some (replace entries key.name (.table origin inside span?))
    | some (.tables elements span) => do
      let last ← elements.getLast?
      let last ← alter made change .header path last
      some (replace entries key.name (.tables (elements.dropLast ++ [last]) span))
    | some _ => none

/-- Adds an item under a key with points, of which `path` is all but the last part. A key is given once,
and points do not lead into a table that something else made. -/
def insert (entries : Entries) (path : List Key) (key : Key) (item : Item) : Option Entries :=
  let add (origin : Origin) (inside : Entries) : Option Entries :=
    if (origin == .dottedKey) == path.isEmpty || (item? inside key.name).isSome then none
    else some (inside ++ [(key, item)])
  alter .dottedKey add .header path entries

/-- The table of pairs of dotted keys and items. -/
def ofPairs (start : Entries) (pairs : List (List Key × Key × Item)) : Option Entries :=
  pairs.foldlM (fun entries pair => insert entries pair.1 pair.2.1 pair.2.2) start

end Entries

end Lexis.Toml
