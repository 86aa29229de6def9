import Lexis.Path

/-!
# File trees

Files and directories below a root, and what a path leads to. A path is walked name by name, from the
root if it is absolute and else from the directory in which it is looked up. Each name but the last must
be that of a directory, and above the root there is the root.
-/

set_option autoImplicit false

namespace Lexis

/-- What stands at a place of a tree. -/
inductive TreeEntry where
  | file (content : ByteArray)
  | directory

/-- Entries by the names that lead to them from the root. Directories that lead to an entry are there
without being listed. -/
structure FileTree where
  entries : List (List String × TreeEntry)

namespace FileTree

/-- What stands at a place of the tree. -/
def entry? (t : FileTree) (place : List String) : Option TreeEntry :=
  match t.entries.lookup place with
  | some entry => some entry
  | none =>
    if place.isEmpty || t.entries.any fun entry => place.isPrefixOf entry.1 then some .directory
    else none

/-- What the file at a place holds. -/
def content? (t : FileTree) (place : List String) : Option ByteArray :=
  match t.entry? place with
  | some (.file content) => some content
  | _ => none

/-- Refuses a place that is not a directory. -/
def requireDirectory (t : FileTree) (place : List String) : Except AccessError Unit :=
  match t.entry? place with
  | none => .error .notFound
  | some (.file _) => .error .notADirectory
  | some .directory => .ok ()

/-- One step from a place, which has to be a directory. -/
def step (t : FileTree) (here : List String) (name : String) : Except AccessError (List String) := do
  t.requireDirectory here
  if name == "" || name == "." then .ok here
  else if name == ".." then .ok here.dropLast
  else if Path.maxNameBytes < name.utf8ByteSize then .error .nameTooLong
  else .ok (here ++ [name])

section Lookup

variable (t : FileTree) (directory : List String) (path : String)

/-- Where a path starts. -/
def startOf : List String := if Path.isAbsolute path then [] else directory

/-- The place that a path leads to. Something need not stand there. -/
def locate : Except AccessError (List String) := do
  Path.check path
  (Path.steps path).foldlM t.step (startOf directory path)

/-- Whether a path leads to a file. -/
def isFile : Bool :=
  match t.locate directory path with
  | .ok place => (t.content? place).isSome
  | .error _ => false

/-- The text of a file. -/
def read : Except AccessError String := do
  match t.entry? (← t.locate directory path) with
  | none => .error .notFound
  | some .directory => .error .isADirectory
  | some (.file content) =>
    match String.fromUTF8? content with
    | some text => .ok text
    | none => .error .notUtf8

/-- The tree with a file at a place. -/
def put (place : List String) (content : ByteArray) : FileTree :=
  ⟨(place, .file content) :: t.entries.filter fun entry => entry.1 != place⟩

/-- The tree with a text in the file at a path. A path that ends in a slash is that of a directory,
whatever its last name is. -/
def write (text : String) : Except AccessError FileTree := do
  Path.check path
  let names := Path.names path
  let parent ← names.dropLast.foldlM t.step (startOf directory path)
  t.requireDirectory parent
  if Path.endsInSlash path then .error .isADirectory
  else
    let place ← t.step parent (names.getLast?.getD "")
    match t.entry? place with
    | some .directory => .error .isADirectory
    | _ => .ok (t.put place text.toUTF8)

end Lookup

/-- The tree that holds another below a directory, and nothing else. -/
def below (t : FileTree) (directory : List String) : FileTree :=
  ⟨(directory, .directory) :: t.entries.map fun entry => (directory ++ entry.1, entry.2)⟩

/-- What a tree holds below a directory, as a tree of its own. -/
def within (t : FileTree) (directory : List String) : FileTree :=
  ⟨t.entries.filterMap fun entry =>
    if directory.isPrefixOf entry.1 then some (entry.1.drop directory.length, entry.2) else none⟩

/-- The files that a tree has beyond an earlier one, or with another content. -/
def changedSince (t before : FileTree) : List (List String × ByteArray) :=
  t.entries.filterMap fun entry =>
    match entry.2, before.entries.lookup entry.1 with
    | .file content, some (.file old) =>
      if content.data == old.data then none else some (entry.1, content)
    | .file content, _ => some (entry.1, content)
    | .directory, _ => none

end FileTree

end Lexis
