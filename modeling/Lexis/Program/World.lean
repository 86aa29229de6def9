import Lexis.Program.FileTree
import Lexis.Program.Session

/-!
# Surroundings as a value

The program needs files, an input and two streams of its surroundings. As a value these are the files in
some state, the lines of the input that were not read, what the standard output is like, and what was
written to the two streams; a run of the program is a function of that value. How files are read and
written is up to a file system, and what is relied on of one is `FileSystem.Lawful`.

Worlds are surroundings whose files are a tree, with a working directory in it.
-/

set_option autoImplicit false

namespace Lexis

/-! ## File systems -/

/-- A file system, by what it makes of the files in a state. A file is written as a whole, or an error
leaves the files as they were. -/
structure FileSystem (σ : Type) where
  /-- Whether a path leads to a file. -/
  isFile : σ → String → Bool
  /-- The text of a file. -/
  read : σ → String → Except AccessError String
  /-- The files with a text in the file at a path, in place of what that file held. -/
  write : σ → String → String → Except AccessError σ

/-- **What is relied on of a file system.** It has places for files: a path leads to one, and at a place
stands a file that holds something, or none. -/
structure FileSystem.Lawful {σ Place : Type} (F : FileSystem σ) (leads? : σ → String → Option Place)
    (content? : σ → Place → Option ByteArray) : Prop where
  /-- A path leads to a file when one stands where it leads. -/
  isFile_iff : ∀ files path, F.isFile files path = true ↔
    ∃ place, leads? files path = some place ∧ (content? files place).isSome = true
  /-- A file that can be read holds the text that is read. -/
  content_of_read : ∀ files path text place content, F.read files path = .ok text →
    leads? files path = some place → content? files place = some content → content = text.toUTF8
  /-- A text that was written is what the file at the path holds, and other files hold what they held. -/
  content_of_write : ∀ files path text files', F.write files path text = .ok files' →
    ∃ place, leads? files' path = some place ∧ content? files' place = some text.toUTF8 ∧
      ∀ other, other ≠ place → content? files' other = content? files other

/-- The trees as a file system, for a program that works in a directory. -/
def FileTree.system (directory : List String) : FileSystem FileTree where
  isFile t path := t.isFile directory path
  read t path := t.read directory path
  write t path text := t.write directory path text

/-! ## Surroundings -/

/-- What the standard output is like. -/
structure Outlet where
  terminal : Bool
  /-- Why nothing can be written to it, where that is so. -/
  refusal? : Option AccessError

/-- The surroundings of the program, with files of some kind. -/
structure Surroundings (σ : Type) where
  files : σ
  /-- The lines of the input that are still to be read, without their ends. -/
  input : List ByteArray
  outlet : Outlet
  stdout : String
  stderr : String

namespace Surroundings

variable {σ : Type}

/-- The actions before and with each line, until one gives an answer. -/
def untilAnswered {α : Type} (ask : StateM (Surroundings σ) (Option α))
    (take : Option String → StateM (Surroundings σ) (Option α)) :
    List ByteArray → StateM (Surroundings σ) (Option α)
  | [] => ask
  | line :: lines => do
    match ← ask with
    | some a => return some a
    | none =>
      modify fun w => { w with input := lines }
      match ← take (String.fromUTF8? line) with
      | some a => return some a
      | none => untilAnswered ask take lines

/-- Surroundings are a host, given what their files and the formats of the user are. -/
def host (F : FileSystem σ) (formats : Formats) : Host (StateM (Surroundings σ)) where
  formats := formats
  isFile path := return F.isFile (← get).files path
  read path := return F.read (← get).files path
  write path text := do
    match F.write (← get).files path text with
    | .ok files =>
      modify fun w => { w with files := files }
      return .ok ()
    | .error e => return .error e
  isTerminal := return (← get).outlet.terminal
  out text := do
    match (← get).outlet.refusal? with
    | none =>
      modify fun w => { w with stdout := w.stdout ++ text }
      return .ok ()
    | some e => return .error e
  err text := modify fun w => { w with stderr := w.stderr ++ text }
  untilAnswered ask take := do untilAnswered ask take (← get).input

/-- **A run of the program**: the exit status and the surroundings afterwards. -/
def run (F : FileSystem σ) (formats : Formats) (w : Surroundings σ) (arguments : List String)
    (environment : Environment) : Nat × Surroundings σ :=
  (runProgram (host F formats) arguments environment).run w

/-- The lines of an input. What follows the last line feed is a line if there is any of it. -/
def linesOf (input : ByteArray) : List ByteArray :=
  let pieces := input.toList.splitOn 10
  (if pieces.getLast? == some [] then pieces.dropLast else pieces).map List.toByteArray

/-- The surroundings before a run, with an output that is no terminal and takes everything. -/
def start (files : σ) (input : ByteArray) : Surroundings σ where
  files := files
  input := linesOf input
  outlet := ⟨false, none⟩
  stdout := ""
  stderr := ""

end Surroundings

/-! ## Worlds -/

/-- Surroundings whose files are a tree. -/
abbrev World := Surroundings FileTree

namespace World

/-- The working directory of the program. -/
def directory : List String := ["home", "lexis"]

/-- The world before a run, with a tree in the working directory and nothing else. -/
def start (tree : FileTree) (input : ByteArray) : World :=
  Surroundings.start (tree.below directory) input

/-- What stands in the working directory. -/
def tree (w : World) : FileTree := w.files.within directory

/-- A world is a host. -/
def host : Host (StateM World) := Surroundings.host (FileTree.system directory) .standard

/-- A run of the program in a world. -/
def run (w : World) (arguments : List String) (environment : Environment) : Nat × World :=
  Surroundings.run (FileTree.system directory) .standard w arguments environment

end World

end Lexis
