/-!
# Paths

A path is a text of names with slashes between them. A slash in front makes it start at the root, and
a slash at its end makes it one of a directory; slashes that stand together count as one. What is done
to the file at a path can fail, for reasons that are worded here.
-/

set_option autoImplicit false

namespace Lexis

/-- Why a file could not be read or written, or a stream. -/
inductive AccessError where
  | notFound
  | notADirectory
  | isADirectory
  | nameTooLong
  /-- The name holds the character of number 0. -/
  | nameHoldsNul
  /-- The content is not UTF-8. -/
  | notUtf8
  | other (message : String)
deriving DecidableEq

/-- The wording of an access error. -/
def AccessError.message : AccessError → String
  | .notFound => "No such file or directory (os error 2)"
  | .notADirectory => "Not a directory (os error 20)"
  | .isADirectory => "Is a directory (os error 21)"
  | .nameTooLong => "File name too long (os error 36)"
  | .nameHoldsNul => "file name contained an unexpected NUL byte"
  | .notUtf8 => "stream did not contain valid UTF-8"
  | .other message => message

namespace Path

/-- Whether a path starts at the root. -/
def isAbsolute (path : String) : Bool := path.toList.head? == some '/'

/-- Whether a slash ends a path. -/
def endsInSlash (path : String) : Bool := path.toList.getLast? == some '/'

/-- The names of a path. -/
def names (path : String) : List String :=
  ((path.toList.splitOn '/').filter fun name => !name.isEmpty).map String.ofList

/-- The steps of a path: its names, and a last empty one behind a slash at its end. -/
def steps (path : String) : List String :=
  if endsInSlash path then names path ++ [""] else names path

/-- The longest name that a directory can hold, in bytes. -/
def maxNameBytes : Nat := 255

/-- The longest path, in bytes. -/
def maxBytes : Nat := 4095

/-- Refuses what can be no path. -/
def check (path : String) : Except AccessError Unit :=
  if path.toList.contains '\x00' then .error .nameHoldsNul
  else if path.isEmpty then .error .notFound
  else if maxBytes < path.utf8ByteSize then .error .nameTooLong
  else .ok ()

/-- A name inside a directory. A name that starts at the root stands for itself. -/
def join (directory name : String) : String :=
  if isAbsolute name then name
  else if directory.isEmpty || endsInSlash directory then directory ++ name
  else directory ++ "/" ++ name

end Path

end Lexis
