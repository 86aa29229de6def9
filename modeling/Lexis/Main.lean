import Lexis.Program.Session

/-!
# The executable

The host that the operating system is, and the program running in it.
-/

set_option autoImplicit false

namespace Lexis

/-- The number of an error of the operating system, which may come with its sign turned. -/
def errorNumber (code : UInt32) : UInt32 := min code (0 - code)

/-- The access error that an error of the operating system stands for. -/
def AccessError.ofIO (e : IO.Error) : AccessError :=
  match e with
  | .noFileOrDirectory _ _ _ => .notFound
  | .inappropriateType _ code _ => if errorNumber code == 20 then .notADirectory else .isADirectory
  | e => .other (toString e)

/-- Whether the operating system has a file at a path. -/
def isFileIO (path : String) : IO Bool :=
  try return (← (← IO.FS.realPath path).metadata).type == .file
  catch _ => return false

/-- The text of a file of the operating system. -/
def readIO (path : String) : IO (Except AccessError String) := do
  try
    match String.fromUTF8? (← IO.FS.readBinFile path) with
    | some text => return .ok text
    | none => return .error .notUtf8
  catch e => return .error (.ofIO e)

/-- Puts a text into a file of the operating system. -/
def writeIO (path text : String) : IO (Except AccessError Unit) := do
  try
    IO.FS.writeFile path text
    return .ok ()
  catch e => return .error (.ofIO e)

/-- Writes to the standard output of the operating system, without delay. -/
def outIO (text : String) : IO (Except AccessError Unit) := do
  try
    IO.print text
    (← IO.getStdout).flush
    return .ok ()
  catch e => return .error (.ofIO e)

/-- Takes the actions of a prompt with the lines of the standard input. -/
partial def untilAnsweredIO {α : Type} (ask : IO (Option α)) (take : Option String → IO (Option α)) :
    IO (Option α) := do
  match ← ask with
  | some a => return some a
  | none =>
    let line? ← try some <$> (← IO.getStdin).getLine catch _ => pure none
    if line? == some "" then return none
    match ← take line? with
    | some a => return some a
    | none => untilAnsweredIO ask take

/-- The operating system as a host. -/
def systemHost : Host IO where
  formats := .standard
  isFile := isFileIO
  read := readIO
  write := writeIO
  isTerminal := do (← IO.getStdout).isTty
  out := outIO
  err text := IO.eprint text
  untilAnswered := untilAnsweredIO

/-- The variables that the program looks at, as far as they are set. -/
def systemEnvironment : IO Environment := do
  let names := ["JAVALEX_CONFIG", "JAVALEX_NO_COLOR", "JAVALEX_DENY_ERRORS", "JAVALEX_VERBOSE", "RUST_LOG",
    "CLICOLOR_FORCE"]
  names.filterMapM fun name => return (← IO.getEnv name).map fun value => (name, value)

end Lexis

def main (arguments : List String) : IO UInt32 := do
  let status ← Lexis.runProgram Lexis.systemHost arguments (← Lexis.systemEnvironment)
  return status.toUInt32
