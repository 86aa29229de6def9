import Lexis.Settings
import Lexis.Text.Terminal
import Lexis.Token

/-!
# The log

Messages about what the program does, each with a level and the part of the program that it comes from.
A message is one line, its level in five columns and its fields behind it.
-/

set_option autoImplicit false

namespace Lexis

/-- How much a message matters. -/
inductive Level where
  | error
  | warn
  | info
  | debug
  | trace
deriving DecidableEq

namespace Level

/-- The word for a level, in five columns. -/
def column : Level → String
  | .error => "ERROR"
  | .warn => " WARN"
  | .info => " INFO"
  | .debug => "DEBUG"
  | .trace => "TRACE"

/-- The place of a level, the most important first. -/
def verbosity : Level → Nat
  | .error => 0
  | .warn => 1
  | .info => 2
  | .debug => 3
  | .trace => 4

end Level

/-- A part of the program. -/
inductive Origin where
  | program
  | settings
  | lexer
deriving DecidableEq

/-- The path of a part from the whole program to it. -/
def Origin.path : Origin → String
  | .program => "javalex"
  | .settings => "javalex::config"
  | .lexer => "javalex::lexer::lexer"

/-- A message of the log. -/
structure LogEntry where
  level : Level
  origin : Origin
  message : String
  fields : List (String × String)
deriving DecidableEq

namespace LogEntry

/-- Whether an entry has a field of a name. The message is one. -/
def hasField (e : LogEntry) (name : String) : Bool :=
  name == "message" || e.fields.any (·.1 == name)

/-- A message on a line of its own. Only the message is made harmless to a terminal. -/
def render (e : LogEntry) : String :=
  e.level.column ++ " " ++ Text.defuse e.message ++
    String.join (e.fields.map fun field => s!" {field.1}={field.2}") ++ "\n"

/-- Settings are about to be read. -/
def loading (path : String) : LogEntry :=
  ⟨.debug, .settings, "loading configuration", [("path", path)]⟩

/-- The settings of the run. -/
def effective (s : Settings) : LogEntry :=
  ⟨.debug, .program, "effective configuration", [("config", s.display)]⟩

/-- A token was cut. -/
def token (t : Token) : LogEntry :=
  if t.isEndOfInput then ⟨.trace, .lexer, "end of input", [("offset", toString t.span.start)]⟩
  else
    ⟨.trace, .lexer, "token",
      [("kind", t.kind.label), ("value", t.value), ("start", toString t.span.start),
        ("end", toString t.span.stop)]⟩

/-- A text was cut into tokens. -/
def tokenized (bytes : Nat) (ts : List Token) : LogEntry :=
  ⟨.debug, .lexer, "tokenized source",
    [("bytes", toString bytes), ("tokens", toString ts.length),
      ("literals", toString (ts.countP (·.literalType?.isSome))),
      ("errors", toString (ts.countP (·.error?.isSome)))]⟩

/-- The report was written to a file. -/
def written (path : String) : LogEntry := ⟨.info, .program, "report written", [("path", path)]⟩

/-- The source has errors. -/
def unclean (count : Nat) (file : String) : LogEntry :=
  ⟨.warn, .program, "source contains lexical errors", [("count", toString count), ("file", file)]⟩

/-- The program failed. -/
def failed (report : String) : LogEntry := ⟨.error, .program, report, []⟩

end LogEntry

end Lexis
