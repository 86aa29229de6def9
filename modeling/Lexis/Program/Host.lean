import Lexis.Program.LogFilter
import Lexis.Program.Options
import Lexis.Settings.OfToml

/-!
# Hosts

What the program needs of its surroundings: files, the lines of its input, two streams to write to, and
the formats of what a user tells it. A program that is written against a host runs in any monad that has
one.
-/

set_option autoImplicit false

namespace Lexis

/-- The formats in which a user says what is wanted: command lines with their environment, texts that hold
settings, and filters of the log. -/
structure Formats where
  /-- What a command line asks for. -/
  command : List String → Environment → Except UsageError Command
  /-- The settings that a text holds. -/
  settings : List Char → Except SettingsError Settings
  /-- The filter of a run that is verbose or not, and that a text may be given for. -/
  filter : Bool → Option String → LogFilter

/-- The formats of the program: its own switches and variables, TOML, and lists of directives. -/
def Formats.standard : Formats where
  command := Command.ofArguments
  settings := Settings.ofToml
  filter := LogFilter.choose

/-- The surroundings of a program. -/
structure Host (m : Type → Type) where
  formats : Formats
  /-- Whether a path leads to a file. -/
  isFile : String → m Bool
  /-- The text of a file. -/
  read : String → m (Except AccessError String)
  /-- Puts a text into a file, in place of what the file held. -/
  write : String → String → m (Except AccessError Unit)
  /-- Whether the standard output is a terminal. -/
  isTerminal : m Bool
  /-- Writes to the standard output. -/
  out : String → m (Except AccessError Unit)
  /-- Writes to the standard error. -/
  err : String → m Unit
  /-- Takes one action before each line of the input and another with the line, until one of them gives
  an answer. At the end of the input, after one more first action, there is none. A line that is not
  UTF-8 is handed over as absent. -/
  untilAnswered : {α : Type} → m (Option α) → (Option String → m (Option α)) → m (Option α)

end Lexis
