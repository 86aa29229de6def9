import Lexis.Path
import Lexis.Text.Quoted

/-!
# Settings

What a user can choose about reports and about the exit status, with the defaults, and the two file
names that follow from the choices: where a report goes, and which file a name entered at the prompt
means.
-/

set_option autoImplicit false

namespace Lexis

/-- When to write in colour. -/
inductive ColorMode where
  | auto
  | always
  | never
deriving DecidableEq

namespace ColorMode

/-- The word for a mode in a file of settings. -/
def name : ColorMode → String
  | .auto => "auto"
  | .always => "always"
  | .never => "never"

/-- The mode with a given word. -/
def ofName? (word : String) : Option ColorMode :=
  [ColorMode.auto, .always, .never].find? (·.name == word)

/-- Whether to write in colour, given whether the reader sits at a terminal. -/
def useColors (mode : ColorMode) (terminal : Bool) : Bool :=
  match mode with
  | .auto => terminal
  | .always => true
  | .never => false

end ColorMode

/-- The choices of a user. -/
structure Settings where
  color : ColorMode
  /-- Whether a report is written to a file. -/
  writeReport : Bool
  /-- What is put behind the name of a source to name its report. -/
  reportExtension : String
  /-- The directory of names entered at the prompt. -/
  sourceDirectory? : Option String
  /-- Whether lexical errors make the program fail. -/
  denyErrors : Bool
deriving DecidableEq

namespace Settings

/-- The settings where nothing was chosen. -/
def default : Settings where
  color := .auto
  writeReport := true
  reportExtension := "tokens.txt"
  sourceDirectory? := none
  denyErrors := false

/-- The file that the report on a source goes to. -/
def reportPath (s : Settings) (source : String) : String :=
  source ++ "." ++ s.reportExtension

/-- The file that a name entered at the prompt means. -/
def resolve (s : Settings) (name : String) : String :=
  match s.sourceDirectory? with
  | some directory => Path.join directory name
  | none => name

/-- The settings on one line, for the log. -/
def display (s : Settings) : String :=
  let color :=
    match s.color with
    | .auto => "Auto"
    | .always => "Always"
    | .never => "Never"
  let directory :=
    match s.sourceDirectory? with
    | some directory => s!"Some({Text.quote directory})"
    | none => "None"
  "Config \x7b " ++
    s!"color: {color}, write_report: {s.writeReport}, report_extension: " ++
    s!"{Text.quote s.reportExtension}, source_dir: {directory}, deny_errors: {s.denyErrors}" ++
    " \x7d"

end Settings

end Lexis
