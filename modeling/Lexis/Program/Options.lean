import Lexis.Text.Terminal

/-!
# The command line

What the arguments and the environment ask of the program. Arguments are read from left to right, and
the first thing to notice decides: a mistake, or a wish for help or for the version. Nothing may be
given twice. Where the arguments say nothing, the environment may.
-/

set_option autoImplicit false

namespace Lexis

/-- What is wrong with a command line. -/
inductive UsageError where
  | unknownArgument (argument : String)
  | surplusFile (argument : String)
  | missingValue (option : String)
  | surplusValue (option : String)
  | givenTwice (option : String)
  | notBoolean (name value : String)
deriving DecidableEq

/-- The wording of a mistake. -/
def UsageError.message : UsageError → String
  | .unknownArgument argument => s!"unexpected argument '{argument}' found"
  | .surplusFile argument => s!"unexpected argument '{argument}' found"
  | .missingValue option => s!"a value is required for '{option}' but none was supplied"
  | .surplusValue option => s!"'{option}' takes no value"
  | .givenTwice option => s!"'{option}' cannot be used multiple times"
  | .notBoolean name value => s!"invalid value '{value}' for {name}: neither true nor false"

/-- What the program was asked to do with a source. -/
structure Options where
  file? : Option String
  config? : Option String
  output? : Option String
  noReport : Bool
  noColor : Bool
  denyErrors : Bool
  verbose : Bool
deriving DecidableEq

namespace Options

/-- Options before anything was given. -/
def none : Options where
  file? := .none
  config? := .none
  output? := .none
  noReport := false
  noColor := false
  denyErrors := false
  verbose := false

end Options

/-- What the program was asked to do. -/
inductive Command where
  | help
  | version
  | analyse (options : Options)
deriving DecidableEq

/-- The variables of the environment. -/
abbrev Environment := List (String × String)

namespace Command

open Text (bold heading)

/-- The options and the two wishes by kind: those with a value, those without, and those that end the
reading of arguments. -/
inductive Switch where
  | config
  | output
  | noReport
  | noColor
  | denyErrors
  | verbose
  | help
  | version
deriving DecidableEq

namespace Switch

/-- The name of a switch behind two dashes. -/
def name : Switch → String
  | .config => "config"
  | .output => "output"
  | .noReport => "no-report"
  | .noColor => "no-color"
  | .denyErrors => "deny-errors"
  | .verbose => "verbose"
  | .help => "help"
  | .version => "version"

/-- The letter of a switch behind one dash, for those that have one. -/
def letter? : Switch → Option Char
  | .config => some 'c'
  | .output => some 'o'
  | .verbose => some 'v'
  | .help => some 'h'
  | .version => some 'V'
  | .noReport => none
  | .noColor => none
  | .denyErrors => none

/-- Whether a switch has a value. -/
def takesValue : Switch → Bool
  | .config => true
  | .output => true
  | _ => false

/-- All switches. -/
def all : List Switch :=
  [.config, .output, .noReport, .noColor, .denyErrors, .verbose, .help, .version]

/-- The switch with a given name. -/
def ofName? (name : String) : Option Switch := all.find? (·.name == name)

/-- The switch with a given letter. -/
def ofLetter? (letter : Char) : Option Switch := all.find? (·.letter? == some letter)

end Switch

/-- How the reading of arguments can end early: by a mistake, or by a wish that is met at once. -/
inductive Stop where
  | mistake (e : UsageError)
  | wish (c : Command)

/-- Sets a switch that has a value. No value may be empty. -/
def setValue (o : Options) (s : Switch) (value : String) : Except Stop Options :=
  if value.isEmpty then .error (.mistake (.missingValue s.name))
  else
    match s with
    | .config =>
      if o.config?.isSome then .error (.mistake (.givenTwice s.name))
      else .ok { o with config? := some value }
    | .output =>
      if o.output?.isSome then .error (.mistake (.givenTwice s.name))
      else .ok { o with output? := some value }
    | _ => .error (.mistake (.surplusValue s.name))

/-- Sets a switch that has no value. -/
def setFlag (o : Options) (s : Switch) : Except Stop Options :=
  let once (given : Bool) (set : Options) : Except Stop Options :=
    if given then .error (.mistake (.givenTwice s.name)) else .ok set
  match s with
  | .noReport => once o.noReport { o with noReport := true }
  | .noColor => once o.noColor { o with noColor := true }
  | .denyErrors => once o.denyErrors { o with denyErrors := true }
  | .verbose => once o.verbose { o with verbose := true }
  | .help => .error (.wish .help)
  | .version => .error (.wish .version)
  | .config => .error (.mistake (.missingValue s.name))
  | .output => .error (.mistake (.missingValue s.name))

/-- Takes an argument as the file to analyse. -/
def setFile (o : Options) (file : String) : Except Stop Options :=
  if o.file?.isSome then .error (.mistake (.surplusFile file))
  else if file.isEmpty then .error (.mistake (.missingValue "FILE"))
  else .ok { o with file? := some file }

/-- Whether an argument is written as a switch. A single dash is none. -/
def isSwitch (argument : String) : Bool := argument.toList.head? == some '-' && argument != "-"

/-- Reads the letters behind one dash. The value of a switch is the rest of the letters, behind an
equals sign or at once; a switch whose value is still to come is handed back. -/
def readLetters (o : Options) : List Char → Except Stop (Options × Option Switch)
  | [] => .ok (o, none)
  | letter :: letters =>
    match Switch.ofLetter? letter with
    | none => .error (.mistake (.unknownArgument s!"-{letter}"))
    | some s =>
      if s.takesValue then
        match letters with
        | [] => .ok (o, some s)
        | '=' :: value => return (← setValue o s (String.ofList value), none)
        | value => return (← setValue o s (String.ofList value), none)
      else do readLetters (← setFlag o s) letters

/-- Reads what stands behind two dashes: a name, or a name, an equals sign and a value. -/
def readName (o : Options) (text : List Char) : Except Stop (Options × Option Switch) :=
  let name := String.ofList (text.takeWhile (· != '='))
  match Switch.ofName? name, text.dropWhile (· != '=') with
  | none, _ => .error (.mistake (.unknownArgument s!"--{name}"))
  | some s, _ :: value =>
    if s.takesValue then return (← setValue o s (String.ofList value), none)
    else .error (.mistake (.surplusValue name))
  | some s, [] =>
    if s.takesValue then .ok (o, some s) else return (← setFlag o s, none)

/-- Reads arguments. `waiting` is a switch whose value comes next; behind two dashes that stand alone
everything is a file. -/
def readArguments (o : Options) (waiting : Option Switch) : List String → Except Stop Options
  | [] =>
    match waiting with
    | some s => .error (.mistake (.missingValue s.name))
    | none => .ok o
  | argument :: arguments =>
    match waiting with
    | some s =>
      if isSwitch argument then .error (.mistake (.missingValue s.name))
      else do readArguments (← setValue o s argument) none arguments
    | none =>
      match argument.toList with
      | ['-', '-'] => arguments.foldlM setFile o
      | '-' :: '-' :: text => do
        let (o, waiting) ← readName o text
        readArguments o waiting arguments
      | '-' :: letter :: letters => do
        let (o, waiting) ← readLetters o (letter :: letters)
        readArguments o waiting arguments
      | _ => do readArguments (← setFile o argument) none arguments

/-- A flag that the arguments gave, or else as the environment has it. -/
def flagFrom (environment : Environment) (name : String) (given : Bool) : Except UsageError Bool :=
  if given then .ok true
  else
    match environment.lookup name with
    | none => .ok false
    | some "true" => .ok true
    | some "false" => .ok false
    | some value => .error (.notBoolean name value)

/-- The options with what the environment adds. -/
def withEnvironment (environment : Environment) (o : Options) : Except UsageError Options := do
  let config? ←
    match o.config?, environment.lookup "JAVALEX_CONFIG" with
    | none, some "" => .error (.missingValue Switch.config.name)
    | none, value? => .ok value?
    | given, _ => .ok given
  let noColor ← flagFrom environment "JAVALEX_NO_COLOR" o.noColor
  let denyErrors ← flagFrom environment "JAVALEX_DENY_ERRORS" o.denyErrors
  let verbose ← flagFrom environment "JAVALEX_VERBOSE" o.verbose
  return { o with config? := config?, noColor := noColor, denyErrors := denyErrors, verbose := verbose }

/-- **What a command line asks for.** -/
def ofArguments (arguments : List String) (environment : Environment) :
    Except UsageError Command :=
  match readArguments Options.none none arguments with
  | .error (.mistake e) => .error e
  | .error (.wish c) => .ok c
  | .ok o => (withEnvironment environment o).map .analyse

/-- The version text. -/
def versionText : String := "javalex 0.1.0\n"

/-- What the environment holds for an option, in the column of the descriptions. -/
def held (environment : Environment) (name : String) : String :=
  let margin := "".pushn ' ' 25
  let value := ((environment.lookup name).getD "").toList.foldl
    (fun shown c => if c == '\n' then shown.push c ++ margin else shown.push c) ""
  s!"[env: {name}={value}]\n"

/-- The help text for a terminal, which shows what the environment holds. -/
def styledHelpText (environment : Environment) : String :=
  let held := held environment
  "Tokenize Java-like source and report the token stream\n\n" ++
  heading "Usage:" ++ " " ++ bold "javalex" ++ " [OPTIONS] [FILE]\n\n" ++
  heading "Arguments:" ++ "\n" ++
  "  [FILE]  Source file to tokenize (prompts for a name when omitted)\n\n" ++
  heading "Options:" ++ "\n" ++
  "  " ++ bold "-c" ++ ", " ++ bold "--config" ++ " <CONFIG>  Path to configuration file " ++
  held "JAVALEX_CONFIG" ++
  "  " ++ bold "-o" ++ ", " ++ bold "--output" ++
  " <OUTPUT>  Where to write the report instead of next to the source\n" ++
  "      " ++ bold "--no-report" ++ "        Do not write a report file\n" ++
  "      " ++ bold "--no-color" ++ "         Disable color output " ++ held "JAVALEX_NO_COLOR" ++
  "      " ++ bold "--deny-errors" ++
  "      Exit with a failure status if the source has lexical errors " ++
  held "JAVALEX_DENY_ERRORS" ++
  "  " ++ bold "-v" ++ ", " ++ bold "--verbose" ++ "          Enable verbose output " ++
  held "JAVALEX_VERBOSE" ++
  "  " ++ bold "-h" ++ ", " ++ bold "--help" ++ "             Print help\n" ++
  "  " ++ bold "-V" ++ ", " ++ bold "--version" ++ "          Print version\n"

/-- The help text. Unless the environment insists, it is not meant for a terminal. -/
def helpText (environment : Environment) : String :=
  let insists := match environment.lookup "CLICOLOR_FORCE" with
    | some value => value != "0"
    | none => false
  if insists then styledHelpText environment else Text.strip (styledHelpText environment)

end Command

end Lexis
