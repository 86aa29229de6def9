import Lexis.Diagnostic
import Lexis.Lexer
import Lexis.Program.Host
import Lexis.Report

/-!
# Sessions

One run of the program: settings are read and completed by the options, a source is found and cut into
tokens, the report goes to the standard output and, if wanted, to a file, and errors are shown. The
first failure ends the session. The exit status is 0 for a session that came to its end, unless errors
in the source were forbidden.

Failures that name a path show it in quoted form. A failure that comes from somewhere else keeps its cause,
whose wording it repeats when it is reported.
-/

set_option autoImplicit false

namespace Lexis

/-! ## Failures -/

/-- Why the program stopped. -/
inductive Failure where
  /-- A file could not be read or written. -/
  | access (path : String) (cause : AccessError)
  /-- The text of a file makes no settings. -/
  | settings (path : String) (text : List Char) (cause : SettingsError)
  /-- The log could not be started. -/
  | logging (reason : String)
  /-- The input ended before it named a source. -/
  | noSource
  /-- A name could not be read from the input. -/
  | unreadableName (cause : AccessError)
deriving DecidableEq

namespace Failure

/-- The wording of a failure. -/
def message : Failure → String
  | .access path cause => s!"failed to access {Text.quote path}: {cause.message}"
  | .settings path text cause =>
    s!"invalid configuration in {Text.quote path}: {cause.message text}"
  | .logging reason => s!"failed to initialise logging: {reason}"
  | .noSource => "no source file given"
  | .unreadableName _ => "failed to read file name"

/-- The wording of the cause, where there is one. -/
def cause? : Failure → Option String
  | .access _ cause => some cause.message
  | .settings _ text cause => some (cause.message text)
  | .logging _ => none
  | .noSource => none
  | .unreadableName cause => some cause.message

/-- A failure and its cause behind one another. -/
def report (f : Failure) : String :=
  match f.cause? with
  | some cause => s!"{f.message}: {cause}"
  | none => f.message

end Failure

/-! ## Sessions -/

/-- The file of settings that is looked for when none is named. -/
def Settings.fileName : String := "javalex.toml"

/-- The settings with what the options demand. An output path asks for a report, and the refusal of a
report wins over it. -/
def Options.apply (o : Options) (s : Settings) : Settings where
  color := if o.noColor then .never else s.color
  writeReport := (s.writeReport || o.output?.isSome) && !o.noReport
  reportExtension := s.reportExtension
  sourceDirectory? := s.sourceDirectory?
  denyErrors := s.denyErrors || o.denyErrors

/-- How a session can end before its end. -/
inductive Interruption where
  | failure (f : Failure)
  | fault (f : Fault)
deriving DecidableEq

/-- What came of a source that was read. -/
inductive Verdict where
  /-- It has no errors. -/
  | clean
  /-- It has errors. -/
  | unclean
  /-- The report on it could not be printed, and nothing was done behind that. -/
  | unprinted (cause : AccessError)
deriving DecidableEq

/-- A computation of a session. -/
abbrev SessionM (m : Type → Type) := ExceptT Interruption m

/-- What all parts of a session share. -/
structure Session (m : Type → Type) where
  host : Host m
  filter : LogFilter

namespace Session

variable {m : Type → Type} [Monad m]

/-- Ends a session with a failure. -/
def fail {α : Type} (f : Failure) : SessionM m α := throw (.failure f)

/-- Writes a message to the log if the filter lets it pass. -/
def log (s : Session m) (e : LogEntry) : m Unit :=
  if s.filter.admits e then s.host.err e.render else pure ()

/-- Reads the settings of a file. -/
def readSettings (s : Session m) (path : String) : SessionM m Settings := do
  s.log (.loading path)
  match ← s.host.read path with
  | .error e => fail (.access path e)
  | .ok text =>
    match s.host.formats.settings text.toList with
    | .ok settings => return settings
    | .error e => fail (.settings path text.toList e)

/-- The settings of the named file, which must be there, or else of the usual file if it is there, or
else the defaults. -/
def loadSettings (s : Session m) (named? : Option String) : SessionM m Settings := do
  match named? with
  | some path => s.readSettings path
  | none =>
    if ← s.host.isFile Settings.fileName then s.readSettings Settings.fileName
    else return Settings.default

/-- Prints something for the user. There is an answer only if that fails, which stops a session. -/
def tell (s : Session m) (text : String) : m (Option (Except Interruption String)) := do
  match ← s.host.out text with
  | .ok () => return none
  | .error e => return some (.error (.fault (.unprintable e.message)))

/-- Takes a line for the name of a source, and says so if it leads to no file. -/
def take (s : Session m) (settings : Settings) (line? : Option String) :
    m (Option (Except Interruption String)) := do
  match line? with
  | none => return some (.error (.failure (.unreadableName .notUtf8)))
  | some line =>
    let path := settings.resolve (String.ofList (Text.trim line.toList))
    if ← s.host.isFile path then return some (.ok path)
    else s.tell s!"File {path} not found\n"

/-- Asks for the name of a source until one leads to a file. -/
def promptForSource (s : Session m) (settings : Settings) : SessionM m String := do
  match ← s.host.untilAnswered (s.tell "Enter a file's name\n") (s.take settings) with
  | some (.ok path) => return path
  | some (.error e) => throw e
  | none => fail .noSource

/-- The source that is given, or else asked for. -/
def source (s : Session m) (settings : Settings) (file? : Option String) : SessionM m String :=
  match file? with
  | some path => return path
  | none => s.promptForSource settings

/-- Cuts a source into tokens and logs them. -/
def scan (s : Session m) (text : String) : m (List Token) := do
  let tokens := tokenize text.toList
  tokens.forM fun t => s.log (.token t)
  s.log (.tokenized text.utf8ByteSize tokens)
  return tokens

/-- Shows errors in their lines. -/
def showErrors (s : Session m) (text : String) (file : String) (errors : List LocatedError) :
    SessionM m Unit :=
  errors.forM fun e =>
    match Diagnostic.render e text.toList file with
    | .ok shown => s.host.err shown
    | .error f => throw (.fault f)

/-- Writes the report to a file. -/
def writeReport (s : Session m) (path : String) (tokens : List Token) : SessionM m Unit := do
  match ← s.host.write path (Report.render false tokens) with
  | .ok () => s.log (.written path)
  | .error e => fail (.access path e)

/-- Shows the errors of a source whose report is printed, and writes the report. -/
def follow (s : Session m) (settings : Settings) (output? : Option String) (path text : String)
    (tokens : List Token) : SessionM m Verdict := do
  let errors := tokens.filterMap Token.located?
  s.showErrors text path errors
  if settings.writeReport then
    s.writeReport (output?.getD (settings.reportPath path)) tokens
  if errors.isEmpty then return .clean
  else
    s.log (.unclean errors.length path)
    return .unclean

/-- Reads and reports a source. -/
def analyse (s : Session m) (settings : Settings) (output? : Option String) (path : String) :
    SessionM m Verdict := do
  match ← s.host.read path with
  | .error e => fail (.access path e)
  | .ok text =>
    let tokens ← s.scan text
    let colors := settings.color.useColors (← s.host.isTerminal)
    match ← s.host.out (Report.render colors tokens) with
    | .ok () => s.follow settings output? path text tokens
    | .error e => return .unprinted e

/-- The exit status for what came of a source. -/
def conclude (s : Session m) (settings : Settings) (verdict : Verdict) : m Nat := do
  match verdict with
  | .clean => return 0
  | .unclean => return if settings.denyErrors then 1 else 0
  | .unprinted e =>
    s.log (.failed s!"failed to print report: {e.message}")
    return 1

/-- A session from its options to its exit status. -/
def exitStatus (s : Session m) (o : Options) : SessionM m Nat := do
  let settings := o.apply (← s.loadSettings o.config?)
  s.log (.effective settings)
  let path ← s.source settings o.file?
  let verdict ← s.analyse settings o.output? path
  s.conclude settings verdict

end Session

/-- **The program**, from its arguments to its exit status. -/
def runProgram {m : Type → Type} [Monad m] (host : Host m) (arguments : List String)
    (environment : Environment) : m Nat := do
  match host.formats.command arguments environment with
  | .error e =>
    host.err s!"error: {e.message}\n"
    return 2
  | .ok .help =>
    let _ ← host.out (Command.helpText environment)
    return 0
  | .ok .version =>
    let _ ← host.out Command.versionText
    return 0
  | .ok (.analyse o) =>
    let session : Session m := ⟨host, host.formats.filter o.verbose (environment.lookup "RUST_LOG")⟩
    match ← (session.exitStatus o).run with
    | .ok status => return status
    | .error (.failure f) =>
      session.log (.failed f.report)
      return 1
    | .error (.fault f) =>
      host.err s!"{f.message}\n"
      return 101

end Lexis
