import Lexis.Program.World

/-!
# What a session comes to

A session reads settings, finds a source and analyses it. Each part is described by what the files, the
lines of the input and the standard output are at its start: the answer it gives, the files and the lines
it leaves, and what it prints. The descriptions are relations, one constructor for each way in which a part
can end, and what was found on the way is found in one way only. How files are read and written, and how
settings are written down, is left open.
-/

set_option autoImplicit false

namespace Lexis

section Course

variable {σ : Type} (F : FileSystem σ) (formats : Formats)

/-- A file holds settings: its text is read as them. -/
def HoldsSettings (files : σ) (path : String) (settings : Settings) : Prop :=
  ∃ text, F.read files path = .ok text ∧ formats.settings text.toList = .ok settings

/-- **Settings are loaded**: from the named file, or else from the usual file if it is there, or else the
defaults. -/
inductive Loads (files : σ) : Option String → Settings → Prop
  | named {path : String} {settings : Settings} : HoldsSettings F formats files path settings →
      Loads files (some path) settings
  | usual {settings : Settings} : F.isFile files Settings.fileName = true →
      HoldsSettings F formats files Settings.fileName settings → Loads files none settings
  | default : F.isFile files Settings.fileName = false → Loads files none Settings.default

/-- The path that a line entered at the prompt means. -/
def Settings.entered (settings : Settings) (line : String) : String :=
  settings.resolve (String.ofList (Text.trim line.toList))

/-- **The prompt takes lines** until one names a file or is not text, where all that it says is printed:
the answer, the lines left, and what is printed. At the end of the lines there is no answer. -/
inductive Prompts (files : σ) (settings : Settings) :
    List ByteArray → Option (Except Interruption String) → List ByteArray → String → Prop
  | ended : Prompts files settings [] none [] "Enter a file's name\n"
  | unreadable {line : ByteArray} {lines : List ByteArray} : String.fromUTF8? line = none →
      Prompts files settings (line :: lines) (some (.error (.failure (.unreadableName .notUtf8)))) lines
        "Enter a file's name\n"
  | found {line : ByteArray} {lines : List ByteArray} {name : String} :
      String.fromUTF8? line = some name → F.isFile files (settings.entered name) = true →
      Prompts files settings (line :: lines) (some (.ok (settings.entered name))) lines
        "Enter a file's name\n"
  | missing {line : ByteArray} {lines rest : List ByteArray} {name dialogue : String}
      {answer? : Option (Except Interruption String)} :
      String.fromUTF8? line = some name → F.isFile files (settings.entered name) = false →
      Prompts files settings lines answer? rest dialogue →
      Prompts files settings (line :: lines) answer? rest
        ("Enter a file's name\n" ++ s!"File {settings.entered name} not found\n" ++ dialogue)

/-- **A source is found**: the one given, or else the one that the prompt comes to. A prompt that nobody
can see is the end. -/
inductive Finds (w : Surroundings σ) (settings : Settings) :
    Option String → Except Interruption String → List ByteArray → String → Prop
  | given {source : String} : Finds w settings (some source) (.ok source) w.input ""
  | prompted {answer? : Option (Except Interruption String)} {rest : List ByteArray} {dialogue : String} :
      w.outlet.refusal? = none → Prompts F w.files settings w.input answer? rest dialogue →
      Finds w settings none (answer?.getD (.error (.failure .noSource))) rest dialogue
  | unseen {e : AccessError} : w.outlet.refusal? = some e →
      Finds w settings none (.error (.fault (.unprintable e.message))) w.input ""

/-- The errors of a source can all be shown. -/
def Showable (source text : String) : Prop :=
  ∀ e ∈ (tokenize text.toList).filterMap Token.located?,
    ∃ shown, Diagnostic.render e text.toList source = .ok shown

/-- What comes of a source whose report is printed. -/
def verdictOn (text : String) : Verdict :=
  if ((tokenize text.toList).filterMap Token.located?).isEmpty then .clean else .unclean

/-- The report on a source. -/
def reportOn (colors : Bool) (text : String) : String := Report.render colors (tokenize text.toList)

/-- **A source is analysed**: what comes of it, the files afterwards, and what is printed. -/
inductive Analyses (files : σ) (outlet : Outlet) (settings : Settings) (output? : Option String)
    (source : String) : Except Interruption Verdict → σ → String → Prop
  | unread {e : AccessError} : F.read files source = .error e →
      Analyses files outlet settings output? source (.error (.failure (.access source e))) files ""
  | unprinted {text : String} {e : AccessError} : F.read files source = .ok text →
      outlet.refusal? = some e →
      Analyses files outlet settings output? source (.ok (.unprinted e)) files ""
  | faulty {text : String} {f : Fault} : F.read files source = .ok text →
      outlet.refusal? = none → ¬ Showable source text →
      Analyses files outlet settings output? source (.error (.fault f)) files
        (reportOn (settings.color.useColors outlet.terminal) text)
  | unreported {text : String} : F.read files source = .ok text →
      outlet.refusal? = none → Showable source text → settings.writeReport = false →
      Analyses files outlet settings output? source (.ok (verdictOn text)) files
        (reportOn (settings.color.useColors outlet.terminal) text)
  | unwritten {text : String} {e : AccessError} : F.read files source = .ok text →
      outlet.refusal? = none → Showable source text → settings.writeReport = true →
      F.write files (output?.getD (settings.reportPath source)) (reportOn false text) = .error e →
      Analyses files outlet settings output? source
        (.error (.failure (.access (output?.getD (settings.reportPath source)) e))) files
        (reportOn (settings.color.useColors outlet.terminal) text)
  | written {text : String} {files' : σ} : F.read files source = .ok text →
      outlet.refusal? = none → Showable source text → settings.writeReport = true →
      F.write files (output?.getD (settings.reportPath source)) (reportOn false text) = .ok files' →
      Analyses files outlet settings output? source (.ok (verdictOn text)) files'
        (reportOn (settings.color.useColors outlet.terminal) text)

/-- The exit status for what came of a source. -/
def Verdict.status (denyErrors : Bool) : Verdict → Nat
  | .clean => 0
  | .unclean => if denyErrors then 1 else 0
  | .unprinted _ => 1

/-- **A session**: its exit status, the files and lines it leaves, and what it prints. -/
inductive Courses (w : Surroundings σ) (o : Options) :
    Except Interruption Nat → σ → List ByteArray → String → Prop
  | unsettled {f : Failure} : (∀ settings, ¬ Loads F formats w.files o.config? settings) →
      Courses w o (.error (.failure f)) w.files w.input ""
  | unfound {settings : Settings} {e : Interruption} {rest : List ByteArray} {dialogue : String} :
      Loads F formats w.files o.config? settings →
      Finds F w (o.apply settings) o.file? (.error e) rest dialogue →
      Courses w o (.error e) w.files rest dialogue
  | analysed {settings : Settings} {source dialogue printed : String} {rest : List ByteArray}
      {files' : σ} {answer : Except Interruption Verdict} :
      Loads F formats w.files o.config? settings →
      Finds F w (o.apply settings) o.file? (.ok source) rest dialogue →
      Analyses F w.files w.outlet (o.apply settings) o.output? source answer files' printed →
      Courses w o (answer.map (Verdict.status (o.apply settings).denyErrors)) files' rest
        (dialogue ++ printed)

end Course

/-! ## One way to end -/

section Unique

variable {σ : Type} {F : FileSystem σ} {formats : Formats} {files files' files'' : σ}
  {w : Surroundings σ} {settings settings' : Settings} {lines rest rest' : List ByteArray}
  {dialogue dialogue' printed printed' : String}

theorem HoldsSettings.unique {path : String} (holds : HoldsSettings F formats files path settings)
    (holds' : HoldsSettings F formats files path settings') : settings = settings' := by
  obtain ⟨text, read, parsed⟩ := holds
  obtain ⟨text', read', parsed'⟩ := holds'
  obtain rfl : text = text' := Except.ok.inj (read.symm.trans read')
  exact Except.ok.inj (parsed.symm.trans parsed')

theorem Loads.unique {named? : Option String} (loads : Loads F formats files named? settings)
    (loads' : Loads F formats files named? settings') : settings = settings' := by
  cases loads with
  | named holds =>
    cases loads' with
    | named holds' => exact holds.unique holds'
  | usual file holds =>
    cases loads' with
    | usual _ holds' => exact holds.unique holds'
    | default none => exact absurd file (by simp [none])
  | default none =>
    cases loads' with
    | usual file _ => exact absurd file (by simp [none])
    | default _ => rfl

theorem Prompts.unique {answer? answer?' : Option (Except Interruption String)}
    (prompts : Prompts F files settings lines answer? rest dialogue)
    (prompts' : Prompts F files settings lines answer?' rest' dialogue') :
    answer? = answer?' ∧ rest = rest' ∧ dialogue = dialogue' := by
  induction prompts generalizing dialogue' with
  | ended =>
    cases prompts'
    exact ⟨rfl, rfl, rfl⟩
  | unreadable decoded =>
    cases prompts' with
    | unreadable _ => exact ⟨rfl, rfl, rfl⟩
    | found decoded' _ => cases decoded.symm.trans decoded'
    | missing decoded' _ _ => cases decoded.symm.trans decoded'
  | found decoded file =>
    cases prompts' with
    | unreadable decoded' => cases decoded.symm.trans decoded'
    | found decoded' _ =>
      cases decoded.symm.trans decoded'
      exact ⟨rfl, rfl, rfl⟩
    | missing decoded' file' _ =>
      cases decoded.symm.trans decoded'
      cases file.symm.trans file'
  | missing decoded file _ ih =>
    cases prompts' with
    | unreadable decoded' => cases decoded.symm.trans decoded'
    | found decoded' file' =>
      cases decoded.symm.trans decoded'
      cases file.symm.trans file'
    | missing decoded' _ later =>
      cases decoded.symm.trans decoded'
      obtain ⟨rfl, rfl, rfl⟩ := ih later
      exact ⟨rfl, rfl, rfl⟩

/-- Where all that it says is printed, the prompt stops for failures only. -/
theorem Prompts.failure {answer? : Option (Except Interruption String)} {e : Interruption}
    (prompts : Prompts F files settings lines answer? rest dialogue) (stops : answer? = some (.error e)) :
    ∃ f, e = .failure f := by
  induction prompts with
  | ended => cases stops
  | unreadable _ =>
    cases stops
    exact ⟨_, rfl⟩
  | found _ _ => cases stops
  | missing _ _ _ ih => exact ih stops

theorem Finds.unique {file? : Option String} {answer answer' : Except Interruption String}
    (finds : Finds F w settings file? answer rest dialogue)
    (finds' : Finds F w settings file? answer' rest' dialogue') :
    answer = answer' ∧ rest = rest' ∧ dialogue = dialogue' := by
  cases finds with
  | given =>
    cases finds'
    exact ⟨rfl, rfl, rfl⟩
  | prompted seen prompts =>
    cases finds' with
    | prompted _ prompts' =>
      obtain ⟨rfl, rfl, rfl⟩ := prompts.unique prompts'
      exact ⟨rfl, rfl, rfl⟩
    | unseen refused => cases seen.symm.trans refused
  | unseen refused =>
    cases finds' with
    | prompted seen _ => cases seen.symm.trans refused
    | unseen refused' =>
      cases refused.symm.trans refused'
      exact ⟨rfl, rfl, rfl⟩

/-- The settings of a session are one, and so is what it finds by them. -/
theorem Loads.finds_unique {o : Options} {answer answer' : Except Interruption String}
    (loads : Loads F formats w.files o.config? settings)
    (finds : Finds F w (o.apply settings) o.file? answer rest dialogue)
    (loads' : Loads F formats w.files o.config? settings')
    (finds' : Finds F w (o.apply settings') o.file? answer' rest' dialogue') :
    settings = settings' ∧ answer = answer' ∧ rest = rest' ∧ dialogue = dialogue' := by
  obtain rfl := loads.unique loads'
  exact ⟨rfl, finds.unique finds'⟩

end Unique

end Lexis
