import Lexis.Proofs.Program.Effects
import Lexis.Proofs.Program.Options

/-!
# The exit status

A run that was asked to analyse a source ends with 0 when every part of it succeeds: the settings are
loaded, a source is found and is text, its report is printed and, if one is wanted, written, and the source
has no errors or errors are not denied (`Completes`). Otherwise it ends with 1, unless an arrow is too long
to be drawn or nobody can see the prompt (`exits_run`).

Whether errors are denied reaches nothing but the status: two runs that differ in it alone print the same
and leave the same files. What is printed is the dialogue of the prompt and the report, once the source is
read, whatever comes of writing the report.

All this is so in every file system and for any formats of command lines and of settings. Of command lines
only one thing is relied on, for who denies errors (`Formats.InheritsDenyErrors`).
-/

set_option autoImplicit false

namespace Lexis

/-! ## Drawing errors -/

/-- Only an arrow that is too long cannot be drawn. -/
theorem Diagnostic.fault_of_render {e : LocatedError} {text : List Char} {file : String} {f : Fault}
    (hidden : render e text file = .error f) : f = .fieldTooWide := by
  unfold render at hidden
  split at hidden
  · cases hidden
  · next place _ =>
    unfold picture at hidden
    simp only at hidden
    split at hidden
    · cases hidden
      rfl
    · cases hidden

/-- A source that has no error among its tokens is clean. -/
theorem verdictOn_eq_clean {text : String} :
    verdictOn text = .clean ↔ ¬ ∃ t ∈ tokenize text.toList, t.error?.isSome = true := by
  have located : ((tokenize text.toList).filterMap Token.located?).isEmpty = true ↔
      ¬ ∃ t ∈ tokenize text.toList, t.error?.isSome = true := by
    rw [List.isEmpty_iff, List.filterMap_eq_nil_iff]
    simp [Token.located?]
  rw [← located]
  unfold verdictOn
  split <;> simp [*]

/-- A source ends a session with 0 unless it has errors and they are denied. -/
theorem status_verdictOn_eq_zero {deny : Bool} {text : String} :
    (verdictOn text).status deny = 0 ↔
      ¬ (deny = true ∧ ∃ t ∈ tokenize text.toList, t.error?.isSome = true) := by
  rw [not_and, ← verdictOn_eq_clean]
  unfold verdictOn
  split <;> cases deny <;> simp [Verdict.status]

/-- What comes of a source ends a session with 0 or 1. -/
theorem Verdict.status_eq (deny : Bool) (verdict : Verdict) :
    verdict.status deny = 0 ∨ verdict.status deny = 1 := by
  cases verdict <;> cases deny <;> simp [Verdict.status]

/-! ## Strictness -/

section Strictness

variable {σ : Type} {F : FileSystem σ} {formats : Formats} {files files' : σ} {w : Surroundings σ}
  {outlet : Outlet} {settings : Settings} {lines rest : List ByteArray} {printed : String}

/-- The prompt does not look at whether errors are denied. -/
theorem Prompts.strict {answer? : Option (Except Interruption String)} (deny : Bool)
    (prompts : Prompts F files settings lines answer? rest printed) :
    Prompts F files { settings with denyErrors := deny } lines answer? rest printed := by
  induction prompts with
  | ended => exact .ended
  | unreadable decoded => exact .unreadable decoded
  | found decoded file => exact .found decoded file
  | missing decoded file _ ih => exact .missing decoded file ih

theorem Finds.strict {file? : Option String} {answer : Except Interruption String} (deny : Bool)
    (finds : Finds F w settings file? answer rest printed) :
    Finds F w { settings with denyErrors := deny } file? answer rest printed := by
  cases finds with
  | given => exact .given
  | prompted taken prompts => exact .prompted taken (prompts.strict deny)
  | unseen refused => exact .unseen refused

theorem Analyses.strict {output? : Option String} {source : String}
    {answer : Except Interruption Verdict} (deny : Bool)
    (analyses : Analyses F files outlet settings output? source answer files' printed) :
    Analyses F files outlet { settings with denyErrors := deny } output? source answer files' printed := by
  cases analyses with
  | unread failed => exact .unread failed
  | unprinted read refused => exact .unprinted read refused
  | faulty read taken hidden => exact .faulty read taken hidden
  | unreported read taken showable unwanted => exact .unreported read taken showable unwanted
  | unwritten read taken showable wanted write => exact .unwritten read taken showable wanted write
  | written read taken showable wanted write => exact .written read taken showable wanted write

/-- **Whether errors are denied reaches the status of a session only.** -/
theorem Courses.strict {o : Options} {status : Except Interruption Nat} (deny : Bool)
    (courses : Courses F formats w o status files' rest printed) :
    ∃ status', Courses F formats w { o with denyErrors := deny } status' files' rest printed := by
  cases courses with
  | @unsettled f none => exact ⟨.error (.failure f), .unsettled none⟩
  | unfound loads finds => exact ⟨_, .unfound loads (finds.strict _)⟩
  | analysed loads finds analyses => exact ⟨_, .analysed loads (finds.strict _) (analyses.strict _)⟩

/-- An analysis leaves the files and prints in one way. -/
theorem Analyses.unique {files'' : σ} {printed' : String} {output? : Option String} {source : String}
    {answer answer' : Except Interruption Verdict}
    (analyses : Analyses F files outlet settings output? source answer files' printed)
    (analyses' : Analyses F files outlet settings output? source answer' files'' printed') :
    files' = files'' ∧ printed = printed' := by
  cases analyses <;> cases analyses' <;> simp_all

/-- A session leaves the files and the lines and prints in one way. -/
theorem Courses.unique {files'' : σ} {rest' : List ByteArray} {printed' : String} {o : Options}
    {status status' : Except Interruption Nat} (courses : Courses F formats w o status files' rest printed)
    (courses' : Courses F formats w o status' files'' rest' printed') :
    files' = files'' ∧ rest = rest' ∧ printed = printed' := by
  cases courses with
  | unsettled none =>
    cases courses' with
    | unsettled _ => exact ⟨rfl, rfl, rfl⟩
    | unfound loads _ => exact absurd loads (none _)
    | analysed loads _ _ => exact absurd loads (none _)
  | unfound loads finds =>
    cases courses' with
    | unsettled none => exact absurd loads (none _)
    | unfound loads' finds' =>
      obtain ⟨-, -, rfl, rfl⟩ := loads.finds_unique finds loads' finds'
      exact ⟨rfl, rfl, rfl⟩
    | analysed loads' finds' _ =>
      obtain ⟨-, found, -⟩ := loads.finds_unique finds loads' finds'
      cases found
  | analysed loads finds analyses =>
    cases courses' with
    | unsettled none => exact absurd loads (none _)
    | unfound loads' finds' =>
      obtain ⟨-, found, -⟩ := loads.finds_unique finds loads' finds'
      cases found
    | analysed loads' finds' analyses' =>
      obtain ⟨rfl, found, rfl, rfl⟩ := loads.finds_unique finds loads' finds'
      cases found
      obtain ⟨rfl, rfl⟩ := analyses.unique analyses'
      exact ⟨rfl, rfl, rfl⟩

end Strictness

/-! ## The status -/

namespace Surroundings

section Exits

variable {σ : Type} (F : FileSystem σ) (formats : Formats) (w : Surroundings σ)
  (arguments : List String) (environment : Environment) (o : Options)

/-- **Errors are denied**: by a flag among the arguments, by the environment, or by the settings. -/
inductive DeniesErrors (settings : Settings) : Prop
  | flag : formats.DeniesErrors arguments → DeniesErrors settings
  | inherited : environment.lookup "JAVALEX_DENY_ERRORS" = some "true" → DeniesErrors settings
  | settings : settings.denyErrors = true → DeniesErrors settings

/-- **A run completes**: the settings are loaded, a source is found and is text, the report is printed, and
written if it is wanted and not refused, and errors are not denied or there are none. -/
structure Completes (settings : Settings) (source text : String) : Prop where
  loads : Loads F formats w.files o.config? settings
  finds : ∃ rest dialogue, Finds F w (o.apply settings) o.file? (.ok source) rest dialogue
  read : F.read w.files source = .ok text
  prints : w.outlet.refusal? = none
  writes : o.noReport = false → o.output?.isSome = true ∨ settings.writeReport = true →
    ∃ files, F.write w.files (o.output?.getD (source ++ "." ++ settings.reportExtension))
      (Report.render false (tokenize text.toList)) = .ok files
  allowed : ¬ (DeniesErrors formats arguments environment settings ∧
    ∃ t ∈ tokenize text.toList, t.error?.isSome = true)

/-- No arrow under an error of the source that a run analyses is too long to be drawn. -/
def Drawable : Prop :=
  ∀ settings source text rest dialogue, Loads F formats w.files o.config? settings →
    Finds F w (o.apply settings) o.file? (.ok source) rest dialogue →
    F.read w.files source = .ok text →
    ∀ t ∈ tokenize text.toList, ∀ e, t.located? = some e →
      Diagnostic.render e text.toList source ≠ .error .fieldTooWide

/-- **A run exits as it was asked to.** -/
structure Exits : Prop where
  status : Drawable F formats w o → ((w.run F formats arguments environment).1 = 0 ↔
    ∃ settings source text, Completes F formats w arguments environment o settings source text)
  /-- It is 1 if it is not 0, as long as a prompt, if there is one, can be seen. -/
  failed : Drawable F formats w o → (o.file? = none → w.outlet.refusal? = none) →
    (w.run F formats arguments environment).1 ≠ 0 → (w.run F formats arguments environment).1 = 1
  /-- Another run that differs in whether errors are denied prints the same and leaves the same files. -/
  strictness : ∀ arguments' environment' deny,
    formats.command arguments' environment' = .ok (.analyse { o with denyErrors := deny }) →
    (w.run F formats arguments' environment').2.stdout = (w.run F formats arguments environment).2.stdout ∧
      (w.run F formats arguments' environment').2.files = (w.run F formats arguments environment).2.files
  /-- Once the source is read, the report is printed behind the dialogue of the prompt. -/
  printed : ∀ settings source text rest dialogue, Loads F formats w.files o.config? settings →
    Finds F w (o.apply settings) o.file? (.ok source) rest dialogue →
    F.read w.files source = .ok text → w.outlet.refusal? = none →
    (w.run F formats arguments environment).2.stdout = w.stdout ++ dialogue ++
      Report.render ((o.apply settings).color.useColors w.outlet.terminal) (tokenize text.toList)

/-- **A status tells whether a run completes**: it is 0 if the run does and otherwise, where a prompt, if there
is one, can be seen, it is 1. -/
structure Tells (status : Nat) : Prop where
  zero : status = 0 ↔
    ∃ settings source text, Completes F formats w arguments environment o settings source text
  one : (o.file? = none → w.outlet.refusal? = none) → status ≠ 0 → status = 1

end Exits

variable {σ : Type} {F : FileSystem σ} {formats : Formats} {w : Surroundings σ} {arguments : List String}
  {environment : Environment} {o : Options} {settings : Settings} {source text : String}

/-- The settings of a run deny errors when something does. -/
theorem deniesErrors_iff (inherits : formats.InheritsDenyErrors)
    (asked : formats.command arguments environment = .ok (.analyse o)) :
    DeniesErrors formats arguments environment settings ↔ (o.apply settings).denyErrors = true := by
  have effective : (o.apply settings).denyErrors = true ↔
      settings.denyErrors = true ∨ o.denyErrors = true := Bool.or_eq_true_iff ..
  rw [effective, inherits arguments environment o asked]
  constructor
  · rintro (flag | inherited | chosen)
    · exact .inr (.inl flag)
    · exact .inr (.inr inherited)
    · exact .inl chosen
  · rintro (chosen | flag | inherited)
    · exact .settings chosen
    · exact .flag flag
    · exact .inherited inherited

section Analysis

variable (inherits : formats.InheritsDenyErrors)
  (asked : formats.command arguments environment = .ok (.analyse o))
  (loads : Loads F formats w.files o.config? settings)
  (finds : ∃ rest dialogue, Finds F w (o.apply settings) o.file? (.ok source) rest dialogue)
include loads finds

/-- A run that completes reads the source that it finds. -/
theorem Completes.read_eq {settings' : Settings} {source' text' : String}
    (completes : Completes F formats w arguments environment o settings' source' text') :
    settings' = settings ∧ source' = source ∧ F.read w.files source = .ok text' := by
  obtain ⟨_, _, finds⟩ := finds
  obtain ⟨_, _, finds'⟩ := completes.finds
  obtain ⟨rfl, found, -⟩ := completes.loads.finds_unique finds' loads finds
  cases found
  exact ⟨rfl, rfl, completes.read⟩

include inherits asked

/-- With a source that is read and a report that is printed, a run completes if it writes what it has to,
and errors are not denied or there are none. -/
theorem completes_iff (read : F.read w.files source = .ok text) (taken : w.outlet.refusal? = none) :
    (∃ settings source text, Completes F formats w arguments environment o settings source text) ↔
      ((o.apply settings).writeReport = true → ∃ files,
        F.write w.files (o.output?.getD ((o.apply settings).reportPath source)) (reportOn false text) =
          .ok files) ∧
      (verdictOn text).status (o.apply settings).denyErrors = 0 := by
  rw [status_verdictOn_eq_zero, ← deniesErrors_iff inherits asked, writeReport_apply]
  constructor
  · rintro ⟨settings', source', text', completes⟩
    obtain ⟨rfl, rfl, read'⟩ := completes.read_eq loads finds
    cases read.symm.trans read'
    exact ⟨fun ⟨notRefused, wanted⟩ => completes.writes notRefused wanted, completes.allowed⟩
  · rintro ⟨writes, allowed⟩
    exact ⟨settings, source, text, loads, finds, read, taken,
      fun notRefused wanted => writes ⟨notRefused, wanted⟩, allowed⟩

end Analysis

/-- Where no arrow is too long, all errors can be shown. -/
theorem Drawable.showable (drawable : Drawable F formats w o)
    (loads : Loads F formats w.files o.config? settings) {rest : List ByteArray} {dialogue : String}
    (finds : Finds F w (o.apply settings) o.file? (.ok source) rest dialogue)
    (read : F.read w.files source = .ok text) : Showable source text := by
  intro e member
  obtain ⟨t, here, located⟩ := List.mem_filterMap.mp member
  have fits := drawable settings source text rest dialogue loads finds read t here e located
  cases drawn : Diagnostic.render e text.toList source with
  | ok shown => exact ⟨shown, rfl⟩
  | error f => exact absurd (Diagnostic.fault_of_render drawn ▸ drawn) fits

/-- The status of a run that finds no source is not 0, and it is 1 if the prompt can be seen. -/
theorem statusOf_unfound {file? : Option String} {rest : List ByteArray} {dialogue : String}
    {e : Interruption} (finds : Finds F w settings file? (.error e) rest dialogue) :
    statusOf (.error e) ≠ 0 ∧ ((file? = none → w.outlet.refusal? = none) → statusOf (.error e) = 1) := by
  refine ⟨by cases e <;> simp [statusOf], fun seen => ?_⟩
  generalize answer : Except.error e = found at finds
  cases finds with
  | given => cases answer
  | @prompted answer? _ _ _ prompts =>
    cases answer? with
    | none =>
      cases answer
      rfl
    | some found =>
      obtain ⟨f, rfl⟩ := prompts.failure (congrArg some answer.symm)
      rfl
  | unseen refused => cases (seen rfl).symm.trans refused

/-- A run that does not complete is told by 1. -/
theorem tells_one
    (incomplete : ¬ ∃ settings source text,
      Completes F formats w arguments environment o settings source text) :
    Tells F formats w arguments environment o 1 :=
  ⟨iff_of_false Nat.one_ne_zero incomplete, fun _ _ => rfl⟩

/-- **The status of a session tells whether the run completes.** -/
theorem tells_coursed {status : Except Interruption Nat} {files' : σ} {rest : List ByteArray}
    {printed : String} (inherits : formats.InheritsDenyErrors)
    (asked : formats.command arguments environment = .ok (.analyse o)) (drawable : Drawable F formats w o)
    (courses : Courses F formats w o status files' rest printed) :
    Tells F formats w arguments environment o (statusOf status) := by
  cases courses with
  | unsettled none =>
    refine tells_one ?_
    rintro ⟨settings, _, _, completes⟩
    exact none settings completes.loads
  | unfound loads finds =>
    obtain ⟨nonzero, one⟩ := statusOf_unfound finds
    refine ⟨iff_of_false nonzero ?_, fun seen _ => one seen⟩
    rintro ⟨settings', _, _, completes⟩
    obtain ⟨_, _, finds'⟩ := completes.finds
    obtain ⟨-, found, -⟩ := completes.loads.finds_unique finds' loads finds
    cases found
  | @analysed settings source _ _ _ _ _ loads finds analyses =>
    have found : ∃ rest dialogue, Finds F w (o.apply settings) o.file? (.ok source) rest dialogue :=
      ⟨_, _, finds⟩
    -- an analysis that came to its end leaves the status to the errors of the source
    have ended : ∀ {text : String}, F.read w.files source = .ok text → w.outlet.refusal? = none →
        ((o.apply settings).writeReport = true → ∃ files, F.write w.files
          (o.output?.getD ((o.apply settings).reportPath source)) (reportOn false text) = .ok files) →
        Tells F formats w arguments environment o
          ((verdictOn text).status (o.apply settings).denyErrors) := by
      intro text read taken writes
      refine ⟨?_, fun _ nonzero => (Verdict.status_eq _ _).resolve_left nonzero⟩
      rw [completes_iff inherits asked loads found read taken]
      exact ⟨fun zero => ⟨writes, zero⟩, And.right⟩
    cases analyses with
    | unread failed =>
      refine tells_one ?_
      rintro ⟨_, _, _, completes⟩
      obtain ⟨-, -, read⟩ := completes.read_eq loads found
      cases failed.symm.trans read
    | unprinted _ refused =>
      refine tells_one ?_
      rintro ⟨_, _, _, completes⟩
      cases refused.symm.trans completes.prints
    | faulty read _ hidden => exact absurd (drawable.showable loads finds read) hidden
    | unreported read taken _ unwanted =>
      refine ended read taken fun wanted => ?_
      cases unwanted.symm.trans wanted
    | unwritten read taken _ wanted write =>
      refine tells_one fun completes => ?_
      obtain ⟨writes, -⟩ := (completes_iff inherits asked loads found read taken).mp completes
      obtain ⟨files, written⟩ := writes wanted
      cases write.symm.trans written
    | written read taken _ _ write => exact ended read taken fun _ => ⟨_, write⟩

/-- What a run comes to, of the surroundings behind it. -/
theorem run_eq {status : Nat} {w' : Surroundings σ}
    (ends : Ends (runProgram (host F formats) arguments environment) w status w') :
    (w.run F formats arguments environment).1 = status ∧
      (w.run F formats arguments environment).2.files = w'.files ∧
      (w.run F formats arguments environment).2.stdout = w'.stdout := by
  obtain ⟨noise, run⟩ := ends w.stderr
  have run : w.run F formats arguments environment = (status, { w' with stderr := noise }) := run
  rw [run]
  exact ⟨rfl, rfl, rfl⟩

/-- **A run exits as it was asked to**, whatever the files, the arguments, the environment and the input
are. -/
theorem exits_run (F : FileSystem σ) (inherits : formats.InheritsDenyErrors) (w : Surroundings σ)
    (asked : formats.command arguments environment = .ok (.analyse o)) :
    Exits F formats w arguments environment o := by
  obtain ⟨status, files, rest, printed, courses, ends⟩ := ends_runProgram F formats asked w
  obtain ⟨exit, left, stdout⟩ := run_eq ends
  refine ⟨fun drawable => ?_, fun drawable seen nonzero => ?_, fun arguments' environment' deny asked' => ?_,
    fun settings source text rest' dialogue loads finds read taken => ?_⟩
  · rw [exit]
    exact (tells_coursed inherits asked drawable courses).zero
  · rw [exit] at nonzero ⊢
    exact (tells_coursed inherits asked drawable courses).one seen nonzero
  · obtain ⟨status', files', rest', printed', courses', ends'⟩ := ends_runProgram F formats asked' w
    obtain ⟨-, left', stdout'⟩ := run_eq ends'
    obtain ⟨_, strict⟩ := courses.strict deny
    obtain ⟨rfl, rfl, rfl⟩ := strict.unique courses'
    exact ⟨stdout'.trans stdout.symm, left'.trans left.symm⟩
  · rw [stdout, String.append_assoc]
    refine congrArg (w.stdout ++ ·) ?_
    cases courses with
    | unsettled none => exact absurd loads (none _)
    | unfound loads' finds' =>
      obtain ⟨-, found, -⟩ := loads.finds_unique finds loads' finds'
      cases found
    | analysed loads' finds' analyses =>
      obtain ⟨rfl, found, rfl, rfl⟩ := loads.finds_unique finds loads' finds'
      cases found
      refine congrArg (dialogue ++ ·) ?_
      cases analyses with
      | unread failed => cases failed.symm.trans read
      | unprinted _ refused => cases taken.symm.trans refused
      | _ read' => cases read.symm.trans read'; rfl

/-- Errors that the environment denies make a run fail behind the report that it writes, here out of the
working directory. -/
theorem exits_run_inherited :
    let F := FileTree.system World.directory
    let w : World := start ⟨[(["src", "A"], .file "#".toUTF8), (World.directory, .directory)]⟩ ByteArray.empty
    let arguments := ["/src/A", "--output", "../B"]
    let environment := [("JAVALEX_DENY_ERRORS", "true")]
    let o : Options := ⟨some "/src/A", none, some "../B", false, false, true, false⟩
    (Formats.standard.InheritsDenyErrors ∧
      Formats.standard.command arguments environment = .ok (.analyse o) ∧ Drawable F .standard w o ∧
      (Surroundings.run F .standard w arguments environment).1 = 1 ∧
      F.isFile (Surroundings.run F .standard w arguments environment).2.files "/home/B" = true) ∧
      Exits F .standard w arguments environment o := by
  intro F w arguments environment o
  have inherits := Command.inheritsDenyErrors_standard
  have asked : Formats.standard.command arguments environment = .ok (.analyse o) :=
    toOption_eq_some.mp (by decide +kernel)
  refine ⟨⟨inherits, asked, ?_, by decide +kernel, by decide +kernel⟩, exits_run F inherits w asked⟩
  intro settings source text rest dialogue _ finds read t member e located
  cases finds
  have same : F.read w.files "/src/A" = .ok "#" := toOption_eq_some.mp (by decide +kernel)
  cases same.symm.trans read
  have errors : (tokenize ['#']).filterMap Token.located? = [⟨.unrecognisedCharacter, ⟨0, 1⟩⟩] := by
    decide +kernel
  obtain rfl := List.mem_singleton.mp (errors ▸ List.mem_filterMap.mpr ⟨t, member, located⟩)
  exact nofun

end Surroundings

end Lexis
