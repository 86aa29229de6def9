import Lexis.Proofs.Program.Course
import Lexis.Proofs.Program.Ends

/-!
# A session takes its course

The program in its surroundings ends in one of the ways that its parts can end in: the settings, the
prompt, the analysis, the session, and around it the program itself (`ends_runProgram`).
-/

set_option autoImplicit false

namespace Lexis.Surroundings

variable {σ : Type} (F : FileSystem σ) (formats : Formats) (filter : LogFilter)

/-! ## Settings -/

/-- A file holds settings or the session fails. -/
theorem ends_readSettings (w : Surroundings σ) (path : String) :
    (∃ settings, HoldsSettings F formats w.files path settings ∧
      Ends ((session F formats filter).readSettings path).run w (.ok settings) w) ∨
    ((∀ settings, ¬ HoldsSettings F formats w.files path settings) ∧
      ∃ f, Ends ((session F formats filter).readSettings path).run w (.error (.failure f)) w) := by
  unfold Session.readSettings
  have log := ends_log F formats filter w (.loading path)
  cases read : F.read w.files path with
  | error e =>
    refine .inr ⟨fun settings ⟨text, here, _⟩ => ?_, .access path e,
      .lift log (.lift (ends_read F formats w path) ?_)⟩
    · rw [read] at here
      cases here
    · rw [read]
      exact .pure _ w
  | ok text =>
    cases parsed : formats.settings text.toList with
    | error e =>
      refine .inr ⟨fun settings ⟨text', here, holds⟩ => ?_, .settings path text.toList e,
        .lift log (.lift (ends_read F formats w path) ?_)⟩
      · rw [read] at here
        cases here
        rw [parsed] at holds
        cases holds
      · simp only [read, host, parsed]
        exact .pure _ w
    | ok settings =>
      refine .inl ⟨settings, ⟨text, read, parsed⟩,
        .lift log (.lift (ends_read F formats w path) ?_)⟩
      simp only [read, host, parsed]
      exact .pure _ w

/-- **Settings are loaded or the session fails.** -/
theorem ends_loadSettings (w : Surroundings σ) (named? : Option String) :
    (∃ settings, Loads F formats w.files named? settings ∧
      Ends ((session F formats filter).loadSettings named?).run w (.ok settings) w) ∨
    ((∀ settings, ¬ Loads F formats w.files named? settings) ∧
      ∃ f, Ends ((session F formats filter).loadSettings named?).run w (.error (.failure f)) w) := by
  unfold Session.loadSettings
  cases named? with
  | some path =>
    rcases ends_readSettings F formats filter w path with ⟨settings, holds, ends⟩ | ⟨none, f, ends⟩
    · exact .inl ⟨settings, .named holds, ends⟩
    · refine .inr ⟨?_, f, ends⟩
      rintro settings (holds | _ | _)
      exact none settings holds
  | none =>
    have looked := ends_isFile F formats w Settings.fileName
    cases file : F.isFile w.files Settings.fileName with
    | false =>
      refine .inl ⟨.default, .default file, .lift looked ?_⟩
      rw [file]
      exact .pure _ w
    | true =>
      have go : ∀ {r w'}, Ends ((session F formats filter).readSettings Settings.fileName).run w r w' →
          Ends ((session F formats filter).loadSettings none).run w r w' := by
        intro r w' ends
        refine .lift looked ?_
        rw [file]
        exact ends
      rcases ends_readSettings F formats filter w Settings.fileName with
        ⟨settings, holds, ends⟩ | ⟨none, f, ends⟩
      · exact .inl ⟨settings, .usual file holds, go ends⟩
      · refine .inr ⟨?_, f, go ends⟩
        rintro settings (_ | ⟨_, holds⟩ | other)
        · exact none settings holds
        · rw [file] at other
          cases other

/-! ## The prompt -/

/-- What is said to the user is printed. -/
theorem ends_tell {w : Surroundings σ} (text : String) (taken : w.outlet.refusal? = none) :
    Ends ((session F formats filter).tell text) w none (w.print text) :=
  (ends_out F formats _ taken).bind (.pure _ _)

/-- What is said to the user cannot be printed. -/
theorem ends_tell_refused {w : Surroundings σ} (text : String) {e : AccessError}
    (refused : w.outlet.refusal? = some e) :
    Ends ((session F formats filter).tell text) w (some (.error (.fault (.unprintable e.message)))) w :=
  (ends_out_refused F formats _ refused).bind (.pure _ _)

/-- A line that names a file is taken. -/
theorem ends_take_found {w : Surroundings σ} {settings : Settings} {name : String}
    (file : F.isFile w.files (settings.entered name) = true) :
    Ends ((session F formats filter).take settings (some name)) w (some (.ok (settings.entered name))) w := by
  refine (ends_isFile F formats w _).bind ?_
  rw [if_pos]
  · exact .pure _ w
  · exact file

/-- Of a line that names no file it is said that it does not. -/
theorem ends_take_missing {w : Surroundings σ} {settings : Settings} {name : String}
    (taken : w.outlet.refusal? = none) (file : F.isFile w.files (settings.entered name) = false) :
    Ends ((session F formats filter).take settings (some name)) w none
      (w.print s!"File {settings.entered name} not found\n") := by
  refine (ends_isFile F formats w _).bind ?_
  rw [if_neg]
  · exact ends_tell F formats filter _ taken
  · exact Bool.eq_false_iff.mp file

section Lines

variable {α : Type} {ask : StateM (Surroundings σ) (Option α)}
  {take : Option String → StateM (Surroundings σ) (Option α)} {line : ByteArray}
  {lines : List ByteArray} {w asked looked : Surroundings σ}

/-- A line that is answered is the last that is taken. -/
private theorem Ends.answered {a : α} (asks : Ends ask w none asked)
    (answers : Ends (take (String.fromUTF8? line)) { asked with input := lines } (some a) looked) :
    Ends (untilAnswered ask take (line :: lines)) w (some a) looked := by
  have read : Ends (modify fun w => { w with input := lines }) asked () { asked with input := lines } :=
    fun noise => ⟨noise, rfl⟩
  exact asks.bind (read.bind (answers.bind (.pure _ _)))

/-- Behind a line that is not answered come the others. -/
private theorem Ends.unanswered {a? : Option α} {w' : Surroundings σ} (asks : Ends ask w none asked)
    (answers : Ends (take (String.fromUTF8? line)) { asked with input := lines } none looked)
    (later : Ends (untilAnswered ask take lines) looked a? w') :
    Ends (untilAnswered ask take (line :: lines)) w a? w' := by
  have read : Ends (modify fun w => { w with input := lines }) asked () { asked with input := lines } :=
    fun noise => ⟨noise, rfl⟩
  exact asks.bind (read.bind (answers.bind later))

end Lines

/-- The lines of the input are taken as the prompt takes them, where all that it says is printed. -/
private theorem ends_untilAnswered (settings : Settings) {lines : List ByteArray} {w : Surroundings σ}
    (taken : w.outlet.refusal? = none) (input : w.input = lines) :
    ∃ answer? rest dialogue, Prompts F w.files settings lines answer? rest dialogue ∧
      Ends (untilAnswered ((session F formats filter).tell "Enter a file's name\n")
        ((session F formats filter).take settings) lines) w answer? (w.after w.files rest dialogue) := by
  induction lines generalizing w with
  | nil =>
    refine ⟨none, [], _, .ended, ?_⟩
    unfold untilAnswered
    rw [← input]
    exact ends_tell F formats filter _ taken
  | cons line lines ih =>
    have asks := ends_tell F formats filter "Enter a file's name\n" taken
    -- the surroundings in which a line is looked at
    let asked : Surroundings σ := w.after w.files lines "Enter a file's name\n"
    cases decoded : String.fromUTF8? line with
    | none =>
      refine ⟨_, lines, _, .unreadable decoded, asks.answered ?_⟩
      rw [decoded]
      exact .pure _ asked
    | some name =>
      cases file : F.isFile w.files (settings.entered name) with
      | true =>
        refine ⟨_, lines, _, .found decoded file, asks.answered ?_⟩
        rw [decoded]
        exact ends_take_found F formats filter (w := asked) file
      | false =>
        let said := s!"File {settings.entered name} not found\n"
        have left : (asked.print said).input = lines := rfl
        obtain ⟨answer?, rest, dialogue, prompts, ends⟩ := ih (w := asked.print said) taken left
        rw [after_after, after_after] at ends
        refine ⟨answer?, rest, _, .missing decoded file prompts, asks.unanswered ?_ ends⟩
        rw [decoded]
        exact ends_take_missing F formats filter (w := asked) taken file

/-- The prompt ends as its host takes the lines of the input. -/
private theorem ends_prompt {settings : Settings} {w w' : Surroundings σ}
    {answer? : Option (Except Interruption String)}
    (lines : Ends (untilAnswered ((session F formats filter).tell "Enter a file's name\n")
      ((session F formats filter).take settings) w.input) w answer? w') :
    Ends ((session F formats filter).promptForSource settings).run w
      (answer?.getD (.error (.failure .noSource))) w' := by
  have taken : Ends ((host F formats).untilAnswered ((session F formats filter).tell "Enter a file's name\n")
      ((session F formats filter).take settings)) w answer? w' := fun noise => lines noise
  refine .lift taken ?_
  match answer? with
  | none => exact .pure _ _
  | some (.ok path) => exact .pure _ _
  | some (.error e) => exact .pure _ _

/-- **The prompt ends with its dialogue**, whatever the lines of the input are. -/
theorem ends_promptForSource (settings : Settings) {w : Surroundings σ}
    (taken : w.outlet.refusal? = none) :
    ∃ answer? rest dialogue, Prompts F w.files settings w.input answer? rest dialogue ∧
      Ends ((session F formats filter).promptForSource settings).run w
        (answer?.getD (.error (.failure .noSource))) (w.after w.files rest dialogue) := by
  obtain ⟨answer?, rest, dialogue, prompts, ends⟩ :=
    ends_untilAnswered F formats filter settings taken rfl
  exact ⟨answer?, rest, dialogue, prompts, ends_prompt F formats filter ends⟩

/-- A prompt that nobody can see is the end. -/
theorem ends_promptForSource_refused (settings : Settings) {w : Surroundings σ} {e : AccessError}
    (refused : w.outlet.refusal? = some e) :
    Ends ((session F formats filter).promptForSource settings).run w
      (.error (.fault (.unprintable e.message))) w := by
  have asks := ends_tell_refused F formats filter "Enter a file's name\n" refused
  have stops : Ends (untilAnswered ((session F formats filter).tell "Enter a file's name\n")
      ((session F formats filter).take settings) w.input) w
      (some (.error (.fault (.unprintable e.message)))) w := by
    cases w.input with
    | nil => exact asks
    | cons line lines => exact asks.bind (.pure _ w)
  exact ends_prompt F formats filter stops

/-! ## The analysis -/

theorem ends_scan (w : Surroundings σ) (text : String) :
    Ends ((session F formats filter).scan text) w (tokenize text.toList) w := by
  have logged : ∀ tokens : List Token,
      Ends (tokens.forM fun t => (session F formats filter).log (.token t)) w () w := by
    intro tokens
    induction tokens with
    | nil => exact .pure () w
    | cons t tokens ih => exact (ends_log F formats filter w _).bind ih
  exact (logged _).bind ((ends_log F formats filter w _).bind (.pure _ w))

/-- **Errors are all shown, or the first that cannot be ends the session.** -/
theorem ends_showErrors (w : Surroundings σ) (text file : String) (errors : List LocatedError) :
    ((∀ e ∈ errors, ∃ shown, Diagnostic.render e text.toList file = .ok shown) ∧
      Ends ((session F formats filter).showErrors text file errors).run w (.ok ()) w) ∨
    ((¬ ∀ e ∈ errors, ∃ shown, Diagnostic.render e text.toList file = .ok shown) ∧
      ∃ f, Ends ((session F formats filter).showErrors text file errors).run w (.error (.fault f)) w) := by
  unfold Session.showErrors
  induction errors with
  | nil => exact .inl ⟨by simp, .pure _ w⟩
  | cons e errors ih =>
    cases drawn : Diagnostic.render e text.toList file with
    | error f =>
      refine .inr ⟨fun all => ?_, f, .forM_error ?_⟩
      · obtain ⟨shown, h⟩ := all e (List.mem_cons_self ..)
        cases drawn.symm.trans h
      · rw [drawn]
        exact .pure _ w
    | ok shown =>
      rcases ih with ⟨all, ends⟩ | ⟨some, f, ends⟩
      · refine .inl ⟨List.forall_mem_cons.mpr ⟨⟨shown, drawn⟩, all⟩, .forM_cons ?_ ends⟩
        rw [drawn]
        exact (ends_err F formats w shown).lifted
      · refine .inr ⟨fun all => some (List.forall_mem_cons.mp all).2, f, .forM_cons ?_ ends⟩
        rw [drawn]
        exact (ends_err F formats w shown).lifted

theorem ends_writeReport_ok {w : Surroundings σ} {path : String} {tokens : List Token} {files : σ}
    (write : F.write w.files path (Report.render false tokens) = .ok files) :
    Ends ((session F formats filter).writeReport path tokens).run w (.ok ()) { w with files := files } :=
  .lift (ends_write_ok F formats write) (ends_log F formats filter _ _).lifted

theorem ends_writeReport_error {w : Surroundings σ} {path : String} {tokens : List Token}
    {e : AccessError} (write : F.write w.files path (Report.render false tokens) = .error e) :
    Ends ((session F formats filter).writeReport path tokens).run w
      (.error (.failure (.access path e))) w :=
  .lift (ends_write_error F formats write) (.pure _ w)

/-- **What follows a printed report** ends as an analysis does. -/
theorem ends_follow {w : Surroundings σ} {settings : Settings} {output? : Option String}
    {source text : String} (read : F.read w.files source = .ok text) (taken : w.outlet.refusal? = none) :
    ∃ answer files, Analyses F w.files w.outlet settings output? source answer files
        (reportOn (settings.color.useColors w.outlet.terminal) text) ∧
      Ends ((session F formats filter).follow settings output? source text (tokenize text.toList)).run
        (w.print (reportOn (settings.color.useColors w.outlet.terminal) text)) answer
        (w.after files w.input (reportOn (settings.color.useColors w.outlet.terminal) text)) := by
  unfold Session.follow
  let printing := w.print (reportOn (settings.color.useColors w.outlet.terminal) text)
  have last : ∀ w', Ends (if ((tokenize text.toList).filterMap Token.located?).isEmpty then pure .clean
      else do
        (session F formats filter).log
          (.unclean ((tokenize text.toList).filterMap Token.located?).length source)
        pure .unclean : SessionM (StateM (Surroundings σ)) Verdict).run w' (.ok (verdictOn text)) w' := by
    intro w'
    unfold verdictOn
    split
    · exact .pure _ w'
    · exact .lift (ends_log F formats filter w' _) (.pure _ w')
  rcases ends_showErrors F formats filter printing text source
    ((tokenize text.toList).filterMap Token.located?) with ⟨all, shown⟩ | ⟨some, f, shown⟩
  · cases writes : settings.writeReport with
    | false => exact ⟨_, w.files, .unreported read taken all writes, .bind_ok shown (last _)⟩
    | true =>
      cases write : F.write w.files (output?.getD (settings.reportPath source)) (reportOn false text) with
      | error e =>
        exact ⟨_, w.files, .unwritten read taken all writes write,
          .bind_ok shown (.bind_error (ends_writeReport_error F formats filter write))⟩
      | ok files =>
        exact ⟨_, files, .written read taken all writes write,
          .bind_ok shown (.bind_ok (ends_writeReport_ok F formats filter write) (last _))⟩
  · exact ⟨_, w.files, .faulty (f := f) read taken some, .bind_error shown⟩

/-- **An analysis ends** in one of its ways. -/
theorem ends_analyse (w : Surroundings σ) (settings : Settings) (output? : Option String)
    (source : String) :
    ∃ answer files printed, Analyses F w.files w.outlet settings output? source answer files printed ∧
      Ends ((session F formats filter).analyse settings output? source).run w answer
        (w.after files w.input printed) := by
  unfold Session.analyse
  have scanned := ends_scan F formats filter w
  have terminal := ends_isTerminal F formats w
  cases read : F.read w.files source with
  | error e =>
    refine ⟨_, w.files, _, .unread read, .lift (ends_read F formats w source) ?_⟩
    rw [read, after_self]
    exact .pure _ w
  | ok text =>
    cases taken : w.outlet.refusal? with
    | some e =>
      refine ⟨_, w.files, _, .unprinted read taken, .lift (ends_read F formats w source) ?_⟩
      rw [read, after_self]
      exact .lift (scanned text) (.lift terminal (.lift (ends_out_refused F formats _ taken) (.pure _ w)))
    | none =>
      obtain ⟨answer, files, analyses, follows⟩ := ends_follow F formats filter read taken
      refine ⟨answer, files, _, analyses, .lift (ends_read F formats w source) ?_⟩
      rw [read]
      exact .lift (scanned text) (.lift terminal (.lift (ends_out F formats _ taken) follows))

/-! ## The session -/

/-- **A source is found or the session ends.** -/
theorem ends_source (w : Surroundings σ) (settings : Settings) (file? : Option String) :
    ∃ answer rest dialogue, Finds F w settings file? answer rest dialogue ∧
      Ends ((session F formats filter).source settings file?).run w answer (w.after w.files rest dialogue) := by
  cases file? with
  | some path =>
    refine ⟨_, _, _, .given, ?_⟩
    rw [after_self]
    exact .pure _ w
  | none =>
    cases taken : w.outlet.refusal? with
    | none =>
      obtain ⟨answer?, rest, dialogue, prompts, ends⟩ := ends_promptForSource F formats filter settings taken
      exact ⟨_, rest, dialogue, .prompted taken prompts, ends⟩
    | some e =>
      refine ⟨_, _, _, .unseen taken, ?_⟩
      rw [after_self]
      exact ends_promptForSource_refused F formats filter settings taken

theorem ends_conclude (w : Surroundings σ) (settings : Settings) (verdict : Verdict) :
    Ends ((session F formats filter).conclude settings verdict) w
      (verdict.status settings.denyErrors) w := by
  cases verdict with
  | clean => exact .pure _ w
  | unclean => exact .pure _ w
  | unprinted e => exact (ends_log F formats filter w _).bind (.pure _ w)

/-- **A session ends** in one of its ways. -/
theorem ends_exitStatus (w : Surroundings σ) (o : Options) :
    ∃ status files rest printed, Courses F formats w o status files rest printed ∧
      Ends ((session F formats filter).exitStatus o).run w status (w.after files rest printed) := by
  rcases ends_loadSettings F formats filter w o.config? with ⟨settings, loads, ends⟩ | ⟨none, f, ends⟩
  · have log := ends_log F formats filter w (.effective (o.apply settings))
    obtain ⟨answer, rest, dialogue, finds, found⟩ :=
      ends_source F formats filter w (o.apply settings) o.file?
    cases answer with
    | error e =>
      exact ⟨_, _, _, _, .unfound loads finds, .bind_ok ends (.lift log (.bind_error found))⟩
    | ok source =>
      obtain ⟨answer, files, printed, analyses, analysed⟩ :=
        ends_analyse F formats filter (w.after w.files rest dialogue) (o.apply settings) o.output? source
      refine ⟨_, files, rest, _, .analysed loads finds analyses,
        .bind_ok ends (.lift log (.bind_ok found ?_))⟩
      rw [after_after] at analysed
      cases answer with
      | error e => exact .bind_error analysed
      | ok verdict => exact .bind_ok analysed (ends_conclude F formats filter _ _ verdict).lifted
  · refine ⟨_, _, _, _, .unsettled (f := f) none, ?_⟩
    rw [after_self]
    exact .bind_error ends

/-! ## The program -/

/-- The exit status of the program for what its session came to. -/
def statusOf : Except Interruption Nat → Nat
  | .ok status => status
  | .error (.failure _) => 1
  | .error (.fault _) => 101

/-- **The program runs its session** and ends in one of its ways. -/
theorem ends_runProgram {arguments : List String} {environment : Environment} {o : Options}
    (asked : formats.command arguments environment = .ok (.analyse o)) (w : Surroundings σ) :
    ∃ status files rest printed, Courses F formats w o status files rest printed ∧
      Ends (runProgram (host F formats) arguments environment) w (statusOf status)
        (w.after files rest printed) := by
  obtain ⟨status, files, rest, printed, courses, ends⟩ :=
    ends_exitStatus F formats (formats.filter o.verbose (environment.lookup "RUST_LOG")) w o
  refine ⟨status, files, rest, printed, courses, ?_⟩
  have command : (host F formats).formats.command arguments environment = .ok (.analyse o) := asked
  unfold runProgram
  rw [command]
  refine ends.bind ?_
  match status with
  | .ok status => exact .pure _ _
  | .error (.failure f) => exact (ends_log F formats _ _ _).bind (.pure _ _)
  | .error (.fault f) => exact (ends_err F formats _ _).bind (.pure _ _)

/-- What is printed for a wish other than to analyse a source is printed, or it is not. -/
private theorem ends_out_either (w : Surroundings σ) (text : String) :
    ∃ answer printed, Ends ((host F formats).out text) w answer (w.print printed) := by
  cases taken : w.outlet.refusal? with
  | none => exact ⟨_, _, ends_out F formats text taken⟩
  | some e =>
    refine ⟨.error e, "", ?_⟩
    rw [print, after_self]
    exact ends_out_refused F formats text taken

/-- What is not a wish to analyse a source changes no file. -/
theorem ends_runProgram_other {arguments : List String} {environment : Environment}
    (other : ∀ o, formats.command arguments environment ≠ .ok (.analyse o)) (w : Surroundings σ) :
    ∃ status printed,
      Ends (runProgram (host F formats) arguments environment) w status (w.print printed) := by
  have command : (host F formats).formats.command = formats.command := rfl
  unfold runProgram
  rw [command]
  match asked : formats.command arguments environment with
  | .error e =>
    refine ⟨2, "", ?_⟩
    rw [print, after_self]
    exact (ends_err F formats w _).bind (.pure _ w)
  | .ok .help =>
    obtain ⟨answer, printed, ends⟩ := ends_out_either F formats w (Command.helpText environment)
    exact ⟨0, printed, ends.bind (.pure _ _)⟩
  | .ok .version =>
    obtain ⟨answer, printed, ends⟩ := ends_out_either F formats w Command.versionText
    exact ⟨0, printed, ends.bind (.pure _ _)⟩
  | .ok (.analyse o) => exact absurd asked (other o)

end Lexis.Surroundings
