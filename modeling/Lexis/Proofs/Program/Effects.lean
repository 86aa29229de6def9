import Lexis.Proofs.Program.FileTree
import Lexis.Proofs.Program.Session

/-!
# What a run does to the files

A run writes one file at most, and only when everything in front of that went well: the report on the
source (`Reports`), at the place that the options or the settings name. Once it is written, the file there
holds the report and all other files hold what they held (`Kept`). Whatever goes wrong before, or when the
report is not wanted, the files are those of before the run (`effects_run`).

This is so in every file system that keeps what is written to it, and for any formats of command lines and
of settings.
-/

set_option autoImplicit false

namespace Lexis.Surroundings

section Effects

variable {σ Place : Type} (F : FileSystem σ) (formats : Formats) (leads? : σ → String → Option Place)
  (content? : σ → Place → Option ByteArray) (w : Surroundings σ) (arguments : List String)
  (environment : Environment)

/-- **A run gets as far as its report**: it was asked to analyse a source, the settings were loaded, a
source was found and is text, the report could be printed and all errors shown, and a report is wanted and
not refused. -/
structure Reporting (o : Options) (settings : Settings) (source text : String) : Prop where
  asked : formats.command arguments environment = .ok (.analyse o)
  loads : Loads F formats w.files o.config? settings
  finds : ∃ rest dialogue, Finds F w (o.apply settings) o.file? (.ok source) rest dialogue
  read : F.read w.files source = .ok text
  printed : w.outlet.refusal? = none
  showable : Showable source text
  allowed : o.noReport = false
  wanted : o.output?.isSome = true ∨ settings.writeReport = true

/-- **A run reports** to a file that the options name or that is named after the source, and what it
reports is the report without colours. -/
def Reports (target content : String) : Prop :=
  ∃ o settings source text, Reporting F formats w arguments environment o settings source text ∧
    target = o.output?.getD (source ++ "." ++ settings.reportExtension) ∧
    content = Report.render false (tokenize text.toList)

/-- The files after a run. -/
def filesAfter : σ := (w.run F formats arguments environment).2.files

/-- **A text is kept**: it was written, so that the target is a file that holds it, and whoever can read
that file reads the text. All other files hold what they held. -/
structure Kept (files files' : σ) (target text : String) : Prop where
  written : F.write files target text = .ok files'
  file : F.isFile files' target = true
  read : ∀ found, F.read files' target = .ok found → found = text
  place : ∃ place, leads? files' target = some place ∧ content? files' place = some text.toUTF8 ∧
    ∀ other, other ≠ place → content? files' other = content? files other

/-- **What a run does to the files.** -/
structure Effects : Prop where
  /-- A run that reports leaves its report, or the files as they were where it cannot be written. -/
  reported : ∀ target content, Reports F formats w arguments environment target content →
    Kept F leads? content? w.files (filesAfter F formats w arguments environment) target content ∨
      (∃ e, F.write w.files target content = .error e) ∧
        filesAfter F formats w arguments environment = w.files
  /-- Every other run leaves the files as they were. -/
  unreported : (∀ target content, ¬ Reports F formats w arguments environment target content) →
    filesAfter F formats w arguments environment = w.files
  /-- A file that changes is the one that is reported to. -/
  changed : ∀ place,
    content? (filesAfter F formats w arguments environment) place ≠ content? w.files place →
    ∃ target content, Reports F formats w arguments environment target content ∧
      leads? (filesAfter F formats w arguments environment) target = some place ∧
      content? (filesAfter F formats w arguments environment) place = some content.toUTF8
  /-- No two files change. -/
  single : ∀ place other,
    content? (filesAfter F formats w arguments environment) place ≠ content? w.files place →
    content? (filesAfter F formats w arguments environment) other ≠ content? w.files other →
    place = other

end Effects

variable {σ Place : Type} {F : FileSystem σ} {formats : Formats} {leads? : σ → String → Option Place}
  {content? : σ → Place → Option ByteArray} {w : Surroundings σ} {arguments : List String}
  {environment : Environment}

/-! ## One report -/

/-- There is one way to get as far as a report. -/
theorem Reporting.unique {o o' : Options} {settings settings' : Settings} {source source' text text' : String}
    (reporting : Reporting F formats w arguments environment o settings source text)
    (reporting' : Reporting F formats w arguments environment o' settings' source' text') :
    o = o' ∧ settings = settings' ∧ source = source' ∧ text = text' := by
  cases reporting.asked.symm.trans reporting'.asked
  obtain ⟨rest, dialogue, finds⟩ := reporting.finds
  obtain ⟨rest', dialogue', finds'⟩ := reporting'.finds
  obtain ⟨rfl, found, -⟩ := reporting.loads.finds_unique finds reporting'.loads finds'
  cases found
  cases reporting.read.symm.trans reporting'.read
  exact ⟨rfl, rfl, rfl, rfl⟩

/-- Two reports of a run are one. -/
theorem Reports.unique {target target' content content' : String}
    (reports : Reports F formats w arguments environment target content)
    (reports' : Reports F formats w arguments environment target' content') :
    target = target' ∧ content = content' := by
  obtain ⟨o, settings, source, text, reporting, rfl, rfl⟩ := reports
  obtain ⟨o', settings', source', text', reporting', rfl, rfl⟩ := reports'
  obtain ⟨rfl, rfl, rfl, rfl⟩ := reporting.unique reporting'
  exact ⟨rfl, rfl⟩

/-- A report is written when it is wanted and not refused. -/
theorem writeReport_apply {o : Options} {settings : Settings} :
    (o.apply settings).writeReport = true ↔
      o.noReport = false ∧ (o.output?.isSome = true ∨ settings.writeReport = true) := by
  simp [Options.apply, and_comm, or_comm]

/-! ## What is written -/

/-- A file system keeps what is written to it. -/
theorem kept_of_write (lawful : F.Lawful leads? content?) {files files' : σ} {target text : String}
    (write : F.write files target text = .ok files') :
    Kept F leads? content? files files' target text := by
  obtain ⟨place, leads, holds, others⟩ := lawful.content_of_write files target text files' write
  refine ⟨write, ?_, fun found read => ?_, place, leads, holds, others⟩
  · exact (lawful.isFile_iff files' target).mpr ⟨place, leads, by rw [holds]; rfl⟩
  · have bytes := lawful.content_of_read files' target found place _ read leads holds
    exact (String.toByteArray_inj.mp bytes).symm

/-- The files after writing are those that the write gives, or those of before if it fails. -/
def AfterWrite (F : FileSystem σ) (files : σ) (target content : String) (files' : σ) : Prop :=
  F.write files target content = .ok files' ∨
    (∃ e, F.write files target content = .error e) ∧ files' = files

/-- **An analysis writes its report or leaves the files alone**, as its source cannot be read, the report
printed or the errors shown, or the report is not wanted. -/
private theorem files_analysed {files files' : σ} {outlet : Outlet} {settings : Settings}
    {output? : Option String} {source printed : String} {answer : Except Interruption Verdict}
    (analyses : Analyses F files outlet settings output? source answer files' printed) :
    (∃ text, F.read files source = .ok text ∧ outlet.refusal? = none ∧ Showable source text ∧
      settings.writeReport = true ∧
      AfterWrite F files (output?.getD (settings.reportPath source)) (reportOn false text) files') ∨
    ((∀ text, F.read files source = .ok text → outlet.refusal? = none → Showable source text →
      settings.writeReport = false) ∧ files' = files) := by
  cases analyses with
  | unread failed =>
    refine .inr ⟨fun text read => ?_, rfl⟩
    cases failed.symm.trans read
  | unprinted _ refused =>
    refine .inr ⟨fun _ _ taken => ?_, rfl⟩
    cases refused.symm.trans taken
  | faulty read _ hidden =>
    refine .inr ⟨fun text read' _ showable => ?_, rfl⟩
    cases read.symm.trans read'
    exact absurd showable hidden
  | unreported _ _ _ unwanted => exact .inr ⟨fun _ _ _ _ => unwanted, rfl⟩
  | unwritten read taken showable wanted write =>
    exact .inl ⟨_, read, taken, showable, wanted, .inr ⟨⟨_, write⟩, rfl⟩⟩
  | written read taken showable wanted write =>
    exact .inl ⟨_, read, taken, showable, wanted, .inl write⟩

/-- **A session writes the report of the run or leaves the files alone.** -/
private theorem files_coursed {o : Options} {status : Except Interruption Nat} {files' : σ}
    {rest : List ByteArray} {printed : String}
    (asked : formats.command arguments environment = .ok (.analyse o))
    (courses : Courses F formats w o status files' rest printed) :
    (∃ target content, Reports F formats w arguments environment target content ∧
      AfterWrite F w.files target content files') ∨
    ((∀ target content, ¬ Reports F formats w arguments environment target content) ∧
      files' = w.files) := by
  -- a run that reports has the options of the session
  have silent : (∀ settings source text,
        ¬ Reporting F formats w arguments environment o settings source text) →
      ∀ target content, ¬ Reports F formats w arguments environment target content := by
    rintro none target content ⟨o', settings, source, text, reporting, -, -⟩
    cases asked.symm.trans reporting.asked
    exact none settings source text reporting
  cases courses with
  | unsettled none => exact .inr ⟨silent fun settings _ _ h => none settings h.loads, rfl⟩
  | unfound loads finds =>
    refine .inr ⟨silent fun settings source text h => ?_, rfl⟩
    obtain ⟨rest', dialogue', finds'⟩ := h.finds
    obtain ⟨-, found, -⟩ := loads.finds_unique finds h.loads finds'
    cases found
  | @analysed settings source _ _ _ _ _ loads finds analyses =>
    rcases files_analysed analyses with ⟨text, read, taken, showable, wanted, written⟩ | ⟨unwanted, same⟩
    · obtain ⟨allowed, wanted⟩ := writeReport_apply.mp wanted
      exact .inl ⟨_, _, ⟨o, settings, source, text, ⟨asked, loads, ⟨_, _, finds⟩, read, taken, showable,
        allowed, wanted⟩, rfl, rfl⟩, written⟩
    · refine .inr ⟨silent fun settings' source' text h => ?_, same⟩
      obtain ⟨rest', dialogue', finds'⟩ := h.finds
      obtain ⟨rfl, found, -⟩ := loads.finds_unique finds h.loads finds'
      cases found
      have wanted := writeReport_apply.mpr ⟨h.allowed, h.wanted⟩
      rw [unwanted text h.read h.printed h.showable] at wanted
      cases wanted

/-- **The files after a run** are those that writing the report gives, if the run reports and writing does
not fail, and otherwise those of before. -/
theorem files_run (F : FileSystem σ) (formats : Formats) (w : Surroundings σ) (arguments : List String)
    (environment : Environment) :
    (∃ target content, Reports F formats w arguments environment target content ∧
      AfterWrite F w.files target content (filesAfter F formats w arguments environment)) ∨
    ((∀ target content, ¬ Reports F formats w arguments environment target content) ∧
      filesAfter F formats w arguments environment = w.files) := by
  have after : ∀ {status w'}, Ends (runProgram (host F formats) arguments environment) w status w' →
      filesAfter F formats w arguments environment = w'.files := by
    intro status w' ends
    obtain ⟨noise, ends⟩ := ends w.stderr
    exact congrArg (·.2.files) ends
  by_cases asked : ∃ o, formats.command arguments environment = .ok (.analyse o)
  · obtain ⟨o, asked⟩ := asked
    obtain ⟨status, files, rest, printed, courses, ends⟩ := ends_runProgram F formats asked w
    rw [after ends]
    exact files_coursed asked courses
  · obtain ⟨status, printed, ends⟩ := ends_runProgram_other F formats
      (fun o (h : formats.command arguments environment = _) => asked ⟨o, h⟩) w
    rw [after ends]
    refine .inr ⟨?_, rfl⟩
    rintro target content ⟨o, settings, source, text, reporting, -, -⟩
    exact asked ⟨o, reporting.asked⟩

/-- A run that leaves the files as they were has no effects to account for, if it reports nothing or its
report cannot be written. -/
private theorem effects_of_same (same : filesAfter F formats w arguments environment = w.files)
    (failed : ∀ target content, Reports F formats w arguments environment target content →
      ∃ e, F.write w.files target content = .error e) :
    Effects F formats leads? content? w arguments environment where
  reported target content reports := .inr ⟨failed target content reports, same⟩
  unreported _ := same
  changed place changed := absurd (by rw [same]) changed
  single place _ changed _ := absurd (by rw [same]) changed

/-- A run that writes its report has no other effect. -/
private theorem effects_of_kept {target content : String}
    (reports : Reports F formats w arguments environment target content)
    (kept : Kept F leads? content? w.files (filesAfter F formats w arguments environment) target content) :
    Effects F formats leads? content? w arguments environment := by
  obtain ⟨place, leads, holds, others⟩ := kept.place
  have changes : ∀ other, content? (filesAfter F formats w arguments environment) other ≠
      content? w.files other → other = place :=
    fun other changed => Classical.byContradiction fun apart => changed (others other apart)
  refine ⟨fun target' content' reports' => ?_, fun none => absurd reports (none _ _),
    fun other changed => ?_, fun other other' changed changed' => ?_⟩
  · obtain ⟨rfl, rfl⟩ := reports.unique reports'
    exact .inl kept
  · obtain rfl := changes other changed
    exact ⟨target, content, reports, leads, holds⟩
  · rw [changes other changed, changes other' changed']

/-- **A run changes one file at most**, the one that it reports to, in every file system and for all
formats of command lines and of settings. -/
theorem effects_run (lawful : F.Lawful leads? content?) (formats : Formats) (w : Surroundings σ)
    (arguments : List String) (environment : Environment) :
    Effects F formats leads? content? w arguments environment := by
  rcases files_run F formats w arguments environment with
    ⟨target, content, reports, write | ⟨failed, same⟩⟩ | ⟨none, same⟩
  · exact effects_of_kept reports (kept_of_write lawful write)
  · refine effects_of_same same fun target' content' reports' => ?_
    obtain ⟨rfl, rfl⟩ := reports.unique reports'
    exact failed
  · exact effects_of_same same fun target content reports => absurd reports (none target content)

/-- A report goes where its path leads, out of the working directory and from a source anywhere, though
the settings do not ask for one. -/
theorem effects_run_outside :
    let F := FileTree.system World.directory
    let settings := (World.directory ++ [Settings.fileName], TreeEntry.file "write_report = false".toUTF8)
    let w : World := start ⟨[settings, (["src", "A"], .file "a;".toUTF8)]⟩ ByteArray.empty
    let arguments := ["/src/A", "--output", "../report"]
    (F.Lawful (FileTree.locate? World.directory) FileTree.content? ∧
      Reports F .standard w arguments [] "../report" (Report.render false (tokenize ['a', ';'])) ∧
      F.isFile (filesAfter F .standard w arguments []) "/home/report" = true) ∧
    Effects F .standard (FileTree.locate? World.directory) FileTree.content? w arguments [] := by
  intro F settings w arguments
  have lawful := FileTree.lawful_system World.directory
  refine ⟨⟨lawful, ?_, by decide +kernel⟩, effects_run lawful .standard w arguments []⟩
  let o : Options := ⟨some "/src/A", none, some "../report", false, false, false, false⟩
  let chosen : Settings := { Settings.default with writeReport := false }
  have asked : Formats.standard.command arguments [] = .ok (.analyse o) :=
    toOption_eq_some.mp (by decide +kernel)
  have loads : Loads F .standard w.files none chosen :=
    .usual (by decide +kernel) ⟨"write_report = false", toOption_eq_some.mp (by decide +kernel),
      toOption_eq_some.mp (by decide +kernel)⟩
  have read : F.read w.files "/src/A" = .ok "a;" := toOption_eq_some.mp (by decide +kernel)
  have clean : (tokenize ['a', ';']).filterMap Token.located? = [] := by decide +kernel
  have showable : Showable "/src/A" "a;" := fun e member => absurd (clean ▸ member) List.not_mem_nil
  exact ⟨o, chosen, "/src/A", "a;", ⟨asked, loads, ⟨_, _, .given⟩, read, rfl, showable, rfl, .inl rfl⟩,
    rfl, rfl⟩

end Lexis.Surroundings
