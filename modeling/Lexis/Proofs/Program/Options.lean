import Lexis.Program.Host
import Lexis.Proofs.Program.FileTree

/-!
# What a command line comes to

Whether errors are denied can be said in two ways on a command line: by a flag among the arguments, or by a
variable of the environment (`Formats.InheritsDenyErrors`). The program's own command lines are such: their
arguments are read from left to right, and reading stops early at a mistake or at a wish for help or for the
version, never at a wish to analyse a source (`StopsShort.readArguments`). So what they ask of an analysis is
what all the arguments give, completed from the environment.
-/

set_option autoImplicit false

namespace Lexis

/-- Errors are denied by the arguments alone, in an environment that says nothing. -/
def Formats.DeniesErrors (formats : Formats) (arguments : List String) : Prop :=
  ∃ o, formats.command arguments [] = .ok (.analyse o) ∧ o.denyErrors = true

/-- **What is relied on of command lines**: whether errors are denied is taken from the arguments, or else
from the environment. -/
def Formats.InheritsDenyErrors (formats : Formats) : Prop :=
  ∀ arguments environment o, formats.command arguments environment = .ok (.analyse o) →
    (o.denyErrors = true ↔ formats.DeniesErrors arguments ∨
      environment.lookup "JAVALEX_DENY_ERRORS" = some "true")

namespace Command

variable {arguments : List String} {environment : Environment} {o : Options} {α β : Type}

/-- A reading of arguments does not stop with an analysis: only help and the version are met at once. -/
def StopsShort (reading : Except Stop α) : Prop := ∀ o, reading ≠ .error (.wish (.analyse o))

namespace StopsShort

theorem ok (a : α) : StopsShort (.ok a) := fun _ => nofun

theorem mistake (e : UsageError) : StopsShort (.error (.mistake e) : Except Stop α) := fun _ => nofun

theorem bind {x : Except Stop α} {f : α → Except Stop β} (first : StopsShort x)
    (second : ∀ a, StopsShort (f a)) : StopsShort (x >>= f) := by
  intro o stop
  cases x with
  | ok a => exact second a o stop
  | error e =>
    obtain rfl := Except.error.inj stop
    exact first o rfl

theorem setValue (o : Options) (s : Switch) (value : String) : StopsShort (setValue o s value) := by
  intro o'
  unfold Command.setValue
  repeat' split
  all_goals nofun

theorem setFlag (o : Options) (s : Switch) : StopsShort (setFlag o s) := by
  intro o'
  unfold Command.setFlag
  cases s <;> simp only <;> try split
  all_goals nofun

theorem setFile (o : Options) (file : String) : StopsShort (setFile o file) := by
  intro o'
  unfold Command.setFile
  repeat' split
  all_goals nofun

theorem readLetters (o : Options) (letters : List Char) : StopsShort (readLetters o letters) := by
  induction letters generalizing o with
  | nil => exact ok _
  | cons letter letters ih =>
    unfold Command.readLetters
    split
    · exact mistake _
    · split
      · split
        · exact ok _
        · exact (setValue _ _ _).bind fun _ => ok _
        · exact (setValue _ _ _).bind fun _ => ok _
      · exact (setFlag _ _).bind fun o => ih o

theorem readName (o : Options) (text : List Char) : StopsShort (readName o text) := by
  unfold Command.readName
  simp only
  split
  · exact mistake _
  · split
    · exact (setValue _ _ _).bind fun _ => ok _
    · exact mistake _
  · split
    · exact ok _
    · exact (setFlag _ _).bind fun _ => ok _

theorem files (o : Options) (arguments : List String) :
    StopsShort (arguments.foldlM Command.setFile o) := by
  induction arguments generalizing o with
  | nil => exact ok _
  | cons argument arguments ih => exact (setFile o argument).bind ih

theorem readArguments (o : Options) (waiting : Option Switch) (arguments : List String) :
    StopsShort (readArguments o waiting arguments) := by
  induction arguments generalizing o waiting with
  | nil =>
    unfold Command.readArguments
    split
    · exact mistake _
    · exact ok _
  | cons argument arguments ih =>
    unfold Command.readArguments
    split
    · split
      · exact mistake _
      · exact (setValue _ _ _).bind fun o => ih o none
    · split
      · exact files o arguments
      · exact (readName _ _).bind fun (o, waiting) => ih o waiting
      · exact (readLetters _ _).bind fun (o, waiting) => ih o waiting
      · exact (setFile _ _).bind fun o => ih o none

end StopsShort

/-- A flag is set by the arguments or by the environment. -/
theorem flagFrom_eq_ok {name : String} {given flag : Bool}
    (read : flagFrom environment name given = .ok flag) :
    flag = true ↔ given = true ∨ environment.lookup name = some "true" := by
  unfold flagFrom at read
  split at read
  · next here =>
    cases read
    simp [here]
  · next absent =>
    split at read
    · next unset =>
      cases read
      simp [absent, unset]
    · next set =>
      cases read
      simp [set]
    · next set =>
      cases read
      simp [absent, set]
    · cases read

private theorem denyErrors_withEnvironment {given : Options}
    (completed : withEnvironment environment given = .ok o) :
    o.denyErrors = true ↔
      given.denyErrors = true ∨ environment.lookup "JAVALEX_DENY_ERRORS" = some "true" := by
  unfold withEnvironment at completed
  simp only at completed
  split at completed
  all_goals
    obtain ⟨config?, -, completed⟩ := exists_of_bind_eq_ok completed
    obtain ⟨noColor, -, completed⟩ := exists_of_bind_eq_ok completed
    obtain ⟨denyErrors, flag, completed⟩ := exists_of_bind_eq_ok completed
    obtain ⟨verbose, -, completed⟩ := exists_of_bind_eq_ok completed
    cases completed
    exact flagFrom_eq_ok flag

/-- An environment that says nothing leaves the options as they were given. -/
private theorem withEnvironment_nil (given : Options) : withEnvironment [] given = .ok given := by
  have flag : ∀ name b, flagFrom [] name b = .ok b := by
    intro name b
    cases b <;> rfl
  obtain ⟨file?, config?, output?, noReport, noColor, denyErrors, verbose⟩ := given
  unfold withEnvironment
  cases config? <;> simp [flag, bind, Except.bind, pure, Except.pure]

/-- What a command line asks for is what its arguments give, completed from the environment. -/
theorem ofArguments_eq_analyse :
    ofArguments arguments environment = .ok (.analyse o) ↔
      ∃ given, readArguments .none none arguments = .ok given ∧
        withEnvironment environment given = .ok o := by
  unfold ofArguments
  cases read : readArguments .none none arguments with
  | error stop =>
    cases stop with
    | mistake e => simp
    | wish c =>
      have short := StopsShort.readArguments .none none arguments o
      rw [read] at short
      simpa using fun same => short (by rw [same])
  | ok given => cases completed : withEnvironment environment given <;> simp [completed, Except.map]

/-- **The program's command lines** take from the environment whether errors are denied. -/
theorem inheritsDenyErrors_standard : Formats.standard.InheritsDenyErrors := by
  intro arguments environment o asked
  obtain ⟨given, read, completed⟩ := ofArguments_eq_analyse.mp asked
  have alone : Formats.standard.DeniesErrors arguments ↔ given.denyErrors = true := by
    constructor
    · rintro ⟨o', asked', denies⟩
      obtain ⟨given', read', completed'⟩ := ofArguments_eq_analyse.mp asked'
      cases read.symm.trans read'
      cases (withEnvironment_nil given).symm.trans completed'
      exact denies
    · intro denies
      exact ⟨given, ofArguments_eq_analyse.mpr ⟨given, read, withEnvironment_nil given⟩, denies⟩
  rw [alone]
  exact denyErrors_withEnvironment completed

end Command

end Lexis
