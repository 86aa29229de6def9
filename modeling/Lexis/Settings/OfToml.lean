import Lexis.Settings
import Lexis.Settings.Misfit
import Lexis.Toml.Document

/-!
# Settings from TOML

The settings that a document makes: each top-level key that names a setting gives its value, all other
settings keep their defaults, and other keys mean nothing. The first value that does not fit, in the
order of the document, is reported.
-/

set_option autoImplicit false

namespace Lexis

/-- Why a text makes no settings. -/
inductive SettingsError where
  /-- The text is no TOML. -/
  | malformed
  /-- A value does not fit its setting. -/
  | misfit (m : LocatedMisfit)
deriving DecidableEq

/-- The wording of a settings error in its text. -/
def SettingsError.message (text : List Char) : SettingsError → String
  | .malformed => "TOML parse error\n"
  | .misfit m => m.render text

namespace Settings

/-- A value, or a misfit at a place that is not always known. -/
private abbrev Fitted (α : Type) := Except (Misfit × Option Span) α

private def wrongType {α : Type} (item : Toml.Item) (expected : String) : Fitted α :=
  .error (.wrongType (Misfit.describe item) expected, item.span?)

private def fitBoolean (item : Toml.Item) : Fitted Bool :=
  match item with
  | .scalar (.boolean b) _ => .ok b
  | item => wrongType item "a boolean"

private def fitString (expected : String) (item : Toml.Item) : Fitted String :=
  match item with
  | .scalar (.string s) _ => .ok s
  | item => wrongType item expected

private def fitWord (word : String) (span? : Option Span) : Fitted ColorMode :=
  match ColorMode.ofName? word with
  | some mode => .ok mode
  | none => .error (.unknownChoice word ["auto", "always", "never"], span?)

/-- A choice inside a table has no parts, so what stands beside its word is empty. -/
private def fitNothing (item : Toml.Item) : Fitted Unit :=
  match item with
  | .table _ [] _ => .ok ()
  | .array [] _ => .ok ()
  | .table _ _ span? => .error (.notEmpty "table", span?)
  | .array _ span => .error (.notEmpty "table", some span)
  | .tables _ span => .error (.notEmpty "array", some span)
  | item => .error (.notTable (Misfit.typeName item), item.span?)

/-- A choice is a word, or a table with the word as its only key. -/
private def fitColor (item : Toml.Item) : Fitted ColorMode :=
  match item with
  | .scalar (.string word) span => fitWord word (some span)
  | .table _ [(key, inside)] _ => do
    let mode ← fitWord key.name (some key.span)
    fitNothing inside
    return mode
  | .table _ entries span? => .error (.notOneEntry entries.isEmpty, span?)
  | item => .error (.noChoice, item.span?)

private def set (s : Settings) (name : String) (item : Toml.Item) : Fitted Settings :=
  match name with
  | "color" => return { s with color := ← fitColor item }
  | "write_report" => return { s with writeReport := ← fitBoolean item }
  | "report_extension" => return { s with reportExtension := ← fitString "a string" item }
  | "source_dir" => return { s with sourceDirectory? := some (← fitString "path string" item) }
  | "deny_errors" => return { s with denyErrors := ← fitBoolean item }
  | _ => return s

/-- The settings that the entries of a document make. A misfit without a place of its own is at the
value, or else at the key. -/
def ofEntries : Toml.Entries → Settings → Except LocatedMisfit Settings
  | [], s => .ok s
  | (key, item) :: entries, s =>
    match set s key.name item with
    | .ok s => ofEntries entries s
    | .error (reason, span?) => .error ⟨reason, (span?.or item.span?).getD key.span⟩

/-- **The settings that a TOML text makes.** -/
def ofToml (text : List Char) : Except SettingsError Settings :=
  match Toml.parse? text with
  | none => .error .malformed
  | some entries => (ofEntries entries default).mapError .misfit

end Settings

end Lexis
