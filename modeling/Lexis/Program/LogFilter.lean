import Lexis.Pattern
import Lexis.Program.Log
import Lexis.Text.Alphabetic
import Lexis.Text.Digit
import Lexis.Text.CodePoints

/-!
# Filters of the log

Which messages are written. A filter is a list of directives, each with the messages that it is about
and how far they may go; of the directives about a message the most specific one decides. A text gives
a filter as directives with commas between them:

- `debug` is about all messages,
- `program::part=debug` about those from a part of the program, the level left out meaning all levels,
- `program[{field}]=debug` about those that have a field as well.

A directive that names a span of work, or the value of a field, is about spans only, and there are none.
-/

set_option autoImplicit false

namespace Lexis

/-- How far messages may go: up to a level, or nowhere. -/
structure Threshold where
  level? : Option Level
deriving DecidableEq

namespace Threshold

/-- Whether messages of a level may pass. -/
def admits (t : Threshold) (level : Level) : Bool :=
  match t.level? with
  | some most => level.verbosity ≤ most.verbosity
  | none => false

/-- The thresholds by their numbers. -/
def ofNumber? : Nat → Option Threshold
  | 0 => some ⟨none⟩
  | 1 => some ⟨some .error⟩
  | 2 => some ⟨some .warn⟩
  | 3 => some ⟨some .info⟩
  | 4 => some ⟨some .debug⟩
  | 5 => some ⟨some .trace⟩
  | _ => none

/-- The threshold that a text names, by a word in letters of any case or by a number, which may have a
plus sign. -/
def ofName? (name : String) : Option Threshold :=
  let digits := match name.toList with
    | '+' :: digits => digits
    | digits => digits
  if !digits.isEmpty && digits.all Char.isDigit then ofNumber? (Text.ofDigits 10 digits)
  else
    match name.toLower with
    | "off" => some ⟨none⟩
    | "error" => some ⟨some .error⟩
    | "warn" => some ⟨some .warn⟩
    | "info" => some ⟨some .info⟩
    | "debug" => some ⟨some .debug⟩
    | "trace" => some ⟨some .trace⟩
    | _ => none

end Threshold

/-- What a directive looks at. -/
inductive Subject where
  /-- All messages. -/
  | messages
  /-- The messages that have a field. -/
  | messagesWith (field : String)
  /-- Spans of work. -/
  | spans
deriving DecidableEq

/-- A part of a filter: messages, and how far they may go. -/
structure Directive where
  /-- The beginning of the path of the parts that the messages come from. -/
  origin? : Option String
  subject : Subject
  threshold : Threshold
deriving DecidableEq

namespace Directive

/-- Whether a directive is about a message. -/
def concerns (d : Directive) (e : LogEntry) : Bool :=
  (match d.origin? with
    | some path => path.toList.isPrefixOf e.origin.path.toList
    | none => true) &&
  (match d.subject with
    | .messages => true
    | .messagesWith field => e.hasField field
    | .spans => false)

/-- The number of bytes by which a directive restricts where messages come from. -/
def reach (d : Directive) : Nat :=
  match d.origin? with
  | some path => path.utf8ByteSize
  | none => 0

/-- Whether a directive wins over an earlier one about the same message: the one with the longer path,
then the one that asks for a field, then the one whose field is the later in order, then itself. -/
def overrides (d earlier : Directive) : Bool :=
  if d.reach == earlier.reach then
    match d.subject, earlier.subject with
    | .messagesWith field, .messagesWith other => !(field < other)
    | _, .messagesWith _ => false
    | _, _ => true
  else earlier.reach < d.reach

/-- A number with a plus sign, which is no pattern. -/
private def positiveNumber : Reader Unit := do
  Reader.char '+'
  let whole ← Reader.takeWhile Char.isDigit
  let behind ← Reader.withDefault [] do
    Reader.char '.'
    Reader.takeWhile Char.isDigit
  if whole.isEmpty && behind.isEmpty then failure
  Reader.withDefault () do
    let _ ← Reader.one fun c => c == 'e' || c == 'E'
    let _ ← Reader.withDefault ' ' (Reader.one fun c => c == '+' || c == '-')
    let _ ← Reader.takeWhile1 Char.isDigit
  Reader.atEnd

/-- Whether a text can be the value of a field: a truth value, a number or a pattern. -/
private def isFieldValue (value : List Char) : Bool :=
  Pattern.isPattern value || (positiveNumber ⟨value, 0⟩).isSome ||
    ["+inf", "+infinity", "+nan"].contains (String.ofList value).toLower

/-- A field by its name, and the value behind an equals sign if there is one. -/
private def readField? (text : List Char) : Option Subject :=
  match text.splitOn '=' with
  | [] => none
  | [name] => if name.isEmpty then none else some (.messagesWith (String.ofList name))
  | _ :: value :: _ => if isFieldValue value then some .spans else none

/-- A level behind an equals sign, none meaning all levels. -/
private def readThreshold? (text : List Char) : Option Threshold :=
  if text.isEmpty then some ⟨some .trace⟩ else Threshold.ofName? (String.ofList text)

/-- What stands behind a bracket: nothing, or an equals sign and a level. -/
private def readTail? (whole trimmed : List Char) (place : Nat) : Option Threshold :=
  match trimmed.drop place with
  | [] => some ⟨some .trace⟩
  | '=' :: _ => readThreshold? (whole.drop (place + 1))
  | _ => none

/-- What stands from inside a bracket on: a name and a field, each of which may be left out, and the
level behind the bracket. -/
private def readBracket? (whole trimmed : List Char) (place : Nat) :
    Option (Subject × Threshold) :=
  let name := (trimmed.drop place).takeWhile fun c => c != ']' && c != '\x7b'
  let behind := place + name.length
  match trimmed.drop behind with
  | ']' :: _ => return (.spans, ← readTail? whole trimmed (behind + 1))
  | '\x7b' :: rest =>
    let length := (rest.takeWhile (· != '\x7d')).length
    let field := (whole.drop (behind + 1)).take length
    match rest.drop length with
    | '\x7d' :: ']' :: _ => do
      let subject ← readField? field
      let threshold ← readTail? whole trimmed (behind + length + 3)
      return (if name.isEmpty then subject else .spans, threshold)
    | _ => none
  | _ => none

/-- Whether a directive may start with a character, the bracket aside. -/
private def startsPath (c : Char) : Bool :=
  Text.isAlphabetic c || Text.isNumeric c || c == '-' || c == ':' || c == '_'

/-- The directive that a text gives. Where its parts begin and end is found in the text without the
white space around it, but the parts are taken from the whole text at the same places. -/
def ofText? (text : String) : Option Directive :=
  let whole := text.toList
  let trimmed := Text.trim whole
  match trimmed with
  | [] => none
  | '[' :: _ => do
    let (subject, threshold) ← readBracket? whole trimmed 1
    return ⟨none, subject, threshold⟩
  | first :: _ =>
    if startsPath first then
      let length := (trimmed.takeWhile fun c => c != '=' && c != '[').length
      let path := String.ofList (whole.take length)
      match trimmed.drop length with
      | '=' :: _ => return ⟨some path, .messages, ← readThreshold? (whole.drop (length + 1))⟩
      | '[' :: _ => do
        let (subject, threshold) ← readBracket? whole trimmed (length + 1)
        return ⟨some path, subject, threshold⟩
      | _ =>
        match Threshold.ofName? text with
        | some threshold => some ⟨none, .messages, threshold⟩
        | none => some ⟨some text, .messages, ⟨some .trace⟩⟩
    else none

end Directive

/-- Which messages are written. -/
structure LogFilter where
  directives : List Directive
deriving DecidableEq

namespace LogFilter

/-- The filter that writes nothing. -/
def silent : LogFilter := ⟨[]⟩

/-- The filter that writes all messages up to a level. -/
def upTo (level : Level) : LogFilter := ⟨[⟨none, .messages, ⟨some level⟩⟩]⟩

/-- The winner among directives and a later one. -/
def winner (best? : Option Directive) (d : Directive) : Option Directive :=
  match best? with
  | some best => if d.overrides best then some d else some best
  | none => some d

/-- The directive that decides about a message. -/
def deciding? (f : LogFilter) (e : LogEntry) : Option Directive :=
  (f.directives.filter (·.concerns e)).foldl winner none

/-- Whether a message is written. One that no directive is about is not. -/
def admits (f : LogFilter) (e : LogEntry) : Bool :=
  match f.deciding? e with
  | some d => d.threshold.admits e.level
  | none => false

/-- The filter that a text gives. Without any directive nothing is written; if one of the directives is
malformed, the whole text is taken for `info`. -/
def ofText (text : String) : LogFilter :=
  let pieces := (text.toList.splitOn ',').filter fun piece => !piece.isEmpty
  match pieces.mapM fun piece => Directive.ofText? (String.ofList piece) with
  | some directives => ⟨directives⟩
  | none => upTo .info

/-- The filter of a run: verbose runs show everything but traces, other runs what the environment asks
for, or else what is worth knowing. -/
def choose (verbose : Bool) (text? : Option String) : LogFilter :=
  if verbose then upTo .debug
  else
    match text? with
    | some text => ofText text
    | none => upTo .info

end LogFilter

end Lexis
