import Lexis.Proofs.Program.FileTree
import Lexis.Proofs.Program.Session

/-!
# The first line that names a file

The prompt takes lines of an input that is text until one of them names a file. Of each line in front it
says that its file was not found, by the path that it looked for, and the lines behind it are not touched,
whatever they are (`takesFirst_promptForSource`). If no line names a file, it asks once more than there
are lines and fails. What names a file is up to the file system.

The bytes of a text are parted at its line feeds, as no other character has the byte of a line feed in it
(`linesOf_toUTF8`). So the lines of an input that is text are the lines of that text.
-/

set_option autoImplicit false

namespace Lexis.Surroundings

/-! ## The lines of a text -/

/-- The lines of a text. What follows the last line feed is a line if there is any of it. -/
def linesOfText (text : String) : List String :=
  let pieces := text.toList.splitOn '\n'
  (if pieces.getLast? == some [] then pieces.dropLast else pieces).map String.ofList

/-- The byte of a line feed is in no other character. -/
private theorem lineFeed_notMem_utf8EncodeChar {c : Char} (other : c ≠ '\n') :
    10 ∉ String.utf8EncodeChar c := by
  have apart : ∀ n, n < 256 → n ≠ 10 → (10 : UInt8) ≠ UInt8.ofNat n := by
    intro n small ne same
    have value := congrArg UInt8.toNat same
    simp [Nat.mod_eq_of_lt small] at value
    omega
  have code : c.val.toNat ≠ 10 := fun same => other (Char.ext (UInt32.toNat_inj.mp same))
  unfold String.utf8EncodeChar
  intro member
  simp only at member
  -- one byte is the code of the character, and each of more bytes is 128 at the least
  split at member
  · exact apart _ (by omega) code (List.mem_singleton.mp member)
  · split at member
    · simp only [List.mem_cons, List.not_mem_nil, or_false] at member
      rcases member with h | h <;> exact apart _ (by omega) (by omega) h
    · split at member
      · simp only [List.mem_cons, List.not_mem_nil, or_false] at member
        rcases member with h | h | h <;> exact apart _ (by omega) (by omega) h
      · simp only [List.mem_cons, List.not_mem_nil, or_false] at member
        rcases member with h | h | h | h <;> exact apart _ (by omega) (by omega) h

/-- What stands in front of the first mark belongs to the first piece. -/
private theorem splitOn_append_of_notMem {α : Type} [BEq α] [LawfulBEq α] {mark : α} {front : List α}
    (absent : mark ∉ front) (back : List α) :
    (front ++ back).splitOn mark = (back.splitOn mark).modifyHead (front ++ ·) := by
  induction front with
  | nil =>
    rw [List.nil_append]
    exact (congrFun List.modifyHead_id _).symm
  | cons a front ih =>
    obtain ⟨other, absent⟩ := not_or.mp (mt List.mem_cons.mpr absent)
    rw [List.cons_append, List.splitOn_cons_eq_if_modifyHead, if_neg (by simpa using Ne.symm other),
      ih absent, List.modifyHead_modifyHead]
    rfl

/-- **A text is parted before or after it is encoded**, if the mark is encoded as itself and is in the
code of nothing else. -/
private theorem splitOn_flatMap {α β : Type} [BEq α] [LawfulBEq α] [BEq β] [LawfulBEq β]
    (code : α → List β) {sep : α} {mark : β} (here : code sep = [mark])
    (apart : ∀ a, a ≠ sep → mark ∉ code a) (as : List α) :
    (as.flatMap code).splitOn mark = (as.splitOn sep).map (·.flatMap code) := by
  induction as with
  | nil => rfl
  | cons a as ih =>
    rw [List.flatMap_cons, List.splitOn_cons_eq_if_modifyHead]
    by_cases same : a = sep
    · rw [same, here, List.cons_append, List.nil_append, List.splitOn_cons_eq_if_modifyHead,
        if_pos (beq_self_eq_true mark), if_pos (beq_self_eq_true sep), ih]
      rfl
    · rw [splitOn_append_of_notMem (apart a same), if_neg (by simpa using same), ih]
      cases as.splitOn sep with
      | nil => rfl
      | cons piece pieces => rfl

private theorem toList_toByteArray (bytes : List UInt8) : bytes.toByteArray.toList = bytes := by
  have loop : ∀ i r, ByteArray.toList.loop bytes.toByteArray i r = r.reverse ++ bytes.drop i := by
    intro i r
    fun_induction ByteArray.toList.loop bytes.toByteArray i r with
    | case1 i r more ih =>
      have inside : i < bytes.length := by simpa using more
      have byte : bytes.toByteArray.get! i = bytes[i] := by
        simp [ByteArray.get!, List.data_toByteArray, inside]
      rw [ih, List.drop_eq_getElem_cons inside, byte, List.reverse_cons, List.append_assoc]
      rfl
    | case2 i r done =>
      rw [List.drop_eq_nil_of_le (by simpa using done), List.append_nil]
  exact loop 0 []

/-- **The lines of an input that is text are those of the text.** -/
theorem linesOf_toUTF8 (text : String) : linesOf text.toUTF8 = (linesOfText text).map String.toUTF8 := by
  have bytes : text.toUTF8.toList = text.toList.flatMap String.utf8EncodeChar := by
    rw [← toList_toByteArray (text.toList.flatMap String.utf8EncodeChar)]
    exact congrArg ByteArray.toList String.utf8Encode_toList.symm
  have encoded : String.utf8EncodeChar '\n' = [10] := rfl
  have parted := splitOn_flatMap String.utf8EncodeChar encoded
    (fun c other => lineFeed_notMem_utf8EncodeChar other) text.toList
  -- no character is encoded as nothing
  have ended : ∀ pieces : List (List Char),
      ((pieces.map (·.flatMap String.utf8EncodeChar)).getLast? == some []) =
        (pieces.getLast? == some []) := by
    intro pieces
    rw [List.getLast?_map]
    match pieces.getLast? with
    | none => rfl
    | some [] => rfl
    | some (c :: piece) =>
      rw [Bool.eq_iff_iff]
      simp [String.utf8EncodeChar_ne_nil]
  unfold linesOf linesOfText
  rw [bytes, parted]
  simp only [ended]
  split
  · rw [← List.map_dropLast, List.map_map, List.map_map]
    rfl
  · rw [List.map_map, List.map_map]
    rfl

/-! ## What the prompt comes to -/

/-- The question that the prompt asks. -/
def question : String := "Enter a file's name\n"

/-- What is printed when lines were taken in vain and one more is asked for: each time the question, and
behind it that the file was not found at the path that the line means. -/
def dialogue (settings : Settings) (missed : List String) : String :=
  String.join (missed.map fun line => question ++ s!"File {settings.entered line} not found\n") ++ question

/-- **A session comes to an answer**: it leaves lines of the input, has printed something more, and the files
are those of before. -/
structure ComesTo {σ α : Type} (s : SessionM (StateM (Surroundings σ)) α) (w : Surroundings σ)
    (answer : Except Interruption α) (left : List ByteArray) (printed : String) : Prop where
  answer : (s.run w).1 = answer
  left : (s.run w).2.input = left
  printed : (s.run w).2.stdout = w.stdout ++ printed
  files : (s.run w).2.files = w.files

/-- **The prompt takes the first line that names a file.** -/
structure TakesFirst {σ : Type} (F : FileSystem σ) (prompt : SessionM (StateM (Surroundings σ)) String)
    (settings : Settings) (w : Surroundings σ) (lines : List String) : Prop where
  /-- The lines behind the one that names a file are not touched. Others might stand there, text or not. -/
  named : ∀ missed line later, lines = missed ++ line :: later →
    (∀ other ∈ missed, F.isFile w.files (settings.entered other) = false) →
    F.isFile w.files (settings.entered line) = true →
    ComesTo prompt w (.ok (settings.entered line)) (later.map String.toUTF8)
        (dialogue settings missed) ∧
      ∀ instead, ComesTo prompt { w with input := (missed ++ [line]).map String.toUTF8 ++ instead }
        (.ok (settings.entered line)) instead (dialogue settings missed)
  /-- Where no line names a file, the prompt fails with its last question. -/
  unnamed : (∀ line ∈ lines, F.isFile w.files (settings.entered line) = false) →
    ∃ failure, failure.message = "no source file given" ∧
      ComesTo prompt w (.error (.failure failure)) [] (dialogue settings lines)
  /-- One of the two is the case, so there is always an end. -/
  ends : (∃ missed line later, lines = missed ++ line :: later ∧
      (∀ other ∈ missed, F.isFile w.files (settings.entered other) = false) ∧
      F.isFile w.files (settings.entered line) = true) ∨
    ∀ line ∈ lines, F.isFile w.files (settings.entered line) = false

variable {σ : Type} {F : FileSystem σ} {files : σ} {settings : Settings}

theorem dialogue_cons (line : String) (missed : List String) :
    dialogue settings (line :: missed) =
      question ++ s!"File {settings.entered line} not found\n" ++ dialogue settings missed := by
  rw [dialogue, List.map_cons, String.join_cons, String.append_assoc]
  rfl

/-- Behind lines that name no file the prompt goes on as if it had begun there. -/
private theorem prompts_append {missed : List String} {lines rest : List ByteArray}
    {answer? : Option (Except Interruption String)}
    (absent : ∀ line ∈ missed, F.isFile files (settings.entered line) = false)
    (behind : Prompts F files settings lines answer? rest question) :
    Prompts F files settings (missed.map String.toUTF8 ++ lines) answer? rest
      (dialogue settings missed) := by
  induction missed with
  | nil => exact behind
  | cons line missed ih =>
    obtain ⟨here, later⟩ := List.forall_mem_cons.mp absent
    rw [dialogue_cons]
    exact .missing (fromUTF8?_toUTF8 line) here (ih later)

/-- There is one way for the prompt to end, where all that it says is printed. -/
private theorem comesTo_of_prompts (formats : Formats) (filter : LogFilter) {w : Surroundings σ}
    {lines left : List ByteArray} {answer? : Option (Except Interruption String)}
    {answer : Except Interruption String} {printed : String} (taken : w.outlet.refusal? = none)
    (input : w.input = lines) (prompts : Prompts F w.files settings lines answer? left printed)
    (given : answer?.getD (.error (.failure .noSource)) = answer) :
    ComesTo ((session F formats filter).promptForSource settings) w answer left printed := by
  subst input given
  obtain ⟨answer?, left, printed, prompts', ends⟩ :=
    ends_promptForSource F formats filter settings taken
  obtain ⟨rfl, rfl, rfl⟩ := prompts.unique prompts'
  obtain ⟨noise, run⟩ := ends w.stderr
  have run : ((session F formats filter).promptForSource settings).run w = _ := run
  exact ⟨by rw [run], by rw [run]; rfl, by rw [run]; rfl, by rw [run]; rfl⟩

/-- **The prompt takes the first line that names a file**, of an input that is any text, where all that it
says is printed. -/
theorem takesFirst_promptForSource (F : FileSystem σ) (formats : Formats) (filter : LogFilter)
    (settings : Settings) (w : Surroundings σ) (text : String) :
    TakesFirst F ((session F formats filter).promptForSource settings) settings
      { w with input := linesOf text.toUTF8, outlet := { w.outlet with refusal? := none } }
      (linesOfText text) where
  named missed line later lines absent there := by
    have found : ∀ left, Prompts F w.files settings (missed.map String.toUTF8 ++ line.toUTF8 :: left)
        (some (.ok (settings.entered line))) left (dialogue settings missed) :=
      fun left => prompts_append absent (.found (fromUTF8?_toUTF8 line) there)
    refine ⟨comesTo_of_prompts formats filter rfl ?_ (found _) rfl,
      fun instead => comesTo_of_prompts formats filter rfl ?_ (found instead) rfl⟩
    · show linesOf text.toUTF8 = _
      rw [linesOf_toUTF8, lines, List.map_append, List.map_cons]
    · show (missed ++ [line]).map String.toUTF8 ++ instead = _
      rw [List.map_append, List.append_assoc]
      rfl
  unnamed absent := by
    have prompts := prompts_append absent (.ended : Prompts F w.files settings [] none [] question)
    rw [List.append_nil] at prompts
    exact ⟨.noSource, rfl, comesTo_of_prompts formats filter rfl (linesOf_toUTF8 text) prompts rfl⟩
  ends := by
    cases first : (linesOfText text).find? fun line => F.isFile w.files (settings.entered line) with
    | none => exact .inr fun line member => Bool.eq_false_iff.mpr (List.find?_eq_none.mp first line member)
    | some line =>
      obtain ⟨there, missed, later, lines, absent⟩ := List.find?_eq_some_iff_append.mp first
      exact .inl ⟨missed, line, later, lines, fun other member => by simpa using absent other member, there⟩

/-- A name that starts at the root is taken, behind an empty line and the name of a directory. -/
example :
    let F := FileTree.system World.directory
    let w : World := start ⟨[(["src", "A"], .file ByteArray.empty)]⟩ "\n/src\n/src/A\n".toUTF8
    let settings := { Settings.default with sourceDirectory? := some "src" }
    (((session F .standard .silent).promptForSource settings).run w).1.toOption = some "/src/A" := by
  decide +kernel

end Lexis.Surroundings
