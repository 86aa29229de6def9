import Lexis.Diagnostic
import Lexis.Proofs.Lexer.Cut
import Lexis.Proofs.Text.Place
import Mathlib.Data.List.DropRight

/-!
# Arrows stand under errors

The diagnostic of an error ends with the line that the error starts in, and under it an arrow to the
character that it starts with (`pointsAt_tokenize`).

Three notions of space meet here. The lexer skips blanks and line ends; the diagnostic leaves out the
spaces and tabs in front of the line and the white space of any script behind it. An error starts where the
lexer has nothing to skip, so never in the indentation. But it may be white space itself, and the last of
its line: then the arrow points behind what is shown.
-/

set_option autoImplicit false

namespace Lexis

namespace Diagnostic

/-- **What is shown of a line**: all but the spaces and tabs in front and the white space at the end. -/
structure Shows (line indent shown cut : List Char) : Prop where
  whole : line = indent ++ (shown ++ cut)
  indent : ∀ c ∈ indent, c = ' ' ∨ c = '\t'
  first : ∀ c, (shown ++ cut).head? = some c → ¬ (c = ' ' ∨ c = '\t')
  cut : ∀ c ∈ cut, Text.isWhiteSpace c = true
  last : ∀ c, shown.getLast? = some c → Text.isWhiteSpace c = false

/-- **A numbered line and an arrow under it**, to the character with the given index. -/
structure Picture (number : List Char) (shown : List Char) (index : Nat) (upper lower : List Char) :
    Prop where
  upper_eq : upper = number ++ ' ' :: '|' :: ' ' :: shown
  lower_eq : lower =
    List.replicate (number.length + 1) ' ' ++ '|' :: ' ' :: (List.replicate index '-' ++ ['^'])
  unbroken : ∀ c ∈ upper ++ lower, Text.isLineBreak c = false
  /-- The bars of the two lines stand in one column. -/
  bars : upper[number.length + 1]? = some '|' ∧ lower[number.length + 1]? = some '|'
  /-- The arrow stands in the column of the character. -/
  arrow : upper[number.length + 3 + index]? = shown[index]? ∧
    lower[number.length + 3 + index]? = some '^'

/-- A character of a text, and where the lookup of places finds it: in a line behind what is in front. -/
structure StandsAt (text : List Char) (start : Nat) (mark : Char) (place : Place) (front : List Char) :
    Prop where
  found : Place.at? text start = some place
  inText : ∃ before behind, text = before ++ mark :: behind ∧ Text.byteLength before = start
  inLine : ∃ behind, place.line = front ++ mark :: behind
  offset : Text.byteLength front = place.offset

/-- **A diagnostic points at a character** that stands behind the front of its line. -/
structure PointsAt (mark : Char) (place : Place) (front indent shown cut : List Char)
    (drawn : Except Fault String) : Prop where
  shows : Shows place.line indent shown cut
  behind : indent.length ≤ front.length
  index : (shown ++ cut)[front.length - indent.length]? = some mark
  /-- The character is shown, unless it is white space. -/
  visible : Text.isWhiteSpace mark = false → shown[front.length - indent.length]? = some mark
  /-- The picture of the line ends what is drawn, if the arrow is not too long. -/
  fits : front.length - indent.length + 1 ≤ 65535 → ∃ top upper lower,
    drawn = .ok (String.ofList (top ++ '\n' :: (upper ++ '\n' :: (lower ++ ['\n'])))) ∧
      Picture (toString place.number).toList shown (front.length - indent.length) upper lower
  tooWide : 65535 < front.length - indent.length + 1 → ∃ fault, drawn = .error fault ∧
    fault.message = "Formatting argument out of range"

end Diagnostic

namespace Text

/-- A text is trimmed of all white space at its end and of nothing else. -/
theorem exists_trimEnd (cs : List Char) : ∃ cut, trimEnd cs ++ cut = cs ∧
    (∀ c ∈ cut, isWhiteSpace c = true) ∧
      ∀ c, (trimEnd cs).getLast? = some c → isWhiteSpace c = false := by
  have trimmed : trimEnd cs = cs.rdropWhile isWhiteSpace := rfl
  rw [trimmed]
  refine ⟨cs.rtakeWhile isWhiteSpace, List.rdropWhile_append_rtakeWhile,
    fun c => List.mem_rtakeWhile_imp, fun c last => ?_⟩
  have apart := List.head?_dropWhile_not isWhiteSpace cs.reverse
  rw [List.rdropWhile, List.getLast?_reverse] at last
  rw [last] at apart
  simpa using apart

theorem isWhiteSpace_of_isLineBreak {c : Char} (breaks : isLineBreak c = true) :
    isWhiteSpace c = true := by
  simp only [isLineBreak, Bool.or_eq_true, beq_iff_eq] at breaks
  rcases breaks with rfl | rfl <;> rfl

end Text

namespace Diagnostic

/-! ## What is shown of a line -/

/-- The diagnostic shows of a line what is to be shown. -/
theorem exists_shows (line : List Char) : ∃ indent cut, indentation line = indent.length ∧
    Shows line indent (Text.trimEnd (line.drop (indentation line))) cut := by
  let isIndent : Char → Bool := fun c => c == ' ' || c == '\t'
  have split : line.takeWhile isIndent ++ line.dropWhile isIndent = line :=
    List.takeWhile_append_dropWhile
  have rest : line.drop (indentation line) = line.dropWhile isIndent :=
    (congrArg (List.drop _) split.symm).trans List.drop_left
  obtain ⟨cut, parts, white, last⟩ := Text.exists_trimEnd (line.dropWhile isIndent)
  refine ⟨line.takeWhile isIndent, cut, rfl, ?_⟩
  rw [rest]
  refine ⟨by rw [parts, split], fun c member => ?_, fun c first => ?_, white, last⟩
  · simpa [isIndent] using List.mem_takeWhile_imp member
  · rw [parts] at first
    have apart := List.head?_dropWhile_not isIndent line
    rw [first] at apart
    simpa [isIndent] using apart

section Shows

variable {line indent shown cut : List Char}

/-- A character that is no space and no tab stands behind the indentation. -/
theorem Shows.exists_between (shows : Shows line indent shown cut) {front behind : List Char} {c : Char}
    (split : line = front ++ c :: behind) (space : c ≠ ' ') (tab : c ≠ '\t') :
    ∃ between, front = indent ++ between ∧ shown ++ cut = between ++ c :: behind := by
  rcases List.append_eq_append_iff.mp (shows.whole.symm.trans split) with h | ⟨more, rfl, rest⟩
  · exact h
  · cases more with
    | nil => exact ⟨[], by simp, rest.symm⟩
    | cons d more =>
      obtain ⟨rfl, -⟩ := List.cons.inj rest
      exact absurd (shows.indent c (by simp)) (by simp [space, tab])

/-- A character that is not white space is not cut off. -/
theorem Shows.getElem?_shown (shows : Shows line indent shown cut) {index : Nat} {c : Char}
    (here : (shown ++ cut)[index]? = some c) (visible : Text.isWhiteSpace c = false) :
    shown[index]? = some c := by
  rcases Nat.lt_or_ge index shown.length with inside | outside
  · rwa [List.getElem?_append_left inside] at here
  · rw [List.getElem?_append_right outside] at here
    have white := shows.cut c (List.mem_of_getElem? here)
    exact absurd (visible.symm.trans white) (by simp)

/-- What is shown of a line holds no line end. -/
theorem Shows.unbroken (shows : Shows line indent shown cut) {text : List Char}
    (member : line ∈ Text.lines text) : ∀ c ∈ shown, Text.isLineBreak c = false := by
  obtain ⟨body, ending, split, free, breaks⟩ := (Text.lined_lines text).exists_body member
  have whole : (indent ++ shown) ++ cut = body ++ ending := by
    rw [List.append_assoc, ← shows.whole, split]
  rcases List.append_eq_append_iff.mp whole with ⟨more, rfl, -⟩ | ⟨more, reached, rfl⟩
  · exact fun c here => free c (by simp [here])
  · cases last : shown.getLast? with
    | none => simp [List.getLast?_eq_none_iff.mp last]
    | some d =>
      -- this character is no white space, so what is shown ends in front of the line ends
      have visible := shows.last d last
      obtain ⟨front, rfl⟩ := List.getLast?_eq_some_iff.mp last
      rcases List.eq_nil_or_concat more with rfl | ⟨more, other, rfl⟩
      · rw [List.append_nil] at reached
        exact fun c here => free c (reached ▸ List.mem_append_right _ here)
      · have same := congrArg List.getLast? reached
        obtain rfl : d = other := by simpa [← List.append_assoc] using same
        have white := Text.isWhiteSpace_of_isLineBreak (breaks d (by simp))
        exact absurd (visible.symm.trans white) (by simp)

end Shows

/-! ## The picture -/

theorem unbroken_toString (n : Nat) : ∀ c ∈ (toString n).toList, Text.isLineBreak c = false := by
  intro c member
  have digit : c.isDigit = true := by
    rw [Nat.toString_eq_repr, Nat.toList_repr] at member
    exact Nat.isDigit_of_mem_toDigits (by omega) (by omega) member
  by_contra breaks
  simp only [Text.isLineBreak, Bool.not_eq_false, Bool.or_eq_true, beq_iff_eq] at breaks
  rcases breaks with rfl | rfl <;> exact absurd digit (by decide)

/-- The numbered line and the line with the arrow, if neither number nor line holds a line end. -/
theorem picture_of_unbroken {number shown : List Char} (index : Nat)
    (numbered : ∀ c ∈ number, Text.isLineBreak c = false)
    (unbroken : ∀ c ∈ shown, Text.isLineBreak c = false) :
    Picture number shown index (number ++ ' ' :: '|' :: ' ' :: shown)
      (List.replicate (number.length + 1) ' ' ++ '|' :: ' ' :: (List.replicate index '-' ++ ['^'])) := by
  have space : Text.isLineBreak ' ' = false := by decide
  have bar : Text.isLineBreak '|' = false := by decide
  have dash : Text.isLineBreak '-' = false := by decide
  have arrow : Text.isLineBreak '^' = false := by decide
  refine ⟨rfl, rfl, fun c member => ?_, ⟨by simp, by simp⟩, ?_, ?_⟩
  · rcases List.mem_append.mp member with upper | lower
    · rcases List.mem_append.mp upper with digit | behind
      · exact numbered c digit
      · have all : ∀ c ∈ ' ' :: '|' :: ' ' :: shown, Text.isLineBreak c = false := by
          simpa [space, bar] using unbroken
        exact all c behind
    · simp only [List.mem_append, List.mem_cons, List.mem_replicate, List.not_mem_nil, or_false] at lower
      rcases lower with ⟨-, rfl⟩ | rfl | rfl | ⟨-, rfl⟩ | rfl <;> assumption
  · have column : number.length + 3 + index = number.length + (index + 3) := by omega
    rw [column, List.getElem?_append_right (by omega), Nat.add_sub_cancel_left]
    rfl
  · have column : number.length + 3 + index = (number.length + 1) + (index + 2) := by omega
    rw [column, List.getElem?_append_right (by simp), List.length_replicate, Nat.add_sub_cancel_left]
    simp

theorem toList_pushn (s : String) (c : Char) (n : Nat) :
    (s.pushn c n).toList = s.toList ++ List.replicate n c := by
  rw [String.pushn_eq_repeat_push]
  induction n with
  | zero => simp [Nat.repeat]
  | succ n ih => rw [Nat.repeat, String.toList_push, ih, List.append_assoc, List.replicate_succ']

section Arrow

variable {place : Place} {front behind : List Char} {mark : Char}

/-- The arrow is counted in characters, of which the place names the bytes. -/
theorem column_eq (inLine : place.line = front ++ mark :: behind)
    (offset : Text.byteLength front = place.offset) :
    (Text.charIndex? place.line place.offset).getD place.offset = front.length := by
  rw [inLine, ← offset, Text.charIndex?_byteLength, Option.getD_some]

theorem picture_tooWide (inLine : place.line = front ++ mark :: behind)
    (offset : Text.byteLength front = place.offset)
    (wide : 65535 < front.length - indentation place.line + 1) :
    picture place = .error .fieldTooWide := by
  rw [picture, column_eq inLine offset]
  exact if_pos wide

theorem exists_picture (inLine : place.line = front ++ mark :: behind)
    (offset : Text.byteLength front = place.offset)
    (fits : front.length - indentation place.line + 1 ≤ 65535) :
    let number := (toString place.number).toList
    let shown := Text.trimEnd (place.line.drop (indentation place.line))
    let index := front.length - indentation place.line
    ∃ margin, picture place = .ok (String.ofList (margin ++ '\n' :: (number ++ ' ' :: '|' :: ' ' :: shown ++
      '\n' :: (List.replicate (number.length + 1) ' ' ++
        '|' :: ' ' :: (List.replicate index '-' ++ ['^']) ++ ['\n'])))) := by
  intro number shown index
  have width : place.number.repr.length = (Nat.toDigits 10 place.number).length := by
    rw [← Nat.toList_repr, String.length_toList]
  refine ⟨List.replicate (number.length + 1) ' ' ++ ['|'], ?_⟩
  rw [picture, column_eq inLine offset]
  refine (if_neg (Nat.not_lt.mpr fits)).trans (congrArg Except.ok (String.toList_inj.mp ?_))
  simp [toList_pushn, number, shown, index, width]

/-- The diagnostic of an error that lies in the text is its heading and the picture. -/
theorem render_eq {text : List Char} {e : LocatedError} (file : String)
    (found : Place.at? text e.span.start = some place) :
    render e text file = (picture place).map (heading e.reason ++ s!"-> {file}\n" ++ ·) := by
  have drawn : render e text file =
      (picture place >>= fun drawn => .ok (heading e.reason ++ s!"-> {file}\n" ++ drawn)) := by
    rw [render, found]
    rfl
  rw [drawn]
  cases picture place <;> rfl

end Arrow

/-- **A diagnostic points at the character that its error starts with**, unless this is one that
indentations are made of. -/
theorem pointsAt_render {text front : List Char} {e : LocatedError} {mark : Char} {place : Place}
    (file : String) (stands : StandsAt text e.span.start mark place front)
    (member : place.line ∈ Text.lines text) (space : mark ≠ ' ') (tab : mark ≠ '\t') :
    ∃ indent shown cut, PointsAt mark place front indent shown cut (render e text file) := by
  obtain ⟨behind, inLine⟩ := stands.inLine
  obtain ⟨indent, cut, width, shows⟩ := exists_shows place.line
  obtain ⟨between, split, rest⟩ := shows.exists_between inLine space tab
  have index : front.length - indent.length = between.length := by simp [split]
  have here : (Text.trimEnd (place.line.drop (indentation place.line)) ++ cut)[between.length]? =
      some mark := by
    rw [rest, List.getElem?_append_right (Nat.le_refl _), Nat.sub_self]
    rfl
  refine ⟨indent, _, cut, shows, by simp [split], ?_, fun visible => ?_, fun fits => ?_, fun wide => ?_⟩
  · rw [index]
    exact here
  · rw [index]
    exact shows.getElem?_shown here visible
  · rw [← width] at fits
    obtain ⟨margin, drawn⟩ := exists_picture inLine stands.offset fits
    let top := (heading e.reason ++ s!"-> {file}\n").toList ++ margin
    rw [← width]
    refine ⟨top, _, _, ?_, picture_of_unbroken _ (unbroken_toString _) (shows.unbroken member)⟩
    rw [render_eq file stands.found, drawn]
    exact congrArg Except.ok (String.toList_inj.mp (by simp [top]))
  · rw [← width] at wide
    rw [render_eq file stands.found, picture_tooWide inLine stands.offset wide]
    exact ⟨_, rfl, rfl⟩

end Diagnostic

/-- A diagnostic is asked for where its token starts, which does not mark the end. -/
theorem Token.of_located? {t : Token} {e : LocatedError} (error : t.located? = some e) :
    t.kind ≠ .endOfInput ∧ e.span = t.span := by
  cases kind : t.kind <;> simp [located?, error?, kind] at error
  exact ⟨nofun, error ▸ rfl⟩

/-- **The arrow of every error of a text points at the character that the error starts with.** -/
theorem pointsAt_tokenize {text : List Char} {t : Token} {e : LocatedError} (file : String)
    (member : t ∈ tokenize text) (error : t.located? = some e) :
    ∃ mark place front, Diagnostic.StandsAt text t.span.start mark place front ∧
      ∃ indent shown cut,
        Diagnostic.PointsAt mark place front indent shown cut (Diagnostic.render e text file) := by
  obtain ⟨proper, span⟩ := Token.of_located? error
  obtain ⟨pieces, last, cut⟩ := Cut.exists_cut Vocabulary.java text
  rw [tokenize, cut.tokensOf_eq] at member
  obtain ⟨before, rest, split, bytes, trivia, more⟩ := cut.exists_at [] member proper
  obtain ⟨mark, rest, rfl⟩ := List.exists_cons_of_ne_nil more
  obtain rfl : text = before ++ mark :: rest := split
  have inText : Text.byteLength before ≤ Text.byteLength (before ++ mark :: rest) := by simp
  obtain ⟨place, placed⟩ := Place.exists_placeOf inText
  obtain ⟨front, behind, inLine, offset, line⟩ := placed.exists_line
  have stands : Diagnostic.StandsAt (before ++ mark :: rest) t.span.start mark place front :=
    ⟨bytes ▸ placed.at?_eq, ⟨before, rest, rfl, bytes⟩, ⟨behind, inLine⟩, offset⟩
  have skipped : Trivia.isSpace mark = false := (Trivia.item_cons_eq_zero_iff.mp trivia).1
  refine ⟨mark, place, front, stands, Diagnostic.pointsAt_render file (span ▸ stands) line ?_ ?_⟩
  · rintro rfl
    exact absurd skipped (by decide)
  · rintro rfl
    exact absurd skipped (by decide)

/-- White space that the lexer does not skip is an error, and cut off at the end of its line. -/
theorem pointsAt_tokenize_noBreakSpace :
    let text := ['a', '\r', '\t', 'é', '\u00a0', '\n']
    let e : LocatedError := ⟨.unrecognisedCharacter, ⟨5, 7⟩⟩
    let t : Token := ⟨.error .unrecognisedCharacter, "\u00a0", ⟨5, 7⟩, false⟩
    (t ∈ tokenize text ∧ t.located? = some e) ∧
      ∃ mark place front, Diagnostic.StandsAt text t.span.start mark place front ∧
        ∃ indent shown cut, Diagnostic.PointsAt mark place front indent shown cut
          (Diagnostic.render e text "A.java") := by
  intro text e t
  have member : t ∈ tokenize text := by decide +kernel
  exact ⟨⟨member, rfl⟩, pointsAt_tokenize "A.java" member rfl⟩

/-- The arrow then points behind what is shown. -/
example :
    Diagnostic.render ⟨.unrecognisedCharacter, ⟨5, 7⟩⟩ ['a', '\r', '\t', 'é', '\u00a0', '\n'] "A.java" =
      .ok "Error: UnrecognisedCharacter\n-> A.java\n  |\n2 | é\n  | -^\n" := by
  decide +kernel

end Lexis
