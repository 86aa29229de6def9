import Lexis.Proofs.Lexer.Partition
import Lexis.Proofs.Scan.LongestNumeral

/-!
# Marks inside numerals

Three marks inside a numeral call for digits behind them: an underscore, a point, and the marker of an
exponent. A literal that begins with a digit has them there (`marked_tokenize`), but for two kinds of
hexadecimal literals: one that ends with its point, and one whose exponent has no digits. A decimal
numeral is never cut so, since its scan gives such a point or marker back.
-/

set_option autoImplicit false

namespace Lexis

namespace Numeral

open Munch (AtMostOne Then)
open LiteralType (eq_false_of_apart holds holds_eq_false holds_append holds_cons mem_of_beq_or)

/-! ## What marks call for -/

/-- Behind every mark of a text stands a text of a set. -/
def Leads (marks : List Char) (Next : List Char → Prop) (cs : List Char) : Prop :=
  ∀ before c behind, cs = before ++ c :: behind → c ∈ marks → ∃ next, Next next ∧ next <+: behind

/-- The digits of the radix of a numeral. -/
def radixDigit (cs : List Char) : Char → Bool :=
  if hasRadix ['x', 'X'] cs then Text.isHexDigit
  else if hasRadix ['b', 'B'] cs then Text.isBinaryDigit
  else Char.isDigit

/-- The markers of an exponent in a numeral of its radix. -/
def exponentMarkers (cs : List Char) : List Char :=
  if hasRadix ['x', 'X'] cs then ['p', 'P']
  else if hasRadix ['b', 'B'] cs then []
  else ['e', 'E']

/-- A single digit. -/
inductive OneDigit (isDigit : Char → Bool) : List Char → Prop
  | intro {d : Char} : isDigit d = true → OneDigit isDigit [d]

/-- The digits of an exponent, behind a sign or none. -/
def SignedDigits : List Char → Prop := Then (AtMostOne isSign) (SomeRun Char.isDigit)

/-- A hexadecimal numeral whose exponent has no digits. -/
inductive OpenExponent : List Char → Prop
  | intro {x p : Char} {digits fraction signed mark : List Char} :
      (x == 'x' || x == 'X') = true → Run Text.isHexDigit digits →
      Pointed (SomeRun Text.isHexDigit) fraction → (p == 'p' || p == 'P') = true →
      AtMostOne isSign signed → AtMostOne isFloatingMark mark →
      OpenExponent ('0' :: x :: (digits ++ (fraction ++ p :: (signed ++ mark))))

/-- **The marks of a numeral have behind them what they call for**: an underscore a digit, a point a run
of digits unless the numeral ends with a hexadecimal point, and the marker of an exponent a run of digits
unless the exponent is open. -/
structure Marked (cs : List Char) : Prop where
  underscores : Leads ['_'] (OneDigit (radixDigit cs)) cs
  points : Leads ['.'] (SomeRun (radixDigit cs)) cs ↔ ¬ HexPoint cs
  exponents : Leads (exponentMarkers cs) SignedDigits cs ↔ ¬ OpenExponent cs

namespace Leads

variable {marks : List Char} {Next : List Char → Prop} {cs ds : List Char}

theorem of_none (none : holds marks cs = false) : Leads marks Next cs := by
  rintro before c behind rfl mark
  rw [holds_append, holds_cons, List.contains_iff_mem.mpr mark, Bool.true_or, Bool.or_true] at none
  cases none

theorem append (h : Leads marks Next cs) (h' : Leads marks Next ds) : Leads marks Next (cs ++ ds) := by
  intro before c behind split mark
  rcases List.append_eq_append_iff.mp split with ⟨more, rfl, rest⟩ | ⟨more, rfl, rest⟩
  · exact h' more c behind rest mark
  · cases more with
    | nil => exact h' [] c behind rest.symm mark
    | cons d more =>
      obtain ⟨rfl, rfl⟩ := List.cons.inj rest
      obtain ⟨next, some, begins⟩ := h before c more rfl mark
      exact ⟨next, some, begins.trans (List.prefix_append more ds)⟩

theorem cons {c : Char} (first : c ∈ marks → ∃ next, Next next ∧ next <+: cs)
    (h : Leads marks Next cs) : Leads marks Next (c :: cs) := by
  intro before d behind split mark
  cases before with
  | nil =>
    obtain ⟨rfl, rfl⟩ := List.cons.inj split
    exact first mark
  | cons _ before => exact h before d behind (List.cons.inj split).2 mark

end Leads

/-! ## Marks of the parts -/

theorem not_mem_of_letter {a b c : Char} {marks : List Char} (letter : (c == a || c == b) = true)
    (apart : a ∉ marks ∧ b ∉ marks) : c ∉ marks := by
  rcases Bool.or_eq_true_iff.mp letter with h | h <;> rw [beq_iff_eq.mp h]
  · exact apart.1
  · exact apart.2

section Parts

variable {isDigit isDigit' : Char → Bool} {Digits : List Char → Prop} {marks cs : List Char}

theorem leads_run (among : ∀ c, isDigit c = true → isDigit' c = true) (plain : isDigit '_' = false)
    (run : Run isDigit cs) : Leads ['_'] (OneDigit isDigit') cs := by
  induction run with
  | nil => exact .of_none rfl
  | @digit c cs digit _ ih =>
    refine ih.cons fun mark => ?_
    obtain rfl := List.mem_singleton.mp mark
    rw [plain] at digit
    cases digit
  | @underscore c cs digit _ ih =>
    exact ih.cons fun _ => ⟨[c], .intro (among c digit), by simp⟩

theorem Pointed.all (some : ∀ digits, Digits digits → Run isDigit digits) (point : Pointed Digits cs) :
    ∀ c ∈ cs, (isDigit c || c == '_' || c == '.') = true := by
  cases point with
  | absent => simp
  | present digits =>
    intro c member
    rcases List.mem_cons.mp member with rfl | member
    · simp
    · rw [(some _ digits).all c member]
      rfl

theorem Pointed.leads_underscore (some : ∀ digits, Digits digits → Run isDigit digits)
    (plain : isDigit '_' = false) (point : Pointed Digits cs) : Leads ['_'] (OneDigit isDigit) cs := by
  cases point with
  | absent => exact .of_none rfl
  | present digits =>
    exact (leads_run (fun _ digit => digit) plain (some _ digits)).cons fun mark =>
      absurd mark (by decide)

theorem Pointed.leads_point (some : ∀ digits, Digits digits → SomeRun isDigit digits)
    (plain : isDigit '.' = false) (point : Pointed Digits cs) : Leads ['.'] (SomeRun isDigit) cs := by
  cases point with
  | absent => exact .of_none rfl
  | @present digits filled =>
    have run := (some digits filled).1
    have none : holds ['.'] digits = false := holds_eq_false run.all (by simp [plain])
    exact (Leads.of_none none).cons fun _ => ⟨digits, some digits filled, List.prefix_refl _⟩

section Exponent

variable {e : Char} {signed digits rest : List Char}

/-- The digits of an exponent are digits of every radix that has an exponent. -/
theorem leads_underscore_exponent (among : ∀ c : Char, c.isDigit = true → isDigit' c = true)
    (other : e ∉ ['_']) (sign : AtMostOne isSign signed) (run : Run Char.isDigit digits)
    (none : holds ['_'] rest = false) :
    Leads ['_'] (OneDigit isDigit') (e :: (signed ++ (digits ++ rest))) :=
  .cons (fun mark => absurd mark other) <|
    (Leads.of_none (holds_eq_false sign.all (by decide))).append
      ((leads_run among rfl run).append (.of_none none))

/-- The marker of an exponent is in front of its digits, if there are any. -/
theorem leads_marker_exponent (sign : AtMostOne isSign signed) (run : Run Char.isDigit digits)
    (more : digits ≠ []) (none : holds marks (signed ++ (digits ++ rest)) = false) :
    Leads marks SignedDigits (e :: (signed ++ (digits ++ rest))) :=
  .cons (fun _ => ⟨signed ++ digits, ⟨signed, digits, rfl, sign, run, more⟩, rest, List.append_assoc _ _ _⟩)
    (.of_none none)

end Exponent

end Parts

theorem LedRun.someRun {isDigit : Char → Bool} {cs : List Char} (led : LedRun isDigit cs) :
    SomeRun isDigit cs := by
  refine ⟨led.1, ?_⟩
  rintro rfl
  cases led.2

/-! ## Marks of a numeral -/

section Radix

variable {x : Char} {cs : List Char}

theorem radix_hex (letter : (x == 'x' || x == 'X') = true) (cs : List Char) :
    radixDigit ('0' :: x :: cs) = Text.isHexDigit ∧ exponentMarkers ('0' :: x :: cs) = ['p', 'P'] := by
  have radix : hasRadix ['x', 'X'] ('0' :: x :: cs) = true := by simpa [hasRadix] using letter
  simp [radixDigit, exponentMarkers, radix]

theorem radix_binary (letter : (x == 'b' || x == 'B') = true) (cs : List Char) :
    radixDigit ('0' :: x :: cs) = Text.isBinaryDigit ∧ exponentMarkers ('0' :: x :: cs) = [] := by
  have other : hasRadix ['x', 'X'] ('0' :: x :: cs) = false := by
    show ['x', 'X'].contains x = false
    exact eq_false_of_apart (by decide) (mem_of_beq_or letter)
  have radix : hasRadix ['b', 'B'] ('0' :: x :: cs) = true := by simpa [hasRadix] using letter
  simp [radixDigit, exponentMarkers, other, radix]

/-- A decimal numeral has no prefix of a radix, in front of whose letter it would end. -/
theorem radix_decimal (decimal : DecimalNumeral cs) :
    radixDigit cs = Char.isDigit ∧ exponentMarkers cs = ['e', 'E'] := by
  have none : hasRadix ['x', 'X', 'b', 'B'] cs = false := by
    by_contra radix
    obtain ⟨x, behind, rfl, letter⟩ := exists_of_hasRadix (Bool.not_eq_false _ ▸ radix)
    obtain ⟨_, greedy⟩ := greedyOn_decimal (c := '0') (x :: behind) rfl
    have short := greedy.le (List.append_nil _).symm decimal
    rw [decimal_letter behind letter] at short
    simp at short
  have hex : hasRadix ['x', 'X'] cs = false := LiteralType.hasRadix_of_subset (by simp) none
  have binary : hasRadix ['b', 'B'] cs = false := LiteralType.hasRadix_of_subset (by simp) none
  simp [radixDigit, exponentMarkers, hex, binary]

end Radix

/-- Behind the point that ends a numeral there are no digits. -/
theorem HexPoint.not_leads {cs : List Char} {isDigit : Char → Bool} (point : HexPoint cs) :
    ¬ Leads ['.'] (SomeRun isDigit) cs := by
  obtain @⟨x, digits, letter, run⟩ := point
  intro leads
  obtain ⟨next, some, begins⟩ := leads ('0' :: x :: digits) '.' [] (by simp) (by simp)
  exact some.2 (List.prefix_nil.mp begins)

/-- Behind the marker of an open exponent there are no digits, since a sign and a suffix are none. -/
theorem OpenExponent.not_leads {cs : List Char} (exponent : OpenExponent cs) :
    ¬ Leads (exponentMarkers cs) SignedDigits cs := by
  obtain @⟨x, p, digits, fraction, signed, mark, letter, run, point, marker, sign, suffix⟩ := exponent
  intro leads
  rw [(radix_hex letter _).2] at leads
  obtain ⟨_, ⟨signed', digits', rfl, -, run', more⟩, rest, begins⟩ :=
    leads ('0' :: x :: (digits ++ fraction)) p (signed ++ mark) (by simp) (mem_of_beq_or marker)
  obtain ⟨c, digits', rfl⟩ := List.exists_cons_of_ne_nil more
  -- the first digit would have to be a sign or the mark of a type
  have among : c ∈ signed ++ mark := by
    rw [← begins]
    simp
  have other : c ∈ ['+', '-', 'f', 'F', 'd', 'D'] := by
    rcases List.mem_append.mp among with member | member
    · have sign' := sign.all c member
      simp only [isSign, Bool.or_eq_true, beq_iff_eq] at sign'
      rcases sign' with rfl | rfl <;> decide
    · have mark' := suffix.all c member
      simp only [isFloatingMark, Bool.or_eq_true, beq_iff_eq] at mark'
      rcases mark' with ((rfl | rfl) | rfl) | rfl <;> decide
  have part := run'.all c (List.mem_cons_self ..)
  rw [eq_false_of_apart (p := fun c => c.isDigit || c == '_') (by decide) other] at part
  cases part

/-- Behind the prefix of a radix the marks are those of what follows. -/
theorem Leads.radix {a b x : Char} {marks cs : List Char} {Next : List Char → Prop}
    (letter : (x == a || x == b) = true) (apart : '0' ∉ marks ∧ a ∉ marks ∧ b ∉ marks)
    (h : Leads marks Next cs) : Leads marks Next ('0' :: x :: cs) := by
  have second : Leads marks Next (x :: cs) :=
    h.cons fun mark => absurd mark (not_mem_of_letter letter apart.2)
  exact second.cons fun mark => absurd mark apart.1

/-- It is enough that the marks have behind them what they call for, where nothing is left open. -/
private theorem marked_of_leads {cs : List Char} (underscores : Leads ['_'] (OneDigit (radixDigit cs)) cs)
    (points : ¬ HexPoint cs → Leads ['.'] (SomeRun (radixDigit cs)) cs)
    (exponents : ¬ OpenExponent cs → Leads (exponentMarkers cs) SignedDigits cs) : Marked cs :=
  ⟨underscores, ⟨fun leads point => point.not_leads leads, points⟩,
    ⟨fun leads exponent => exponent.not_leads leads, exponents⟩⟩

theorem marked_decimal {cs : List Char} (decimal : DecimalNumeral cs) : Marked cs := by
  obtain ⟨digit, markers⟩ := radix_decimal decimal
  obtain ⟨whole, _, rfl, whole', fraction, _, rfl, fraction', exponent, mark, rfl, exponent', mark'⟩ :=
    decimal
  have led : ∀ digits, LedRun Char.isDigit digits → SomeRun Char.isDigit digits := fun _ => LedRun.someRun
  have led' : ∀ digits, LedRun Char.isDigit digits → Run Char.isDigit digits := fun _ led => led.1
  have free : ∀ {marks : List Char}, marks.any isDecimalMark = false → holds marks mark = false :=
    holds_eq_false mark'.all
  refine marked_of_leads ?_ (fun _ => ?_) (fun _ => ?_)
  · have tail : Leads ['_'] (OneDigit Char.isDigit) (exponent ++ mark) := by
      cases exponent' with
      | absent => exact .of_none (free (by decide))
      | present marker sign run =>
        rw [List.cons_append, List.append_assoc]
        exact leads_underscore_exponent (fun _ digit => digit) (not_mem_of_letter marker (by decide))
          sign run (free (by decide))
    rw [digit]
    exact (leads_run (fun _ digit => digit) rfl whole'.1).append
      ((fraction'.leads_underscore led' rfl).append tail)
  · have tail : holds ['.'] (exponent ++ mark) = false := by
      rw [holds_append, holds_eq_false exponent'.all (by decide), free (by decide)]
      rfl
    rw [digit]
    exact (Leads.of_none (holds_eq_false whole'.1.all (by decide))).append
      ((fraction'.leads_point led rfl).append (.of_none tail))
  · have tail : Leads ['e', 'E'] SignedDigits (exponent ++ mark) := by
      cases exponent' with
      | absent => exact .of_none (free (by decide))
      | present marker sign run more =>
        rw [List.cons_append, List.append_assoc]
        refine leads_marker_exponent sign run more ?_
        rw [holds_append, holds_append, holds_eq_false sign.all (by decide),
          holds_eq_false run.all (by decide), free (by decide)]
        rfl
    rw [markers]
    exact (Leads.of_none (holds_eq_false whole'.1.all (by decide))).append
      ((Leads.of_none (holds_eq_false (fraction'.all led') (by decide))).append tail)

theorem marked_binary {b : Char} {cs : List Char} (letter : (b == 'b' || b == 'B') = true)
    (form : BinaryForm cs) : Marked ('0' :: b :: cs) := by
  obtain ⟨digit, markers⟩ := radix_binary letter cs
  obtain ⟨digits, mark, rfl, run, mark'⟩ := form
  refine marked_of_leads ?_ (fun _ => ?_) (fun _ => ?_)
  · rw [digit]
    exact .radix letter (by decide) ((leads_run (fun _ digit => digit) rfl run).append
      (.of_none (holds_eq_false mark'.all (by decide))))
  · exact .radix letter (by decide) ((Leads.of_none (holds_eq_false run.all (by decide))).append
      (.of_none (holds_eq_false mark'.all (by decide))))
  · rw [markers]
    exact fun _ c _ _ mark => absurd mark List.not_mem_nil

theorem isHexDigit_of_isDigit (c : Char) (digit : c.isDigit = true) : Text.isHexDigit c = true := by
  simp [Text.isHexDigit, digit]

theorem marked_hex {x : Char} {cs : List Char} (letter : (x == 'x' || x == 'X') = true)
    (form : HexNumeral cs) : Marked ('0' :: x :: cs) := by
  obtain ⟨digit, markers⟩ := radix_hex letter cs
  obtain ⟨digits, _, rfl, run, fraction, tail, rfl, fraction', tail'⟩ := form
  have some : ∀ digits, SomeRun Text.isHexDigit digits → Run Text.isHexDigit digits := fun _ some => some.1
  refine marked_of_leads ?_ (fun _ => ?_) (fun closed => ?_)
  · have behind : Leads ['_'] (OneDigit Text.isHexDigit) tail := by
      cases tail' with
      | whole mark => exact .of_none (holds_eq_false mark.all (by decide))
      | exponent marker sign run mark =>
        exact leads_underscore_exponent isHexDigit_of_isDigit (not_mem_of_letter marker (by decide))
          sign run (holds_eq_false mark.all (by decide))
    rw [digit]
    exact .radix letter (by decide) ((leads_run (fun _ digit => digit) rfl run).append
      ((fraction'.leads_underscore some rfl).append behind))
  · rw [digit]
    exact .radix letter (by decide) ((Leads.of_none (holds_eq_false run.all (by decide))).append
      ((fraction'.leads_point (fun _ => id) rfl).append (.of_none (holds_eq_false tail'.all (by decide)))))
  · have behind : Leads ['p', 'P'] SignedDigits tail := by
      cases tail' with
      | whole mark => exact .of_none (holds_eq_false mark.all (by decide))
      | @exponent p signed digits' mark marker sign run' mark' =>
        refine leads_marker_exponent sign run' ?_ ?_
        · -- without digits the exponent would be open
          rintro rfl
          exact closed (.intro letter run fraction' marker sign mark')
        · rw [holds_append, holds_append, holds_eq_false sign.all (by decide),
            holds_eq_false run'.all (by decide), holds_eq_false mark'.all (by decide)]
          rfl
    rw [markers]
    exact .radix letter (by decide) ((Leads.of_none (holds_eq_false run.all (by decide))).append
      ((Leads.of_none (holds_eq_false (fraction'.all some) (by decide))).append behind))

/-- A numeral that ends with its point has no exponent, and its underscores are in front of digits. -/
theorem marked_hexPoint {cs : List Char} (point : HexPoint cs) : Marked cs := by
  have ends := point
  obtain @⟨x, digits, letter, run⟩ := point
  obtain ⟨digit, markers⟩ := radix_hex letter (digits ++ ['.'])
  refine marked_of_leads ?_ (fun open' => absurd ends open') (fun _ => ?_)
  · rw [digit]
    exact .radix letter (by decide) ((leads_run (fun _ digit => digit) rfl run).append (.of_none rfl))
  · rw [markers]
    exact .radix letter (by decide)
      ((Leads.of_none (holds_eq_false run.all (by decide))).append (.of_none rfl))

theorem Proper.marked {cs : List Char} (proper : Proper cs) : Marked cs := by
  cases proper with
  | decimal form => exact marked_decimal form
  | binary letter form => exact marked_binary letter form
  | hex letter form => exact marked_hex letter form

/-- **What the scan takes for a numeral has its marks.** -/
theorem marked_length {c : Char} (cs : List Char) (digit : c.isDigit = true) :
    Marked ((c :: cs).take (length (c :: cs))) := by
  have reads := readsNumeral cs digit
  by_cases firm : ∀ front, ¬ DanglesBehind front (c :: cs)
  · exact (reads.longest firm).member.marked
  · push Not at firm
    obtain ⟨front, dangles⟩ := firm
    rw [reads.dangling front dangles]
    exact marked_hexPoint dangles.1

end Numeral

/-- A lexeme that begins with a digit is a numeral, and has the marks of one. -/
theorem Lexeme.Before.marked {v : Vocabulary} {lexeme : Lexeme} {rest : List Char}
    (before : Before v lexeme rest) (digit : lexeme.text.head?.any Char.isDigit = true) :
    (∃ type, lexeme.kind = .literal type) ∧ Numeral.Marked lexeme.text := by
  cases before with
  | word start =>
    rw [Word.isStart_of_isDigit (by simpa using digit)] at start
    cases start
  | @numeral c cs _ _ digit size =>
    have marked := Numeral.marked_length (cs ++ rest) digit
    rw [← List.cons_append, size, List.take_left] at marked
    exact ⟨⟨_, rfl⟩, marked⟩
  | string => rw [quoted_text] at digit; cases digit
  | char => rw [quoted_text] at digit; cases digit
  | symbol unmarked =>
    have other := unmarked.digit
    simp [other] at digit
  | unrecognised unmarked =>
    have other := unmarked.digit
    simp [other] at digit

/-- **Every token that begins with a digit is a literal that has behind its marks what they call for**,
unless it ends with a hexadecimal point or with a hexadecimal exponent that has no digits. -/
theorem marked_tokenize {text : List Char} {t : Token} (member : t ∈ tokenize text) :
    ∃ covered, t.span.slice? text = some covered ∧ (covered.head?.any Char.isDigit = true →
      (∃ type, t.kind = .literal type) ∧ Numeral.Marked covered) := by
  obtain ⟨pieces, last, cut⟩ := Cut.exists_cut Vocabulary.java text
  obtain ⟨covered, slice, which⟩ := (cut.covers member).exists_slice?
  refine ⟨covered, slice, fun digit => ?_⟩
  rcases which with ⟨p, among, rfl, kind, -⟩ | ⟨rfl, -, -⟩
  · obtain ⟨cs, found⟩ := cut.exists_first? among
    obtain ⟨rest, -, before⟩ := Lexeme.exists_before found
    rw [kind]
    exact before.marked digit
  · cases digit

/-- The exponent of a hexadecimal float is its own, and so are the underscores on both sides of it. -/
theorem marked_tokenize_hexFloat :
    let text := ['0', 'x', '_', 'f', '.', '_', '8', 'p', '+', '1', '_', '0', 'f']
    let t : Token := ⟨.literal .float, "0x_f._8p+1_0f", ⟨0, 13⟩, true⟩
    t ∈ tokenize text ∧ ∃ covered, t.span.slice? text = some covered ∧
      (covered.head?.any Char.isDigit = true →
        (∃ type, t.kind = .literal type) ∧ Numeral.Marked covered) := by
  intro text t
  have member : t ∈ tokenize text := by decide +kernel
  exact ⟨member, marked_tokenize member⟩

/-- Not every numeric literal has behind its marks what they call for: an exponent may have no digits, and
a point may be the last character, where neither would be taken for part of a decimal numeral. -/
theorem openNumerals_tokenize :
    (⟨.literal .double, "0x1p", ⟨0, 4⟩, true⟩ ∈ tokenize ['0', 'x', '1', 'p'] ∧
      ∃ covered, (Span.mk 0 4).slice? ['0', 'x', '1', 'p'] = some covered ∧
        ¬ Numeral.Leads (Numeral.exponentMarkers covered) Numeral.SignedDigits covered) ∧
    ⟨.literal .int, "0x1.", ⟨0, 4⟩, true⟩ ∈ tokenize ['0', 'x', '1', '.', '_'] ∧
      ∃ covered, (Span.mk 0 4).slice? ['0', 'x', '1', '.', '_'] = some covered ∧
        ¬ Numeral.Leads ['.'] (Numeral.SomeRun (Numeral.radixDigit covered)) covered := by
  have digits : Numeral.Run Text.isHexDigit ['1'] := .digit rfl .nil
  have exponent : Numeral.OpenExponent ['0', 'x', '1', 'p'] := .intro rfl digits .absent rfl .none .none
  have point : Numeral.HexPoint ['0', 'x', '1', '.'] := .intro rfl digits
  exact ⟨⟨by decide +kernel, _, rfl, exponent.not_leads⟩, by decide +kernel, _, rfl, point.not_leads⟩

end Lexis
