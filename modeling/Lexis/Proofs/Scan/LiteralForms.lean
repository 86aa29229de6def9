import Lexis.Text.Utf8
import Lexis.Proofs.Scan.NumeralBody

/-!
# The forms of literals

The type of a text is that of its form. A form is a language: two words and one more, the texts between
two quotes, and for numerals the texts of a body with one of its suffixes or none. No text has two forms,
so it would not matter in which order the forms are tried, and a numeral is divided into its body and its
suffix in one way only (`ofText_by_forms`).

What tells the bodies apart is the second character, and the marker of an exponent behind hexadecimal
digits (`numeral?_eq_some_iff`).
-/

set_option autoImplicit false

namespace Lexis.LiteralType

open Peel
open scoped Computability

/-! ## Forms -/

/-- The texts of at least so many bytes that begin and end with a quote. -/
def quotedBy (quote : Char) (atLeast : Nat) : Language Char :=
  {cs | atLeast ≤ Text.byteLength cs ∧ cs.head? = some quote ∧ cs.getLast? = some quote}

/-- The forms of literals. A numeral of one body has a form for each of its suffixes, and one for none. -/
inductive Form where
  | truth
  | nothing
  | string
  | char
  | hexFloating
  | hexFloat
  | hexDouble
  | radix
  | radixLong
  | whole
  | broken
  | long
  | float
  | double
deriving DecidableEq

namespace Form

/-- The texts of a form. -/
def language : Form → Language Char
  | truth => {['t', 'r', 'u', 'e'], ['f', 'a', 'l', 's', 'e']}
  | nothing => {['n', 'u', 'l', 'l']}
  | string => quotedBy '"' 2
  | char => quotedBy '\'' 3
  | hexFloating => LiteralType.hexFloating
  | hexFloat => LiteralType.hexFloating * oneOf ['f', 'F']
  | hexDouble => LiteralType.hexFloating * oneOf ['d', 'D']
  | radix => LiteralType.radix
  | radixLong => LiteralType.radix * oneOf ['l', 'L']
  | whole => digits
  | broken => digits * (fraction isDecimalPart * (1 + exponent) + exponent)
  | long => decimal * oneOf ['l', 'L']
  | float => decimal * oneOf ['f', 'F']
  | double => decimal * oneOf ['d', 'D']

/-- The type of the literals of a form. -/
def type : Form → LiteralType
  | truth => .boolean
  | nothing => .null
  | string => .string
  | char => .char
  | radix | whole => .int
  | radixLong | long => .long
  | hexFloat | float => .float
  | hexFloating | hexDouble | broken | double => .double

end Form

/-! ## Suffixes -/

/-- The suffixes of numerals. -/
inductive Suffix where
  | bare
  | long
  | float
  | double

/-- The characters that a suffix may be. -/
def Suffix.marks : Suffix → List Char
  | bare => []
  | long => ['l', 'L']
  | float => ['f', 'F']
  | double => ['d', 'D']

/-- The texts of a suffix. -/
def Suffix.language : Suffix → Language Char
  | bare => 1
  | suffix => oneOf suffix.marks

/-- The suffix that a text is. -/
def suffix? : List Char → Option Suffix
  | [] => some .bare
  | [c] =>
    if c == 'f' || c == 'F' then some .float
    else if c == 'd' || c == 'D' then some .double
    else if c == 'l' || c == 'L' then some .long
    else none
  | _ => none

theorem suffix?_eq_some_iff {cs : List Char} {suffix : Suffix} :
    suffix? cs = some suffix ↔ cs ∈ suffix.language := by
  constructor
  · intro found
    unfold suffix? at found
    split at found
    · cases found
      exact Language.nil_mem_one
    · next c =>
      split_ifs at found with isFloat isDouble isLong <;> cases found
      · exact mem_oneOf.mpr ⟨c, mem_of_beq_or isFloat, rfl⟩
      · exact mem_oneOf.mpr ⟨c, mem_of_beq_or isDouble, rfl⟩
      · exact mem_oneOf.mpr ⟨c, mem_of_beq_or isLong, rfl⟩
    · cases found
  · intro member
    cases suffix with
    | bare => rw [(Language.mem_one cs).mp member]; rfl
    | _ =>
      obtain ⟨c, mark, rfl⟩ := mem_oneOf.mp member
      simp only [Suffix.marks, List.mem_cons, List.not_mem_nil, or_false] at mark
      rcases mark with rfl | rfl <;> rfl

/-- The form of a hexadecimal numeral with an exponent, by its suffix. -/
def hexFloatingForm? : Suffix → Option Form
  | .bare => some .hexFloating
  | .float => some .hexFloat
  | .double => some .hexDouble
  | .long => none

/-- The form of a numeral in another base, by its suffix. -/
def radixForm? : Suffix → Option Form
  | .bare => some .radix
  | .long => some .radixLong
  | _ => none

/-- The form of a decimal numeral that is not just digits, by its suffix. -/
def decimalForm? : Suffix → Option Form
  | .bare => some .broken
  | .long => some .long
  | .float => some .float
  | .double => some .double

theorem ofFloatingSuffix?_eq_map (cs : List Char) :
    ofFloatingSuffix? cs = ((suffix? cs).bind hexFloatingForm?).map Form.type := by
  unfold ofFloatingSuffix?
  split
  · rfl
  · next c =>
    simp only [suffix?]
    split_ifs <;> rfl
  · rw [suffix?.eq_3] <;> trivial

theorem ofWholeSuffix?_eq_map (cs : List Char) :
    ofWholeSuffix? cs = ((suffix? cs).bind radixForm?).map Form.type := by
  unfold ofWholeSuffix?
  split
  · rfl
  · next c =>
    split
    · next isLong =>
      have mark := mem_of_beq_or isLong
      simp only [List.mem_cons, List.not_mem_nil, or_false] at mark
      rcases mark with rfl | rfl <;> rfl
    · next other =>
      simp only [suffix?, if_neg other]
      split_ifs <;> rfl
  · rw [suffix?.eq_3] <;> trivial

/-- The suffix behind the body of a numeral. -/
def suffixBehind? (peel : List Char → Option (List Char)) (cs : List Char) : Option Suffix :=
  (peel cs).bind suffix?

/-- The form of a text as a hexadecimal numeral with an exponent. -/
def asHexFloating? (cs : List Char) : Option Form :=
  (suffixBehind? (andThen (hexFront? ['x', 'X']) binaryExponent?) cs).bind hexFloatingForm?

/-- The form of a text as a numeral in another base. -/
def asRadix? (cs : List Char) : Option Form :=
  (suffixBehind? (hexFront? ['x', 'X', 'b', 'B']) cs).bind radixForm?

/-- The form of a text as a decimal numeral. -/
def asDecimal? (cs : List Char) : Option Form :=
  if digits? cs = some [] then some .whole
  else (suffixBehind? (andThen digits? brokenPart?) cs).bind decimalForm?

theorem ofHexFloating?_eq_map (cs : List Char) :
    ofHexFloating? cs = (asHexFloating? cs).map Form.type := by
  unfold ofHexFloating?
  split
  · next x cs =>
    simp only [asHexFloating?, suffixBehind?, andThen, hexFront?_cons, List.contains_cons,
      List.contains_nil, Bool.or_false, ofFloatingSuffix?_eq_map]
    split
    · rw [Option.bind_some]
      cases afterFraction isHexPart (cs.dropWhile isHexPart) with
      | nil => rfl
      | cons p cs =>
        simp only [binaryExponent?, andThen, one, List.contains_cons, List.contains_nil, Bool.or_false]
        split <;> rfl
    · rfl
  · next other =>
    simp only [asHexFloating?, suffixBehind?, andThen, hexFront?_eq_none other]
    rfl

theorem ofRadix?_eq_map (cs : List Char) : ofRadix? cs = (asRadix? cs).map Form.type := by
  unfold ofRadix?
  split
  · next x cs =>
    simp only [asRadix?, suffixBehind?, hexFront?_cons, List.contains_cons,
      List.contains_nil, Bool.or_false, ofWholeSuffix?_eq_map, Bool.or_assoc]
    split <;> rfl
  · next other =>
    simp only [asRadix?, suffixBehind?, hexFront?_eq_none other]
    rfl

theorem ofDecimal?_eq_map (cs : List Char) : ofDecimal? cs = (asDecimal? cs).map Form.type := by
  cases cs with
  | nil => rfl
  | cons d cs =>
    by_cases digit : d.isDigit = true
    · have digits : digits? (d :: cs) = some (cs.dropWhile isDecimalPart) := by
        simp [digits?, andThen, one, run, digit]
      simp only [ofDecimal?, asDecimal?, suffixBehind?, andThen, digits, if_pos digit, Option.bind_some]
      cases cs.dropWhile isDecimalPart with
      | nil => rfl
      | cons c behind =>
        have some : some (c :: behind) ≠ some [] := by simp
        simp only [brokenPart?, andThen, Peel.optional, Option.bind_some, if_neg some]
        generalize (afterExponent? (afterFraction isDecimalPart (c :: behind))).getD _ = rest
        cases rest with
        | nil => rfl
        | cons d rest =>
          simp only [ofWholeSuffix?_eq_map, ofFloatingSuffix?_eq_map]
          cases found : suffix? (d :: rest) with
          | none => rfl
          | some suffix =>
            cases suffix with
            | bare => cases suffix?_eq_some_iff.mp found
            | _ => rfl
    · simp [ofDecimal?, asDecimal?, suffixBehind?, digits?, andThen, one, digit]

/-! ## The forms of numerals -/

section Numerals

variable {cs : List Char} {suffix : Suffix} {form : Form}

theorem Suffix.apart {inside : Char → Bool} (other : suffix.marks.any inside = false) :
    Apart inside suffix.language := by
  cases suffix with
  | bare => exact apart_one
  | _ => exact (leads_ofClass _).apart (fails_of_mark other)

/-- A suffix is found behind a body if it is told apart from the end of the body. -/
theorem bind_suffixBehind?_eq_some_iff {inside : Char → Bool} {body : Language Char}
    {peel : List Char → Option (List Char)} {toForm : Suffix → Option Form} (peels : Peels inside body peel)
    (apart : ∀ suffix, toForm suffix = some form → suffix.marks.any inside = false) :
    (suffixBehind? peel cs).bind toForm = some form ↔
      ∃ suffix, toForm suffix = some form ∧ cs ∈ body * suffix.language := by
  simp only [suffixBehind?, Option.bind_eq_some_iff, suffix?_eq_some_iff]
  constructor
  · rintro ⟨suffix, ⟨rest, taken, member⟩, asked⟩
    exact ⟨suffix, asked, (peels.mem_mul (Suffix.apart (apart suffix asked))).mpr ⟨rest, taken, member⟩⟩
  · rintro ⟨suffix, asked, member⟩
    exact ⟨suffix, (peels.mem_mul (Suffix.apart (apart suffix asked))).mp member, asked⟩

/-- The form that the suffix asks for is the form of the text, if its texts are just the body and the
suffix. -/
theorem bind_suffixBehind?_eq_some_iff_mem {inside : Char → Bool} {body : Language Char}
    {peel : List Char → Option (List Char)} {toForm : Suffix → Option Form} (peels : Peels inside body peel)
    (apart : ∀ suffix, toForm suffix = some form → suffix.marks.any inside = false)
    (texts : ∀ suffix, toForm suffix = some form → form.language = body * suffix.language) :
    (suffixBehind? peel cs).bind toForm = some form ↔
      (∃ suffix, toForm suffix = some form) ∧ cs ∈ form.language := by
  rw [bind_suffixBehind?_eq_some_iff peels apart]
  constructor
  · rintro ⟨suffix, asked, member⟩
    exact ⟨⟨suffix, asked⟩, texts suffix asked ▸ member⟩
  · rintro ⟨⟨suffix, asked⟩, member⟩
    exact ⟨suffix, asked, texts suffix asked ▸ member⟩

theorem asHexFloating?_eq_some_iff :
    asHexFloating? cs = some form ↔
      (∃ suffix, hexFloatingForm? suffix = some form) ∧ cs ∈ form.language := by
  refine bind_suffixBehind?_eq_some_iff_mem peels_hexFloating (fun suffix _ => ?_) fun suffix asked => ?_
  · cases suffix <;> decide
  · cases suffix <;> cases asked
    · exact (mul_one hexFloating).symm
    all_goals rfl

/-- Among hexadecimal digits no suffix is told apart but that of a long. -/
theorem asRadix?_eq_some_iff :
    asRadix? cs = some form ↔
      (∃ suffix, radixForm? suffix = some form) ∧ cs ∈ form.language := by
  refine bind_suffixBehind?_eq_some_iff_mem (peels_hexFront _) (fun suffix asked => ?_)
    fun suffix asked => ?_
  · cases suffix <;> cases asked <;> decide
  · cases suffix <;> cases asked
    · exact (mul_one radix).symm
    · rfl

/-- A fraction or an exponent is what is not empty where both may be absent. -/
theorem mem_broken_iff : cs ∈ fraction isDecimalPart * (1 + exponent) + exponent ↔
    cs ≠ [] ∧ cs ∈ (1 + fraction isDecimalPart) * (1 + exponent) := by
  have either : (1 + fraction isDecimalPart) * (1 + exponent) =
      1 + (fraction isDecimalPart * (1 + exponent) + exponent) := by
    rw [add_mul, one_mul, add_assoc, add_comm exponent]
  have some : cs ∈ fraction isDecimalPart * (1 + exponent) + exponent → cs ≠ [] := by
    rintro member rfl
    rcases (Language.mem_add _ _ _).mp member with member | member
    · cases (leads_ofClass ['.'].contains).mul.mul [] member
    · cases (leads_ofClass ['e', 'E'].contains).mul [] member
  rw [either, Language.mem_add 1, Language.mem_one]
  exact ⟨fun member => ⟨some member, .inr member⟩, fun ⟨more, member⟩ => member.resolve_left more⟩

theorem all_of_mem_digits (member : cs ∈ digits) : ∀ c ∈ cs, isDecimalPart c = true := by
  obtain ⟨_, ⟨d, digit, rfl⟩, back, row, rfl⟩ := Language.mem_mul.mp member
  rw [List.singleton_append, List.forall_mem_cons]
  exact ⟨by rw [isDecimalPart, digit, Bool.true_or], mem_kstar_ofClass.mp row⟩

theorem notMem_digits {body : Language Char} {marks : List Char} (member : cs ∈ body * oneOf marks)
    (other : marks.any isDecimalPart = false) : cs ∉ digits := by
  intro row
  obtain ⟨front, -, _, ⟨c, mark, rfl⟩, rfl⟩ := Language.mem_mul.mp member
  have part := all_of_mem_digits row c (by simp)
  rw [fails_of_mark other c mark] at part
  cases part

theorem mem_language_of_decimalForm? (asked : decimalForm? suffix = some form) :
    cs ∈ form.language ↔ cs ∉ digits ∧ cs ∈ decimal * suffix.language := by
  cases suffix <;> cases asked
  case bare =>
    have apart : Apart isDecimalPart (fraction isDecimalPart * (1 + exponent) + exponent) :=
      ((leads_ofClass _).mul.mul.apart (fails_of_mark (by decide))).add
        ((leads_ofClass _).mul.apart (fails_of_mark (by decide)))
    show cs ∈ digits * _ ↔ cs ∉ digits ∧ cs ∈ decimal * 1
    rw [mul_one, decimal, peels_digits.mem_mul apart, peels_digits.mem_mul apart_brokenPart,
      peels_digits.mem]
    constructor
    · rintro ⟨behind, taken, member⟩
      obtain ⟨more, member⟩ := mem_broken_iff.mp member
      exact ⟨fun none => more (Option.some.inj (taken.symm.trans none)), behind, taken, member⟩
    · rintro ⟨more, behind, taken, member⟩
      exact ⟨behind, taken, mem_broken_iff.mpr ⟨fun none => more (none ▸ taken), member⟩⟩
  all_goals exact ⟨fun member => ⟨notMem_digits member (by decide), member⟩, And.right⟩

theorem asDecimal?_eq_some_iff :
    asDecimal? cs = some form ↔
      (form = .whole ∨ ∃ suffix, decimalForm? suffix = some form) ∧ cs ∈ form.language := by
  rw [asDecimal?]
  split
  · next whole =>
    have member : cs ∈ digits := peels_digits.mem.mpr whole
    constructor
    · intro found
      cases found
      exact ⟨.inl rfl, member⟩
    · rintro ⟨rfl | ⟨suffix, asked⟩, member'⟩
      · rfl
      · exact absurd member ((mem_language_of_decimalForm? asked).mp member').1
  · next more =>
    have other : cs ∉ digits := fun member => more (peels_digits.mem.mp member)
    rw [bind_suffixBehind?_eq_some_iff peels_decimal fun suffix _ => by cases suffix <;> decide]
    constructor
    · rintro ⟨suffix, asked, member⟩
      exact ⟨.inr ⟨suffix, asked⟩, (mem_language_of_decimalForm? asked).mpr ⟨other, member⟩⟩
    · rintro ⟨rfl | ⟨suffix, asked⟩, member⟩
      · exact absurd member other
      · exact ⟨suffix, asked, ((mem_language_of_decimalForm? asked).mp member).2⟩

theorem exists_of_asHexFloating? (found : asHexFloating? cs = some form) :
    ∃ left rest, hexFront? ['x', 'X'] cs = some left ∧ binaryExponent? left = some rest := by
  obtain ⟨suffix, found, -⟩ := Option.bind_eq_some_iff.mp found
  obtain ⟨rest, found, -⟩ := Option.bind_eq_some_iff.mp found
  obtain ⟨left, front, taken⟩ := Option.bind_eq_some_iff.mp found
  exact ⟨left, rest, front, taken⟩

theorem exists_of_asRadix? (found : asRadix? cs = some form) :
    ∃ left, hexFront? ['x', 'X', 'b', 'B'] cs = some left := by
  obtain ⟨suffix, found, -⟩ := Option.bind_eq_some_iff.mp found
  obtain ⟨left, front, -⟩ := Option.bind_eq_some_iff.mp found
  exact ⟨left, front⟩

/-- The marker of an exponent cannot be the suffix of a numeral without one. -/
theorem asRadix?_eq_none (found : asHexFloating? cs = some form) : asRadix? cs = none := by
  obtain ⟨left, rest, front, taken⟩ := exists_of_asHexFloating? found
  obtain ⟨part, member, rfl⟩ := peels_binaryExponent.sound left rest taken
  obtain ⟨_, ⟨p, marker, rfl⟩, more, -, rfl⟩ := Language.mem_mul.mp member
  have front' : hexFront? ['x', 'X', 'b', 'B'] cs = some _ := hexFront?_mono (by simp) front
  have marker := List.contains_iff_mem.mp marker
  simp only [List.mem_cons, List.not_mem_nil, or_false] at marker
  rw [asRadix?, suffixBehind?, front', List.append_assoc]
  generalize more ++ rest = behind
  rcases marker with rfl | rfl <;> cases behind <;> rfl

/-- The letter of a base cannot stand in a decimal numeral. -/
theorem asDecimal?_eq_none {letters rest : List Char} (found : hexFront? letters cs = some rest)
    (fewer : letters ⊆ ['x', 'X', 'b', 'B']) : asDecimal? cs = none := by
  obtain ⟨x, letter, left, rfl⟩ := exists_of_hexFront? found
  have letter := fewer letter
  simp only [List.mem_cons, List.not_mem_nil, or_false] at letter
  rcases letter with rfl | rfl | rfl | rfl <;> cases left <;> rfl

/-- The form of a text as a numeral. -/
def numeral? (cs : List Char) : Option Form := (asHexFloating? cs).or ((asRadix? cs).or (asDecimal? cs))

/-- **No text is a numeral of two kinds**, so that it does not matter which kind is tried first. -/
theorem numeral?_eq_some_iff :
    numeral? cs = some form ↔
      asHexFloating? cs = some form ∨ asRadix? cs = some form ∨ asDecimal? cs = some form := by
  rw [numeral?]
  cases hex : asHexFloating? cs with
  | some found =>
    obtain ⟨left, rest, front, -⟩ := exists_of_asHexFloating? hex
    simp [asRadix?_eq_none hex, asDecimal?_eq_none front (by simp)]
  | none =>
    cases radix : asRadix? cs with
    | some found =>
      obtain ⟨left, front⟩ := exists_of_asRadix? radix
      simp [asDecimal?_eq_none front (List.Subset.refl _)]
    | none => simp

theorem begins_of_numeral? (found : numeral? cs = some form) :
    ∃ c left, c.isDigit = true ∧ cs = c :: left := by
  cases cs with
  | nil => cases found
  | cons c left =>
    refine ⟨c, left, ?_, rfl⟩
    by_contra other
    have front (letters : List Char) : hexFront? letters (c :: left) = none := by
      refine hexFront?_eq_none fun x behind split => other ?_
      rw [(List.cons.inj split).1]
      rfl
    simp [numeral?, asHexFloating?, asRadix?, asDecimal?, suffixBehind?, andThen, front, digits?, one,
      other] at found

end Numerals

/-! ## The form of a text -/

section Texts

variable {cs : List Char} {form : Form}

theorem isQuotedBy_iff {quote : Char} {atLeast : Nat} (narrow : quote.utf8Size = 1)
    (few : atLeast ≤ 3) : isQuotedBy quote atLeast cs = true ↔ cs ∈ quotedBy quote atLeast := by
  have size (first : cs.head? = some quote) (last : cs.getLast? = some quote) :
      atLeast ≤ cs.length ↔ atLeast ≤ Text.byteLength cs := by
    -- a text of two characters is two quotes, and a longer one is long enough in either measure
    rcases cs with _ | ⟨c, _ | ⟨d, _ | ⟨e, cs⟩⟩⟩
    · cases first
    · obtain rfl : c = quote := by simpa using first
      simp [narrow]
    · obtain rfl : d = quote := by simpa using last
      obtain rfl : c = d := by simpa using first
      simp [narrow]
    · have pos := c.utf8Size_pos
      have pos' := d.utf8Size_pos
      have pos'' := e.utf8Size_pos
      simp only [List.length_cons, Text.byteLength_cons]
      omega
  simp only [isQuotedBy, Bool.and_eq_true, decide_eq_true_eq, beq_iff_eq, and_assoc]
  constructor
  · rintro ⟨enough, first, last⟩
    exact ⟨(size first last).mp enough, first, last⟩
  · rintro ⟨enough, first, last⟩
    exact ⟨(size first last).mpr enough, first, last⟩

/-- The form of a text, each tried in turn. -/
def form? (cs : List Char) : Option Form :=
  if cs = ['t', 'r', 'u', 'e'] || cs = ['f', 'a', 'l', 's', 'e'] then some .truth
  else if cs = ['n', 'u', 'l', 'l'] then some .nothing
  else if isQuotedBy '"' 2 cs then some .string
  else if isQuotedBy '\'' 3 cs then some .char
  else numeral? cs

theorem ofText_eq_form? (cs : List Char) : ofText cs = ((form? cs).map Form.type).getD .unknown := by
  unfold ofText form?
  split_ifs
  case neg =>
    rw [ofHexFloating?_eq_map, ofRadix?_eq_map, ofDecimal?_eq_map, ← Option.map_or, ← Option.map_or]
    rfl
  all_goals rfl

theorem form?_of_numeral? (found : numeral? cs = some form) : form? cs = some form := by
  obtain ⟨c, left, digit, rfl⟩ := begins_of_numeral? found
  have apart : ∀ d : Char, d.isDigit = false → c ≠ d := fun _ => ne_of_isDigit digit
  simp [form?, isQuotedBy, apart 't' (by decide), apart 'f' (by decide), apart 'n' (by decide),
    apart '"' (by decide), apart '\'' (by decide), found]

theorem mem_of_form? (found : form? cs = some form) : cs ∈ form.language := by
  unfold form? at found
  split_ifs at found with word word' string char
  · cases found
    show cs = _ ∨ cs = _
    simpa using word
  · cases found
    exact word'
  · cases found
    exact (isQuotedBy_iff rfl (by decide)).mp string
  · cases found
    exact (isQuotedBy_iff rfl (by decide)).mp char
  · rcases numeral?_eq_some_iff.mp found with found | found | found
    · exact (asHexFloating?_eq_some_iff.mp found).2
    · exact (asRadix?_eq_some_iff.mp found).2
    · exact (asDecimal?_eq_some_iff.mp found).2

theorem form?_of_mem (member : cs ∈ form.language) : form? cs = some form := by
  have hexFloating (suffix : Suffix) (asked : hexFloatingForm? suffix = some form) :
      form? cs = some form :=
    form?_of_numeral? (numeral?_eq_some_iff.mpr
      (.inl (asHexFloating?_eq_some_iff.mpr ⟨⟨suffix, asked⟩, member⟩)))
  have radix (suffix : Suffix) (asked : radixForm? suffix = some form) : form? cs = some form :=
    form?_of_numeral? (numeral?_eq_some_iff.mpr
      (.inr (.inl (asRadix?_eq_some_iff.mpr ⟨⟨suffix, asked⟩, member⟩))))
  have decimal (family : form = .whole ∨ ∃ suffix, decimalForm? suffix = some form) :
      form? cs = some form :=
    form?_of_numeral? (numeral?_eq_some_iff.mpr
      (.inr (.inr (asDecimal?_eq_some_iff.mpr ⟨family, member⟩))))
  cases form with
  | truth => rcases member with rfl | rfl <;> rfl
  | nothing => obtain rfl : cs = _ := member; rfl
  | string =>
    have quoted := (isQuotedBy_iff rfl (by decide)).mpr member
    obtain ⟨left, rfl⟩ := List.head?_eq_some_iff.mp member.2.1
    simp [form?, quoted]
  | char =>
    have quoted := (isQuotedBy_iff rfl (by decide)).mpr member
    obtain ⟨left, rfl⟩ := List.head?_eq_some_iff.mp member.2.1
    have other : isQuotedBy '"' 2 ('\'' :: left) = false := by simp [isQuotedBy]
    simp [form?, quoted, other]
  | hexFloating => exact hexFloating .bare rfl
  | hexFloat => exact hexFloating .float rfl
  | hexDouble => exact hexFloating .double rfl
  | radix => exact radix .bare rfl
  | radixLong => exact radix .long rfl
  | whole => exact decimal (.inl rfl)
  | broken => exact decimal (.inr ⟨.bare, rfl⟩)
  | long => exact decimal (.inr ⟨.long, rfl⟩)
  | float => exact decimal (.inr ⟨.float, rfl⟩)
  | double => exact decimal (.inr ⟨.double, rfl⟩)

theorem ofText_of_mem (member : cs ∈ form.language) : ofText cs = form.type := by
  rw [ofText_eq_form?, form?_of_mem member]
  rfl

/-- **The form of a text** is the one whose texts it is among. -/
theorem form?_eq_some_iff : form? cs = some form ↔ cs ∈ form.language := ⟨mem_of_form?, form?_of_mem⟩

instance (cs : List Char) (form : Form) : Decidable (cs ∈ form.language) :=
  decidable_of_iff (form? cs = some form) form?_eq_some_iff

/-- In whatever order the forms are tried, the first that fits is the form of the text. -/
theorem find?_eq_form? {order : List Form} (complete : ∀ form, form ∈ order) (cs : List Char) :
    order.find? (fun form => cs ∈ form.language) = form? cs := by
  cases found : order.find? (fun form => cs ∈ form.language) with
  | some form =>
    have member : cs ∈ form.language := by simpa using List.find?_some found
    exact (form?_of_mem member).symm
  | none =>
    cases fits : form? cs with
    | none => rfl
    | some form =>
      have other := List.find?_eq_none.mp found form (complete form)
      exact absurd (decide_eq_true (mem_of_form? fits)) other

end Texts

/-- **The type of a text is that of its form**, and it is unknown where a text has none.

No text has two forms, and so the forms may be tried in any order. A numeral is divided in one way into
its body and its suffix. -/
structure TypedByForm (cs : List Char) : Prop where
  typed : ∀ form : Form, cs ∈ form.language → ofText cs = form.type
  unknown : (∀ form : Form, cs ∉ form.language) → ofText cs = .unknown
  unique : ∀ form form' : Form, cs ∈ form.language → cs ∈ form'.language → form = form'
  anyOrder : ∀ order : List Form, (∀ form, form ∈ order) →
    ofText cs = ((order.find? fun form => cs ∈ form.language).map Form.type).getD .unknown
  hexFloating : DividesOnce hexFloating (1 + oneOf ['f', 'F', 'd', 'D']) cs
  radix : DividesOnce radix (1 + oneOf ['l', 'L']) cs
  decimal : DividesOnce decimal (1 + oneOf ['f', 'F', 'd', 'D', 'l', 'L']) cs

/-- **Every text is typed by its form.** -/
theorem ofText_by_forms (cs : List Char) : TypedByForm cs where
  typed := fun _ => ofText_of_mem
  unknown := by
    intro none
    rw [ofText_eq_form?]
    cases fits : form? cs with
    | none => rfl
    | some form => exact absurd (mem_of_form? fits) (none form)
  unique := fun form form' member member' =>
    Option.some.inj ((form?_of_mem member).symm.trans (form?_of_mem member'))
  anyOrder := by
    intro order complete
    rw [ofText_eq_form?, find?_eq_form? complete]
  hexFloating := peels_hexFloating.dividesOnce (apart_suffix (by decide)) cs
  radix := (peels_hexFront _).dividesOnce (apart_suffix (by decide)) cs
  decimal := peels_decimal.dividesOnce (apart_suffix (by decide)) cs

-- behind hexadecimal digits an `f` is one more of them, and behind an exponent it is a suffix
example : ['0', 'x', '1', 'f'] ∈ Form.radix.language ∧
    ['0', 'x', '1', 'p', 'f'] ∈ Form.hexFloat.language := by
  decide

end Lexis.LiteralType
