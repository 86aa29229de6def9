import Lexis.Proofs.Lexer.Partition
import Lexis.Proofs.Scan.LiteralType

/-!
# Types of literal tokens

The scan decides by the first character of a literal how it is read, and its type is inferred from the
whole of its text afterwards. The two agree: every literal token has the type that its first characters
and its marks call for (`literalType_tokenize`), and none is left without a type.
-/

set_option autoImplicit false

namespace Lexis

namespace LiteralType

/-- **The type that a literal should have**: that of its quotes, that of its marks where it begins with a
digit, and otherwise that of a word. Absent for a text that is no literal. -/
def expected? : List Char → Option LiteralType
  | [] => none
  | c :: cs =>
    if c == '"' then some .string
    else if c == '\'' then some .char
    else if c.isDigit then some (ofMarks (c :: cs))
    else if c :: cs = ['t', 'r', 'u', 'e'] || c :: cs = ['f', 'a', 'l', 's', 'e'] then some .boolean
    else if c :: cs = ['n', 'u', 'l', 'l'] then some .null
    else none

theorem ofMarks_ne_unknown (cs : List Char) : ofMarks cs ≠ .unknown := by
  unfold ofMarks ofHexMarks ofDecimalMarks
  repeat' split
  all_goals simp

theorem ofText_string (body : List Char) : ofText ('"' :: (body ++ ['"'])) = .string := by
  have last : ('"' :: (body ++ ['"'])).getLast? = some '"' := by
    rw [← List.cons_append, List.getLast?_concat]
  simp [ofText, isQuotedBy, last]

theorem ofText_char {item : List Char} (some : 0 < item.length) :
    ofText ('\'' :: (item ++ ['\''])) = .char := by
  have last : ('\'' :: (item ++ ['\''])).getLast? = Option.some '\'' := by
    rw [← List.cons_append, List.getLast?_concat]
  have long : 3 ≤ item.length + 1 + 1 := by omega
  simp [ofText, isQuotedBy, last, long]

/-- No literal should be without a type. -/
theorem expected?_ne_unknown (cs : List Char) : expected? cs ≠ some .unknown := by
  unfold expected?
  repeat' split
  all_goals simp [ofMarks_ne_unknown]

end LiteralType

/-- The literal words of Java have the types that they should have. -/
theorem Vocabulary.expected?_of_kindOfWord {word : List Char} {type : LiteralType}
    (literal : java.kindOfWord word = .literal type) : LiteralType.expected? word = some type := by
  unfold kindOfWord at literal
  split at literal
  · cases literal
  · split at literal
    · next among =>
      obtain rfl := TokenKind.literal.inj literal
      have spelled : word = ['t', 'r', 'u', 'e'] ∨ word = ['f', 'a', 'l', 's', 'e'] ∨
          word = ['n', 'u', 'l', 'l'] := by
        have listed : String.ofList word ∈ ["true", "false", "null"] := by
          simpa [isLiteralWord, java, ofLists] using among
        have back : ∀ s : String, String.ofList word = s → word = s.toList := by
          rintro _ rfl
          exact String.toList_ofList.symm
        simp only [List.mem_cons, List.not_mem_nil, or_false] at listed
        exact listed.imp (back _) (Or.imp (back _) (back _))
      rcases spelled with rfl | rfl | rfl <;> decide
    · cases literal

namespace Lexeme

/-- **A literal has the type that it should have**, in front of whatever text it is cut. -/
theorem Before.expected?_eq {lexeme : Lexeme} {rest : List Char} {type : LiteralType}
    (before : Before Vocabulary.java lexeme rest) (literal : lexeme.kind = .literal type) :
    LiteralType.expected? lexeme.text = some type := by
  cases before with
  | word => exact Vocabulary.expected?_of_kindOfWord literal
  | @numeral c cs _ start digit size =>
    have spelled := Numeral.spelled_length (cs ++ rest) digit
    rw [← List.cons_append, size, List.take_left] at spelled
    rw [← TokenKind.literal.inj literal, Numeral.ofText_eq_ofMarks spelled]
    have quote : c ≠ '"' := LiteralType.ne_of_isDigit digit (by decide)
    have apostrophe : c ≠ '\'' := LiteralType.ne_of_isDigit digit (by decide)
    simp [LiteralType.expected?, quote, apostrophe, digit]
  | @string closed cs _ read =>
    cases closed with
    | false => cases literal
    | true =>
      obtain ⟨body, -, rfl⟩ := Quotation.readString_closing read
      rw [← TokenKind.literal.inj literal, LiteralType.ofText_string]
      rfl
  | @char closed cs _ read =>
    cases closed with
    | false => cases literal
    | true =>
      obtain ⟨item, one, rfl⟩ := Quotation.readChar_closing read
      rw [← TokenKind.literal.inj literal, LiteralType.ofText_char one.length_pos]
      rfl
  | symbol _ _ found => rcases kind_of_symbolAt? found with rfl | rfl <;> cases literal
  | unrecognised => cases literal

end Lexeme

/-- **Every literal token has the type that its text calls for**, and none is without a type. -/
theorem literalType_tokenize {text : List Char} {t : Token} {type : LiteralType}
    (member : t ∈ tokenize text) (literal : t.kind = .literal type) :
    type ≠ .unknown ∧
      ∃ covered, t.span.slice? text = some covered ∧ LiteralType.expected? covered = some type := by
  obtain ⟨pieces, last, cut⟩ := Cut.exists_cut Vocabulary.java text
  obtain ⟨covered, slice, which⟩ := (cut.covers member).exists_slice?
  rcases which with ⟨p, among, rfl, kind, -⟩ | ⟨-, kind, -⟩
  · obtain ⟨cs, found⟩ := cut.exists_first? among
    obtain ⟨rest, -, before⟩ := Lexeme.exists_before found
    have expected := before.expected?_eq (kind.symm.trans literal)
    exact ⟨fun unknown => LiteralType.expected?_ne_unknown _ (unknown ▸ expected), _, slice, expected⟩
  · rw [kind] at literal
    cases literal

/-- A letter that is a digit in front of the exponent is the mark of a float behind it. -/
theorem literalType_tokenize_hexFloat :
    let text := ['0', 'x', '_', '1', '.', 'f', 'p', '+', 'f']
    let t : Token := ⟨.literal .float, "0x_1.fp+f", ⟨0, 9⟩, true⟩
    (t ∈ tokenize text ∧ t.kind = .literal .float) ∧ LiteralType.float ≠ .unknown ∧
      ∃ covered, t.span.slice? text = some covered ∧ LiteralType.expected? covered = some .float := by
  intro text t
  have member : t ∈ tokenize text := by decide +kernel
  exact ⟨⟨member, rfl⟩, literalType_tokenize member rfl⟩

end Lexis
