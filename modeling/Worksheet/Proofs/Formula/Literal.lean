import Worksheet.Proofs.Formula.Alternation
import Worksheet.Proofs.Text.Cut
import Worksheet.Proofs.Text.Letter

/-! Literals as arguments: numbers, and texts in quotes. No other way to read an argument comes before them, since
ranges, cells and calls begin with a letter and no comparison stands in a number or in quotes. -/

namespace Worksheet

/-! ## No letter in front -/

section

variable {first : Char} (notLetter : Text.isLetter first = false) (rest : Text)

include notLetter

theorem Address.cellParts_eq_none : cellParts? (first :: rest) = none := by
  simp [cellParts?, notLetter]

theorem callStart_eq_none : callStart? (first :: rest) = none := by
  unfold callStart?
  split
  · simp [notLetter]
  · rfl

theorem Address.spanParts_eq_none : spanParts? (first :: rest) = none := by
  have head : ∃ later others, Text.splitOn [':'] (Text.dropFinalNewline (first :: rest)) = later :: others ∧
      cellParts? later = none := by
    have kept : Text.dropFinalNewline (first :: rest) = first :: rest ∨
        Text.dropFinalNewline (first :: rest) = (first :: rest).dropLast := by
      unfold Text.dropFinalNewline
      split
      · exact Or.inr rfl
      · exact Or.inl rfl
    have begins : Text.dropFinalNewline (first :: rest) = [] ∨
        ∃ after, Text.dropFinalNewline (first :: rest) = first :: after := by
      rcases kept with same | shorter
      · exact Or.inr ⟨rest, same⟩
      · cases rest with
        | nil => exact Or.inl shorter
        | cons second rest => exact Or.inr ⟨_, shorter⟩
    rcases begins with empty | ⟨after, same⟩
    · exact ⟨[], [], by rw [empty]; rfl, rfl⟩
    · rw [same, Text.splitOn, if_neg (by simp), Text.cut]
      split
      · exact ⟨[], _, rfl, rfl⟩
      · obtain ⟨later, others, equal⟩ := Text.exists_cut [':'] 0 [first] after
        exact ⟨first :: later, others, equal, cellParts_eq_none notLetter later⟩
  obtain ⟨later, others, split, noCell⟩ := head
  unfold spanParts?
  rw [split]
  split
  next same =>
    cases same
    simp [noCell]
  next => rfl

theorem Argument.ofTrimmed_of_noLetter (noComparison : Comparison.find? (first :: rest) = none) :
    ofTrimmed (first :: rest) = ofResult id (ofPlain (first :: rest)) := by
  rw [ofTrimmed, Address.spanParts_eq_none notLetter, Address.cellParts_eq_none notLetter]
  simp only
  split
  next found => simp [noComparison] at found
  next => simp [callStart_eq_none notLetter]

end

/-! ## No comparison inside -/

theorem Comparison.findFrom_eq_none {text : Text} (none : ∀ char ∈ text, Token.isComparisonChar char = false)
    (scan : Scan) (before : Text) : findFrom scan before text = .none := by
  induction text generalizing scan before with
  | nil => rfl
  | cons char rest ih =>
    have here := none char (by simp)
    simp only [findFrom, here, Bool.false_eq_true, false_and, ↓reduceIte]
    exact ih (fun other member => none other (by simp [member])) _ _

theorem Comparison.findFrom_quoted {quote : Char} (isQuote : Token.isQuote quote = true) {inner : Text}
    (unquoted : quote ∉ inner) {scan : Scan} (inside : scan.quote = some quote) (before : Text) :
    findFrom scan before (inner ++ [quote]) = none := by
  induction inner generalizing scan before with
  | nil =>
    have noComparison := Token.not_isComparisonChar_of_isQuote isQuote
    exact findFrom_eq_none (by simp [noComparison]) scan before
  | cons char rest ih =>
    have notOutside : ¬scan.isOutside = true := by simp [Scan.isOutside, inside]
    have different : char ≠ quote := by
      rintro rfl
      exact unquoted List.mem_cons_self
    have onward : (scan.step char).quote = some quote := by simp [Scan.step, inside, different]
    have later : quote ∉ rest := fun member => unquoted (List.mem_cons_of_mem char member)
    rw [List.cons_append, findFrom, if_neg fun both => notOutside both.2]
    exact ih later onward _

namespace Literal

def isPart (char : Char) : Bool :=
  Text.isDigit char || char == '.' || char == '-' || char == '+' || char == 'e' || char == 'E'

def Made (text : Text) : Prop :=
  ∀ char ∈ text, isPart char = true

theorem Made.cons {char : Char} {rest : Text} (part : isPart char = true) (later : Made rest) :
    Made (char :: rest) := by
  intro other member
  rcases List.mem_cons.mp member with rfl | inside
  · exact part
  · exact later other inside

theorem made_of_readSign {text : Text} (later : Made (readSign text).2) : Made text := by
  unfold readSign at later
  split at later
  · exact .cons (by decide) later
  · exact .cons (by decide) later
  · exact later

theorem made_of_readDigits {text : Text} (later : Made (readDigits text).2) : Made text := by
  intro char member
  rw [← List.takeWhile_append_dropWhile (p := Text.isDigit) (l := text)] at member
  rcases List.mem_append.mp member with digit | after
  · have isDigit : Text.isDigit char = true := List.mem_takeWhile_imp digit
    simp [isPart, isDigit]
  · exact later char after

theorem made_of_readMantissa {text whole rest : Text} {fraction : Option Text}
    (read : readMantissa text = some (whole, fraction, rest)) (later : Made rest) : Made text := by
  refine made_of_readDigits ?_
  unfold readMantissa at read
  simp only at read
  split at read
  next behind _ point =>
    split at read
    · cases read
    · cases read
      rw [point]
      exact .cons (by decide) (made_of_readDigits later)
  next => cases read
  next behind _ point =>
    cases read
    rw [point]
    exact .cons (by decide) (made_of_readDigits later)
  next =>
    cases read
    exact later

theorem made_of_readExponent {text : Text} (later : Made (readExponent text).2) : Made text := by
  unfold readExponent at later
  split at later
  · exact later
  next char rest =>
    split at later
    next exponent =>
      simp only at later
      split at later
      · exact later
      · refine .cons ?_ (made_of_readSign (made_of_readDigits later))
        rcases exponent with rfl | rfl <;> decide
    next => exact later

theorem made_of_read {text : Text} {literal : Literal} (whole : read text = some (literal, [])) : Made text := by
  refine made_of_readSign ?_
  unfold read at whole
  simp only at whole
  split at whole
  · cases whole
  next mantissa =>
    refine made_of_readMantissa mantissa (made_of_readExponent ?_)
    simp only [Option.some.injEq, Prod.mk.injEq] at whole
    rw [whole.2]
    exact nofun

theorem not_isComparisonChar_of_isPart {char : Char} (part : isPart char = true) :
    Token.isComparisonChar char = false := by
  cases comparison : Token.isComparisonChar char with
  | false => rfl
  | true =>
    simp only [Token.isComparisonChar, Bool.or_eq_true, beq_iff_eq] at comparison
    rcases comparison with (rfl | rfl) | rfl <;> revert part <;> decide

theorem not_isLetter_of_read {first : Char} {rest later : Text} {literal : Literal}
    (read : read (first :: rest) = some (literal, later)) : Text.isLetter first = false := by
  cases letter : Text.isLetter first with
  | false => rfl
  | true =>
    have notDigit := Text.not_isDigit_of_isLetter letter
    have table : (['.', '-', '+'].all fun char => !Text.isLetter char) = true := by decide +kernel
    have different (char : Char) (member : char ∈ ['.', '-', '+']) : first ≠ char := by
      rintro rfl
      have noLetter := List.all_eq_true.mp table first member
      rw [letter] at noLetter
      cases noLetter
    have unread := read_eq_none notDigit (different '.' (by simp)) (different '-' (by simp))
      (different '+' (by simp)) rest
    rw [unread] at read
    cases read

end Literal

namespace Argument

/-- A literal and its value: a number that can be read, or a text between two quotes of one kind. -/
inductive IsLiteral (text : Text) : Value → Prop where
  | number {number : Number} : Number.readWhole text = .ok (some number) → IsLiteral text (.number number)
  | quoted {quote : Char} {inner : Text} : Token.isQuote quote = true → quote ∉ inner →
      Text.strip text = quote :: (inner ++ [quote]) → IsLiteral text (.text inner)

theorem ofText_of_readWhole {text : Text} {number : Number} (read : Number.readWhole text = .ok (some number)) :
    ofText text = .constant (.number number) := by
  have again : Number.readWhole (Text.strip text) = .ok (some number) := by
    rw [← read, Number.readWhole, Number.readWhole, Text.strip_strip]
  obtain ⟨literal, whole, _⟩ := Number.read_of_readWhole read
  cases stripped : Text.strip text with
  | nil =>
    rw [stripped] at whole
    cases whole
  | cons first rest =>
    rw [stripped] at whole again
    have made := Literal.made_of_read whole
    have noComparison : Comparison.find? (first :: rest) = none :=
      Comparison.findFrom_eq_none (fun char member => Literal.not_isComparisonChar_of_isPart (made char member)) _ _
    rw [ofText, stripped, ofTrimmed_of_noLetter (Literal.not_isLetter_of_read whole) rest noComparison, ofPlain,
      again]
    rfl

theorem ofText_of_quoted {text inner : Text} {quote : Char} (isQuote : Token.isQuote quote = true)
    (unquoted : quote ∉ inner) (stripped : Text.strip text = quote :: (inner ++ [quote])) :
    ofText text = .constant (.text inner) := by
  have isEither := Token.isQuote_iff.mp isQuote
  have noComparison : Comparison.find? (quote :: (inner ++ [quote])) = none := by
    have outside := Token.not_isComparisonChar_of_isQuote isQuote
    have opened : (Scan.start.step quote).quote = some quote := by rcases isEither with rfl | rfl <;> rfl
    rw [Comparison.find?, Comparison.findFrom]
    simp only [outside, Bool.false_eq_true, false_and, ↓reduceIte]
    exact Comparison.findFrom_quoted isQuote unquoted opened _
  have isQuoted : Token.isQuoted (quote :: (inner ++ [quote])) = true := by
    cases inner with
    | nil => simp [Token.isQuoted, isQuote]
    | cons char inner => simp [Token.isQuoted, isQuote, List.getLast?_cons]
  have unquote : Token.unquote (quote :: (inner ++ [quote])) = inner := by simp [Token.unquote]
  rw [ofText, stripped, ofTrimmed_of_noLetter (Token.not_isLetter_of_isQuote isQuote) _ noComparison, ofPlain,
    Number.readWhole_of_isQuote isQuote]
  change ofResult id (if Token.isQuoted (quote :: (inner ++ [quote])) = true then _ else _) = _
  rw [if_pos isQuoted, unquote]
  rfl

theorem IsLiteral.ofText_eq {text : Text} {value : Value} (literal : IsLiteral text value) :
    ofText text = .constant value := by
  cases literal with
  | number read => exact ofText_of_readWhole read
  | quoted isQuote unquoted stripped => exact ofText_of_quoted isQuote unquoted stripped

theorem IsLiteral.visible {text : Text} {value : Value} (literal : IsLiteral text value) :
    (Text.strip text).isEmpty = false := by
  cases stripped : Text.strip text with
  | cons first rest => rfl
  | nil =>
    cases literal with
    | number read =>
      rw [Number.readWhole, stripped] at read
      cases read
    | quoted _ _ same =>
      rw [stripped] at same
      cases same

theorem IsLiteral.not_isError {text : Text} {value : Value} (literal : IsLiteral text value) :
    value.isError = false := by
  cases literal with
  | number _ => rfl
  | quoted _ _ _ => rfl

theorem IsLiteral.leaves_eq {text : Text} {value : Value} (literal : IsLiteral text value) :
    value.leaves = [value] := by
  cases literal with
  | number _ => rfl
  | quoted _ _ _ => rfl

end Argument

end Worksheet
