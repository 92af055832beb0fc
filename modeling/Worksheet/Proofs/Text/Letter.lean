import Mathlib.Data.List.Basic
import Worksheet.Proofs.Text.Strip
import Worksheet.Text.Case

/-! Letters and digits of names. The English letters are letters, digits of any script are none, and neither are white
space. -/

namespace Worksheet

@[elab_as_elim] theorem ascii_induction {motive : Char → Prop} (table : ∀ code < 128, motive (Char.ofNat code))
    (char : Char) (ascii : char.toNat < 128) : motive char := by
  have own := table char.toNat ascii
  rwa [Char.ofNat_toNat] at own

theorem toNat_of_isEnglishLetter {char : Char} (letter : Text.isEnglishLetter char = true) :
    (65 ≤ char.toNat ∧ char.toNat ≤ 90) ∨ (97 ≤ char.toNat ∧ char.toNat ≤ 122) := by
  change (decide ('A'.val ≤ char.val ∧ char.val ≤ 'Z'.val)
    || decide ('a'.val ≤ char.val) && decide (char.val ≤ 'z'.val)) = true at letter
  simp only [Bool.or_eq_true, Bool.and_eq_true, decide_eq_true_eq, UInt32.le_iff_toNat_le] at letter
  exact letter

theorem toNat_lt_of_isEnglishLetter {char : Char} (letter : Text.isEnglishLetter char = true) :
    char.toNat < 128 := by
  have range := toNat_of_isEnglishLetter letter
  omega

theorem isLetter_of_isEnglishLetter {char : Char} (letter : Text.isEnglishLetter char = true) :
    Text.isLetter char = true ∧ Text.isBlank char = false := by
  have ascii := toNat_lt_of_isEnglishLetter letter
  revert letter
  exact ascii_induction (by decide +kernel) char ascii

namespace Text

theorem notMem_of_kind {chars : Text} {kind : Char → Bool} (table : (chars.all fun char => !kind char) = true)
    {char : Char} (own : kind char = true) : char ∉ chars := by
  intro member
  have other := List.all_eq_true.mp table char member
  rw [own] at other
  cases other

theorem upper_of_ascii {text : Text} (ascii : ∀ char ∈ text, char.toNat < 128) :
    upper text = text.map Char.toUpper := by
  induction text with
  | nil => rfl
  | cons char rest ih =>
    have own : upperChar char = [char.toUpper] := if_pos (ascii char (by simp))
    have later := ih fun other member => ascii other (by simp [member])
    rw [upper, List.flatMap_cons, own, ← upper, later]
    rfl

theorem isUpper_toUpper {char : Char} (letter : isEnglishLetter char = true) : char.toUpper.isUpper = true := by
  have ascii := toNat_lt_of_isEnglishLetter letter
  revert letter
  exact ascii_induction (by decide +kernel) char ascii

theorem toNat_of_isUpper {char : Char} (capital : char.isUpper = true) : 65 ≤ char.toNat ∧ char.toNat ≤ 90 := by
  change decide (char.val ≥ 'A'.val ∧ char.val ≤ 'Z'.val) = true at capital
  simp only [ge_iff_le, decide_eq_true_eq, UInt32.le_iff_toNat_le] at capital
  exact capital

theorem isEnglishLetter_of_isUpper {char : Char} (capital : char.isUpper = true) :
    isEnglishLetter char = true ∧ char.toUpper = char := by
  have bounds := toNat_of_isUpper capital
  have ascii : char.toNat < 128 := by omega
  revert capital
  exact ascii_induction (by decide +kernel) char ascii

theorem toUpper_cases (char : Char) : isEnglishLetter char = true ∨ char.toUpper = char := by
  by_cases lower : char.val ≥ 'a'.val ∧ char.val ≤ 'z'.val
  · have letter : isEnglishLetter char = true := by
      change (decide ('A'.val ≤ char.val ∧ char.val ≤ 'Z'.val)
        || decide ('a'.val ≤ char.val) && decide (char.val ≤ 'z'.val)) = true
      simp only [Bool.or_eq_true, Bool.and_eq_true, decide_eq_true_eq]
      exact Or.inr lower
    exact Or.inl letter
  · exact Or.inr (dif_neg lower)

theorem not_isBlank_of_isLetter {char : Char} (letter : isLetter char = true) : isBlank char = false := by
  have table : ∀ range ∈ blankRanges, ∀ offset < range.2 + 1 - range.1,
      isLetter (Char.ofNat (range.1 + offset)) = false := by decide +kernel
  refine List.any_eq_false.mpr fun range member => ?_
  simp only [Bool.and_eq_true, decide_eq_true_eq]
  rintro ⟨least, most⟩
  have notLetter := table range member (char.toNat - range.1) (by omega)
  rw [Nat.add_sub_cancel' least, Char.ofNat_toNat, letter] at notLetter
  cases notLetter

theorem upperChar_of_isLetter {char : Char} (letter : isLetter char = true) :
    ∃ capital, upperChar char = [capital] := by
  have table : ∀ entry ∈ upperExpansions, isLetter (Char.ofNat entry.1) = false := by decide +kernel
  unfold upperChar
  split
  · exact ⟨_, rfl⟩
  split
  next codes found =>
    obtain ⟨before, after, equal, _⟩ := List.lookup_eq_some_iff.mp found
    have notLetter := table (char.toNat, codes) (by simp [equal])
    rw [Char.ofNat_toNat, letter] at notLetter
    cases notLetter
  next => exact ⟨_, rfl⟩

theorem toNat_of_isDigit {char : Char} (digit : isDigit char = true) :
    (48 ≤ char.toNat ∧ char.toNat ≤ 57) ∨
      (128 ≤ char.toNat ∧ ∃ first ∈ zeroDigits, first ≤ char.toNat ∧ char.toNat < first + 10) := by
  unfold isDigit digitValue? at digit
  split at digit
  next =>
    split at digit
    next bounds =>
      have least : '0'.toNat ≤ char.toNat := bounds.1
      have most : char.toNat ≤ '9'.toNat := bounds.2
      exact Or.inl ⟨least, most⟩
    next => cases digit
  next large =>
    rw [Option.isSome_map] at digit
    obtain ⟨first, found⟩ := Option.isSome_iff_exists.mp digit
    have within := List.find?_some found
    simp only [Bool.and_eq_true, decide_eq_true_eq] at within
    exact Or.inr ⟨by omega, first, List.mem_of_find?_eq_some found, within.1, within.2⟩

theorem not_isBlank_of_isDigit {char : Char} (digit : isDigit char = true) : isBlank char = false := by
  have table : ∀ range ∈ blankRanges, ∀ first ∈ zeroDigits, first + 9 < range.1 ∨ range.2 < first := by
    decide +kernel
  refine List.any_eq_false.mpr fun range member => ?_
  simp only [Bool.and_eq_true, decide_eq_true_eq]
  rcases toNat_of_isDigit digit with bounds | ⟨_, first, among, least, most⟩
  · have apart := table range member 0x30 (by decide)
    omega
  · have apart := table range member first among
    omega

theorem caseless_of_digit {char : Char} (large : 128 ≤ char.toNat) {first : Nat} (member : first ∈ zeroDigits)
    (least : first ≤ char.toNat) (bound : char.toNat < first + 10) : caseless char = char := by
  have turkish : ∀ first ∈ zeroDigits, first + 9 < 0x130 ∨ 0x130 < first := by decide +kernel
  have runs : ∀ run ∈ lowerRuns, ∀ first ∈ zeroDigits, first + 9 < run.first ∨ run.last < first := by
    decide +kernel
  have twins : ∀ twin ∈ caselessTwins, ∀ first ∈ zeroDigits, first + 9 < twin.1 ∨ twin.1 < first := by
    decide +kernel
  have uncovered : lowerRuns.find? (·.covers char.toNat) = none := by
    refine List.find?_eq_none.mpr fun run among covers => ?_
    simp only [CaseRun.covers, Bool.and_eq_true, decide_eq_true_eq] at covers
    have apart := runs run among first member
    omega
  have alone : caselessTwins.lookup char.toNat = none := by
    refine List.lookup_eq_none_iff.mpr fun twin among => ?_
    have apart := twins twin among first member
    have different : char.toNat ≠ twin.1 := by omega
    simpa using different
  have ordinary : ¬char.toNat = 0x130 := by
    have apart := turkish first member
    omega
  have small : simpleLower char = char := by
    simp only [simpleLower, if_neg (Nat.not_lt.mpr large), if_neg ordinary, mapCode, uncovered, Char.ofNat_toNat]
  simp only [caseless, small, alone]

theorem not_isLetter_of_isDigit {char : Char} (digit : isDigit char = true) : isLetter char = false := by
  rcases toNat_of_isDigit digit with bounds | ⟨large, first, among, least, most⟩
  · have ascii : char.toNat < 128 := by omega
    revert digit
    exact ascii_induction (by decide +kernel) char ascii
  · have same := caseless_of_digit large among least most
    cases letter : isLetter char with
    | false => rfl
    | true =>
      simp only [isLetter, same, Bool.and_eq_true, decide_eq_true_eq] at letter
      have most : char.toNat ≤ 'z'.toNat := letter.2
      exact absurd (Nat.le_trans large most) (by decide)

theorem not_isDigit_of_isLetter {char : Char} (letter : isLetter char = true) : isDigit char = false := by
  cases digit : isDigit char with
  | false => rfl
  | true =>
    rw [not_isLetter_of_isDigit digit] at letter
    cases letter

end Text

end Worksheet
