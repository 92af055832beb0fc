import Worksheet.Number.Literal
import Worksheet.Proofs.Address
import Worksheet.Proofs.Text.Strip

/-! Texts that are whole numbers: digits, with or without a sign. Of all the texts that are numbers these alone are
read as integers, and these alone can be too long to be read. -/

namespace Worksheet

namespace Literal

inductive IsWhole (digits : Text) : Bool → Text → Prop
  | unsigned (nonempty : digits ≠ []) (allDigits : ∀ char ∈ digits, Text.isDigit char = true) :
    IsWhole digits false digits
  | plus (nonempty : digits ≠ []) (allDigits : ∀ char ∈ digits, Text.isDigit char = true) :
    IsWhole digits false ('+' :: digits)
  | minus (nonempty : digits ≠ []) (allDigits : ∀ char ∈ digits, Text.isDigit char = true) :
    IsWhole digits true ('-' :: digits)

variable {text whole rest digits : Text} {negative : Bool}

theorem readDigits_append (allDigits : ∀ char ∈ digits, Text.isDigit char = true)
    (stops : ∀ char ∈ rest.head?, Text.isDigit char = false) : readDigits (digits ++ rest) = (digits, rest) := by
  rw [readDigits, List.takeWhile_append_of_pos allDigits, List.dropWhile_append_of_pos allDigits]
  cases rest with
  | nil => simp
  | cons char later =>
    have stop := stops char rfl
    simp [stop]

theorem readMantissa_append (nonempty : digits ≠ []) (allDigits : ∀ char ∈ digits, Text.isDigit char = true)
    (stops : ∀ char ∈ rest.head?, Text.isDigit char = false ∧ char ≠ '.') :
    readMantissa (digits ++ rest) = some (digits, none, rest) := by
  have scanned := readDigits_append allDigits fun char member => (stops char member).1
  cases digits with
  | nil => exact absurd rfl nonempty
  | cons first later =>
    simp only [readMantissa, scanned]
    cases rest with
    | nil => rfl
    | cons char others =>
      have noPoint := (stops char rfl).2
      split
      next same => exact absurd (List.cons.inj same).1 noPoint
      next none _ => cases none
      next same => exact absurd (List.cons.inj same).1 noPoint
      next => rfl

theorem readMantissa_of_digits (nonempty : digits ≠ []) (allDigits : ∀ char ∈ digits, Text.isDigit char = true) :
    readMantissa digits = some (digits, none, []) := by
  have whole : readMantissa (digits ++ []) = _ := readMantissa_append nonempty allDigits nofun
  rwa [List.append_nil] at whole

theorem digits_of_readMantissa (read : readMantissa text = some (whole, none, rest)) :
    whole ≠ [] ∧ (∀ char ∈ whole, Text.isDigit char = true) ∧ text = whole ++ rest := by
  have parts : text.takeWhile Text.isDigit ++ text.dropWhile Text.isDigit = text := List.takeWhile_append_dropWhile
  have digits : ∀ char ∈ text.takeWhile Text.isDigit, Text.isDigit char = true := fun _ => List.mem_takeWhile_imp
  unfold readMantissa at read
  rw [readDigits] at read
  simp only at read
  split at read
  next =>
    split at read
    · cases read
    · cases read
  next => cases read
  next => cases read
  next scanned _ =>
    cases read
    exact ⟨by rw [scanned]; exact List.cons_ne_nil _ _, digits, parts.symm⟩

theorem eq_nil_of_readExponent (read : readExponent text = (none, [])) : text = [] := by
  unfold readExponent at read
  split at read
  next => rfl
  next char later =>
    simp only at read
    split at read
    · split at read
      · cases read
      · cases read
    · cases read

theorem isWhole_of_readSign (signed : readSign text = (negative, digits)) (nonempty : digits ≠ [])
    (allDigits : ∀ char ∈ digits, Text.isDigit char = true) : IsWhole digits negative text := by
  unfold readSign at signed
  split at signed
  · cases signed
    exact .minus nonempty allDigits
  · cases signed
    exact .plus nonempty allDigits
  · cases signed
    exact .unsigned nonempty allDigits

theorem IsWhole.readSign (isWhole : IsWhole digits negative text) :
    readSign text = (negative, digits) ∧ digits ≠ [] ∧ ∀ char ∈ digits, Text.isDigit char = true := by
  cases isWhole with
  | unsigned nonempty allDigits => exact ⟨Text.readSign_of_digits allDigits, nonempty, allDigits⟩
  | plus nonempty allDigits => exact ⟨rfl, nonempty, allDigits⟩
  | minus nonempty allDigits => exact ⟨rfl, nonempty, allDigits⟩

theorem IsWhole.signOrDigit (isWhole : IsWhole digits negative text) :
    ∀ char ∈ text, char = '-' ∨ char = '+' ∨ Text.isDigit char = true := by
  intro char member
  cases isWhole with
  | unsigned _ allDigits => exact Or.inr (Or.inr (allDigits char member))
  | plus _ allDigits =>
    rcases List.mem_cons.mp member with sign | digit
    · exact Or.inr (Or.inl sign)
    · exact Or.inr (Or.inr (allDigits char digit))
  | minus _ allDigits =>
    rcases List.mem_cons.mp member with sign | digit
    · exact Or.inl sign
    · exact Or.inr (Or.inr (allDigits char digit))

theorem read_eq_whole : read text = some (⟨negative, digits, none, none⟩, []) ↔ IsWhole digits negative text := by
  constructor
  · intro found
    unfold read at found
    obtain ⟨sign, unsigned, signed⟩ : ∃ sign unsigned, readSign text = (sign, unsigned) := ⟨_, _, rfl⟩
    rw [signed] at found
    simp only at found
    split at found
    next => cases found
    next whole fraction rest mantissa =>
      obtain ⟨exponent, last, ended⟩ : ∃ exponent last, readExponent rest = (exponent, last) := ⟨_, _, rfl⟩
      rw [ended] at found
      cases found
      obtain ⟨nonempty, allDigits, parts⟩ := digits_of_readMantissa mantissa
      rw [eq_nil_of_readExponent ended, List.append_nil] at parts
      rw [parts] at signed
      exact isWhole_of_readSign signed nonempty allDigits
  · intro isWhole
    obtain ⟨signed, nonempty, allDigits⟩ := isWhole.readSign
    simp only [read, signed, readMantissa_of_digits nonempty allDigits]
    rfl

end Literal

namespace Number

def wholeValue (negative : Bool) (digits : Text) : ℤ :=
  if negative then -(Text.digitsValue digits : ℤ) else Text.digitsValue digits

theorem value_whole (negative : Bool) (digits : Text) : Literal.value ⟨negative, digits, none, none⟩ =
    if Text.digitLimit < digits.length then .error .unreadable else .ok (.integer (wholeValue negative digits)) := by
  change (Text.readNat digits >>= fun magnitude =>
    .ok (integer (if negative then -(magnitude : ℤ) else magnitude))) = _
  rw [Text.readNat]
  split
  · rfl
  · rfl

variable {text digits : Text} {negative : Bool}

theorem readWhole_of_isWhole (isWhole : Literal.IsWhole digits negative (Text.strip text)) : readWhole text =
    if Text.digitLimit < digits.length then .error .unreadable
    else .ok (some (.integer (wholeValue negative digits))) := by
  rw [readWhole, Literal.read_eq_whole.mpr isWhole]
  simp only [value_whole]
  split
  · rfl
  · rfl

theorem readWhole_of_mark {mark : Char} {tail : Text} (stripped : Text.strip text = digits ++ mark :: tail)
    (nonempty : digits ≠ []) (allDigits : ∀ char ∈ digits, Text.isDigit char = true)
    (apart : Text.isDigit mark = false ∧ mark ≠ '.' ∧ mark ≠ 'e' ∧ mark ≠ 'E') : readWhole text = .ok none := by
  obtain ⟨noDigit, noPoint, small, capital⟩ := apart
  have unsigned : Literal.readSign (digits ++ mark :: tail) = (false, digits ++ mark :: tail) := by
    obtain ⟨first, later, rfl⟩ := List.exists_cons_of_ne_nil nonempty
    exact Text.readSign_cons (allDigits first List.mem_cons_self) _
  have mantissa : Literal.readMantissa (digits ++ mark :: tail) = some (digits, none, mark :: tail) := by
    refine Literal.readMantissa_append nonempty allDigits ?_
    rintro char ⟨⟩
    exact ⟨noDigit, noPoint⟩
  rw [readWhole, stripped]
  simp [Literal.read, unsigned, mantissa, Literal.readExponent, small, capital]

theorem readWhole_cases (text : Text) :
    (∃ negative digits, Literal.IsWhole digits negative (Text.strip text)) ∨
      readWhole text = .ok none ∨ ∃ x, readWhole text = .ok (some (.double x)) := by
  unfold readWhole
  split
  next literal found =>
    obtain ⟨negative, digits, fraction, exponent⟩ := literal
    cases fraction with
    | some fraction => exact Or.inr (Or.inr ⟨_, rfl⟩)
    | none =>
      cases exponent with
      | some exponent => exact Or.inr (Or.inr ⟨_, rfl⟩)
      | none => exact Or.inl ⟨negative, digits, Literal.read_eq_whole.mp found⟩
  next => exact Or.inr (Or.inl rfl)

end Number

end Worksheet
