import Mathlib.Algebra.Ring.Nat
import Worksheet.Number.Literal

/-! Numbers in decimal. What is written as digits is read back as the same number. -/

namespace Worksheet.Text

theorem digitValue_of_isDigit {char : Char} (digit : char.isDigit = true) :
    digitValue? char = some (char.toNat - 48) := by
  simp only [Char.isDigit, Bool.and_eq_true, decide_eq_true_eq, ge_iff_le, UInt32.le_iff_toNat_le] at digit
  have bounds : 48 ≤ char.toNat ∧ char.toNat ≤ 57 := digit
  have low : '0' ≤ char := Char.le_def.mpr (UInt32.le_iff_toNat_le.mpr bounds.1)
  have high : char ≤ '9' := Char.le_def.mpr (UInt32.le_iff_toNat_le.mpr bounds.2)
  rw [digitValue?, if_pos (by omega), if_pos ⟨low, high⟩]

theorem isDigit_of_isDigit {char : Char} (digit : char.isDigit = true) : isDigit char = true := by
  simp [isDigit, digitValue_of_isDigit digit]

theorem isDigit_of_mem_ofNat {number : Nat} {char : Char} (member : char ∈ ofNat number) :
    char.isDigit = true :=
  Nat.isDigit_of_mem_toDigits (by decide) (by decide) member

theorem digits_ofNat (number : Nat) : ∀ char ∈ ofNat number, isDigit char = true := by
  intro char member
  exact isDigit_of_isDigit (isDigit_of_mem_ofNat member)

theorem ofNat_ne_nil (number : Nat) : ofNat number ≠ [] :=
  Nat.toDigits_ne_nil

theorem ofInt_ne_nil (number : Int) : ofInt number ≠ [] := by
  unfold ofInt
  split
  · exact List.cons_ne_nil _ _
  · exact ofNat_ne_nil _

theorem foldl_digits (digits : Text) (allDigits : ∀ char ∈ digits, char.isDigit = true) (start : Nat) :
    digits.foldl (fun value char => 10 * value + (digitValue? char).getD 0) start
      = Nat.ofDigitChars 10 digits start := by
  induction digits generalizing start with
  | nil => rfl
  | cons char rest ih =>
    have own := digitValue_of_isDigit (allDigits char (by simp))
    rw [List.foldl_cons, Nat.ofDigitChars_cons, own]
    exact ih (fun other member => allDigits other (by simp [member])) _

theorem digitsValue_ofNat (number : Nat) : digitsValue (ofNat number) = number := by
  rw [digitsValue, foldl_digits _ fun char => isDigit_of_mem_ofNat]
  exact Nat.ofDigitChars_toDigits (by decide) (by decide)

theorem ofNat_inj {first second : Nat} (same : ofNat first = ofNat second) : first = second := by
  rw [← digitsValue_ofNat first, same, digitsValue_ofNat]

theorem length_ofNat_le {first second : Nat} (below : first ≤ second) :
    (ofNat first).length ≤ (ofNat second).length := by
  have nonempty := List.length_pos_iff.mpr (ofNat_ne_nil second)
  have bound := (Nat.length_toDigits_le_iff (b := 10) (by decide) nonempty).mp (Nat.le_refl _)
  exact (Nat.length_toDigits_le_iff (by decide) nonempty).mpr (by omega)

theorem pow_length_ofNat {number : Nat} (positive : 0 < number) :
    10 ^ ((ofNat number).length - 1) ≤ number ∧ number < 10 ^ (ofNat number).length := by
  have nonempty := List.length_pos_iff.mpr (ofNat_ne_nil number)
  constructor
  · rcases Nat.eq_zero_or_pos ((ofNat number).length - 1) with single | several
    · rw [single]
      exact positive
    · refine Nat.le_of_not_lt fun small => ?_
      have bound := (Nat.length_toDigits_le_iff (b := 10) (by decide) several).mpr small
      change (ofNat number).length ≤ _ at bound
      omega
  · exact (Nat.length_toDigits_le_iff (b := 10) (by decide) nonempty).mp (Nat.le_refl _)

@[simp] theorem ofInt_natCast (number : Nat) : ofInt number = ofNat number := by
  simp [ofInt]

/-! ## Digits in a row -/

theorem foldl_digitsValue (digits : Text) (start : Nat) :
    digits.foldl (fun value char => 10 * value + (digitValue? char).getD 0) start
      = start * 10 ^ digits.length + digitsValue digits := by
  unfold digitsValue
  induction digits generalizing start with
  | nil => simp
  | cons char rest ih =>
    rw [List.foldl_cons, List.foldl_cons, ih, ih (10 * 0 + _), List.length_cons, Nat.pow_succ, Nat.add_mul,
      Nat.mul_zero, Nat.zero_add, Nat.add_assoc]
    congr 1
    rw [Nat.mul_comm 10 start, Nat.mul_assoc, Nat.mul_comm 10]

theorem digitsValue_append (digits others : Text) :
    digitsValue (digits ++ others) = digitsValue digits * 10 ^ others.length + digitsValue others := by
  rw [digitsValue, List.foldl_append, foldl_digitsValue others]
  rfl

@[simp] theorem digitsValue_replicate_zero (count : Nat) : digitsValue (List.replicate count '0') = 0 := by
  induction count with
  | zero => rfl
  | succ count ih =>
    rw [List.replicate_succ', digitsValue_append, ih, Nat.zero_mul]
    rfl

theorem digitsValue_dropWhile_zero (digits : Text) : digitsValue (digits.dropWhile (· == '0')) = digitsValue digits := by
  induction digits with
  | nil => rfl
  | cons char rest ih =>
    rw [List.dropWhile_cons]
    split
    next zero =>
      rw [ih, eq_of_beq zero, ← List.singleton_append, digitsValue_append]
      simp [show digitsValue ['0'] = 0 from rfl]
    next => rfl

/-! ## Filled up with zeros -/

theorem length_zeroFill (width : Nat) (text : Text) : (zeroFill width text).length = max width text.length := by
  rw [zeroFill, List.length_append, List.length_replicate]
  omega

@[simp] theorem digitsValue_zeroFill (width : Nat) (text : Text) : digitsValue (zeroFill width text) = digitsValue text := by
  rw [zeroFill, digitsValue_append, digitsValue_replicate_zero, Nat.zero_mul, Nat.zero_add]

theorem isDigit_of_mem_zeroFill {width : Nat} {text : Text} (allDigits : ∀ char ∈ text, char.isDigit = true) {char : Char}
    (member : char ∈ zeroFill width text) : char.isDigit = true := by
  rcases List.mem_append.mp member with zero | digit
  · rw [List.eq_of_mem_replicate zero]
    rfl
  · exact allDigits char digit

/-! ## Bounds -/

theorem digitValue_le {char : Char} {value : Nat} (found : digitValue? char = some value) : value ≤ 9 := by
  unfold digitValue? at found
  split at found
  · split at found
    next bounds =>
      have most : char.toNat ≤ 57 := UInt32.le_iff_toNat_le.mp (Char.le_def.mp bounds.2)
      cases found
      omega
    next => cases found
  · obtain ⟨first, among, rfl⟩ := Option.map_eq_some_iff.mp found
    have bounds := List.find?_some among
    simp only [Bool.and_eq_true, decide_eq_true_eq] at bounds
    omega

theorem digitsValue_lt {digits : Text} (allDigits : ∀ char ∈ digits, isDigit char = true) :
    digitsValue digits < 10 ^ digits.length := by
  induction digits with
  | nil => decide
  | cons char rest ih =>
    obtain ⟨own, later⟩ := List.forall_mem_cons.mp allDigits
    have below := ih later
    have value : digitsValue [char] ≤ 9 := by
      obtain ⟨digit, found⟩ := Option.isSome_iff_exists.mp own
      have most := digitValue_le found
      simp only [digitsValue, List.foldl_cons, List.foldl_nil, found, Option.getD_some]
      omega
    rw [← List.singleton_append, digitsValue_append, List.length_append, List.length_singleton, Nat.add_comm 1,
      Nat.pow_succ]
    have scaled := Nat.mul_le_mul_right (10 ^ rest.length) value
    omega

theorem ofNat_begins {number : Nat} (positive : 0 < number) :
    ∃ first rest, ofNat number = first :: rest ∧ first ≠ '0' := by
  obtain ⟨least, _⟩ := pow_length_ofNat positive
  have digits : ∀ char ∈ ofNat number, isDigit char = true := digits_ofNat number
  have value := digitsValue_ofNat number
  cases written : ofNat number with
  | nil => exact absurd written (ofNat_ne_nil number)
  | cons first rest =>
    rw [written] at least digits value
    refine ⟨first, rest, rfl, ?_⟩
    rintro rfl
    have small := digitsValue_lt (List.forall_mem_cons.mp digits).2
    rw [← List.singleton_append, digitsValue_append] at value
    have zero : digitsValue ['0'] = 0 := by decide
    simp only [zero, Nat.zero_mul, Nat.zero_add, List.length_cons, Nat.add_sub_cancel] at value least
    omega

/-! ## Integers within the limit of digits -/

def Short (number : Nat) : Prop :=
  (ofNat number).length ≤ digitLimit

instance (number : Nat) : Decidable (Short number) :=
  inferInstanceAs (Decidable ((ofNat number).length ≤ digitLimit))

theorem short_of_lt {number : Nat} (below : number < 10 ^ digitLimit) : Short number :=
  (Nat.length_toDigits_le_iff (by decide) (by decide)).mpr below

theorem not_short_pow {count : Nat} (large : digitLimit ≤ count) : ¬Short (10 ^ count) := by
  intro short
  have above := (pow_length_ofNat (Nat.pow_pos (n := count) (show 0 < 10 by decide))).2
  have most := Nat.pow_le_pow_right (show 0 < 10 by decide) (Nat.le_trans short large)
  exact absurd above (Nat.not_lt.mpr most)

theorem Short.mono {number other : Nat} (short : Short other) (below : number ≤ other) : Short number :=
  Nat.le_trans (length_ofNat_le below) short

theorem writeInt_eq_ok {number : Int} {text : Text} :
    writeInt number = .ok text ↔ (ofNat number.natAbs).length ≤ digitLimit ∧ text = ofInt number := by
  unfold writeInt ofInt
  by_cases long : (ofNat number.natAbs).length > digitLimit
  · simp only [long, if_true, reduceCtorEq, false_iff]
    exact fun both => absurd both.1 (by omega)
  · simp only [long, if_false, Except.ok.injEq]
    exact ⟨fun equal => ⟨by omega, equal.symm⟩, fun both => both.2.symm⟩

theorem readNat_ofNat {number : Nat} (short : (ofNat number).length ≤ digitLimit) :
    readNat (ofNat number) = .ok number := by
  rw [readNat, if_neg (by omega), digitsValue_ofNat]

end Worksheet.Text
