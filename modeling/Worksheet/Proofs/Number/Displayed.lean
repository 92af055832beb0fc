import Worksheet.Proofs.Number.Longest
import Worksheet.Proofs.Number.Nearest
import Worksheet.Proofs.Number.Written
import Worksheet.Proofs.Value.Order

/-! Displayed numbers. An integer, a double that is one, and any other finite double each have a text of their own
form, and each of these texts is a literal that denotes the number. A double that is written as an integer is read as
one, so the two differ in kind, but they compare and convert alike. -/

namespace Worksheet

/-! ## Literals in the strict form -/

namespace Literal

variable {literal : Literal}

theorem readSign_written (standard : literal.Standard) :
    readSign literal.written = (literal.negative, literal.whole ++ (literal.fractionText ++ literal.exponentText)) := by
  obtain ⟨negative, whole, fraction, exponent⟩ := literal
  simp only [written, List.append_assoc]
  cases negative with
  | true => rfl
  | false =>
    obtain ⟨first, others, rfl⟩ : ∃ first others, whole = first :: others := standard.exists_whole
    have digit := Text.isDigit_of_isDigit (standard.whole first List.mem_cons_self)
    exact Text.readSign_cons digit _

theorem readMantissa_written (standard : literal.Standard) :
    readMantissa (literal.whole ++ (literal.fractionText ++ literal.exponentText))
      = some (literal.whole, literal.fraction, literal.exponentText) := by
  obtain ⟨negative, whole, fraction, exponent⟩ := literal
  obtain ⟨first, others, rfl⟩ : ∃ first others, whole = first :: others := standard.exists_whole
  have allWhole : ∀ char ∈ first :: others, Text.isDigit char = true :=
    fun char member => Text.isDigit_of_isDigit (standard.whole char member)
  have stops : ∀ char ∈ (exponentText ⟨negative, first :: others, fraction, exponent⟩).head?,
      Text.isDigit char = false ∧ char ≠ '.' := by
    cases exponent with
    | none => exact nofun
    | some exponent => exact stops_of_mark (Or.inl rfl) _
  cases fraction with
  | none => exact readMantissa_append (List.cons_ne_nil _ _) allWhole stops
  | some digits =>
    have allDigits : ∀ char ∈ digits, Text.isDigit char = true :=
      fun char member => Text.isDigit_of_isDigit ((standard.fraction digits rfl).2 char member)
    have places := readDigits_append allDigits fun char member => (stops char member).1
    have scanned (behind : Text) : readDigits (first :: (others ++ '.' :: behind)) = (first :: others, '.' :: behind) :=
      readDigits_append allWhole (by rintro char ⟨⟩; decide)
    simp only [readMantissa, fractionText, List.cons_append]
    rw [scanned]
    simp only [places]

theorem readExponent_written (standard : literal.Standard) :
    readExponent literal.exponentText = (literal.exponent, []) := by
  obtain ⟨negative, whole, fraction, exponent⟩ := literal
  cases exponent with
  | none => rfl
  | some exponent =>
    obtain ⟨below, digits⟩ := exponent
    obtain ⟨nonempty, plain⟩ := standard.exponent below digits rfl
    have allDigits : ∀ char ∈ digits, Text.isDigit char = true :=
      fun char member => Text.isDigit_of_isDigit (plain char member)
    have scanned : readDigits digits = (digits, []) := by
      have whole : readDigits (digits ++ []) = (digits, []) := readDigits_append allDigits nofun
      rwa [List.append_nil] at whole
    cases below with
    | true => simp [exponentText, readExponent, readSign, scanned, nonempty]
    | false => simp [exponentText, readExponent, readSign, scanned, nonempty]

theorem read_written (standard : literal.Standard) : read literal.written = some (literal, []) := by
  simp only [read, readSign_written standard, readMantissa_written standard, readExponent_written standard]

theorem isWhole_ofInt (number : ℤ) : IsWhole (Text.ofNat number.natAbs) (decide (number < 0)) (Text.ofInt number) := by
  have digits := Text.digits_ofNat number.natAbs
  have nonempty := Text.ofNat_ne_nil number.natAbs
  unfold Text.ofInt
  by_cases negative : number < 0
  · simp only [negative, decide_true, if_true]
    exact .minus nonempty digits
  · simp only [negative, decide_false, if_false]
    exact .unsigned nonempty digits

end Literal

/-! ## Doubles that are integers -/

namespace Double

variable {x : Float} {whole : ℤ}

theorem negative_parts (x : Float) : (parts x).negative = isNegative x := by
  unfold parts
  simp only
  split
  · rfl
  · rfl

theorem denominator_ne_zero (x : Float) : denominator x ≠ 0 :=
  Nat.ne_of_gt (Nat.two_pow_pos _)

theorem numerator_of_zero (zero : (x == 0.0) = true) : numerator x = 0 := by
  rcases eq_zero_of_beq zero with rfl | rfl
  · decide +kernel
  · decide +kernel

theorem toRat_of_exact (exact : numerator x = whole * denominator x) : toRat x = whole := by
  have divides : (denominator x : ℚ) ≠ 0 := Nat.cast_ne_zero.mpr (denominator_ne_zero x)
  rw [toRat, exact, Int.cast_mul, Int.cast_natCast, mul_div_cancel_right₀ _ divides]

theorem magnitude_pos (finite : x.isFinite = true) (nonzero : (x == 0.0) = false) :
    (0 : ℚ) < (parts x).mantissa * 2 ^ (parts x).exponent :=
  mul_pos (Nat.cast_pos.mpr (proper_parts finite nonzero).positive) (by positivity)

theorem isNegative_of_toRat (finite : x.isFinite = true) (nonzero : (x == 0.0) = false) (exact : toRat x = whole) :
    decide (whole < 0) = isNegative x := by
  have value := magnitude_pos finite nonzero
  rw [toRat_eq, negative_parts] at exact
  cases negative : isNegative x with
  | true =>
    have below : (whole : ℚ) < 0 := by
      rw [← exact, negative, if_pos rfl]
      linarith
    exact decide_eq_true (by exact_mod_cast below)
  | false =>
    have above : (0 : ℚ) < whole := by
      rw [← exact, negative, if_neg Bool.false_ne_true, one_mul]
      exact value
    have above : 0 < whole := by exact_mod_cast above
    exact decide_eq_false (by omega)

theorem ofInt?_of_toRat (finite : x.isFinite = true) (nonzero : (x == 0.0) = false) (exact : toRat x = whole) :
    ofInt? whole = some x := by
  have sign := isNegative_of_toRat finite nonzero exact
  have magnitude : ((whole.natAbs : ℕ) : ℚ) / (1 : ℕ) = (parts x).mantissa * 2 ^ (parts x).exponent := by
    rw [Nat.cast_natAbs, Int.cast_abs, ← exact, toRat_eq, Nat.cast_one, div_one, abs_mul,
      abs_of_pos (magnitude_pos finite nonzero)]
    split <;> simp
  have near : (parts x).Near (((whole.natAbs : ℕ) : ℚ) / (1 : ℕ)) := by
    rw [magnitude]
    exact (parts x).near_self
  have rounded : nearestInt whole 1 = x := by
    rw [nearestInt, sign, nearest_of_near (proper_parts finite nonzero) (by decide) near, assemble_parts finite,
      withSign_magnitude finite]
  rw [ofInt?, rounded]
  exact if_neg (by rw [isInf_of_isFinite finite]; decide)

theorem order_self (number : x.isNaN = false) : order? x x = some .eq := by
  have swapped := order_swap x x
  cases found : order? x x with
  | none =>
    rcases order_eq_none.mp found with missing | missing
    · rw [number] at missing
      cases missing
    · rw [number] at missing
      cases missing
  | some order =>
    rw [found] at swapped
    cases order with
    | eq => rfl
    | lt => cases swapped
    | gt => cases swapped

end Double

/-! ## Texts of numbers -/

namespace Number

variable {number : Number} {text : Text}

def IsWritable : Number → Prop
  | integer value => Text.Short value.natAbs
  | double x => x.isFinite = true

structure Alike (number read : Number) : Prop where
  equal : number.eq read = true
  double : ∀ x, number.toDouble = .ok x → ∃ y, read.toDouble = .ok y ∧ (x == y) = true

/-- The text is a literal that denotes the number, though perhaps in another kind. -/
def Denotes (text : Text) (number : Number) : Prop :=
  ∃ literal read, Literal.read text = some (literal, []) ∧ literal.value = .ok read ∧ number.Alike read

theorem Alike.refl (ordered : number.isOrdered = true) : number.Alike number where
  equal := by
    cases number with
    | integer value => simp [eq, compare?]
    | double x =>
      have number : x.isNaN = false := by rwa [isOrdered, Bool.not_eq_true'] at ordered
      have same := Double.order_self number
      simp only [eq, compare?, gt_iff_lt, Double.lt_iff, Double.beq_iff, same]
      rfl
  double x converted := by
    have number : x.isNaN = false := by rw [isNaN_of_toDouble converted, ordered]; rfl
    exact ⟨x, converted, Double.beq_iff.mpr (Double.order_self number)⟩

theorem alike_of_exact {x : Float} {whole : ℤ} (finite : x.isFinite = true)
    (exact : Double.numerator x = whole * Double.denominator x) : (double x).Alike (integer whole) where
  equal := by
    simp only [eq, compare?, Double.isNaN_of_isFinite finite, Double.isInf_of_isFinite finite, exact, Bool.false_eq_true,
      if_false]
    simp
  double y converted := by
    cases converted
    cases zero : x == 0.0 with
    | true =>
      rw [Double.numerator_of_zero zero, eq_comm, mul_eq_zero] at exact
      obtain rfl := exact.resolve_right (Nat.cast_ne_zero.mpr (Double.denominator_ne_zero x))
      exact ⟨0.0, by decide +kernel, zero⟩
    | false =>
      have same := Double.order_self (Double.isNaN_of_isFinite finite)
      refine ⟨x, ?_, Double.beq_iff.mpr same⟩
      rw [toDouble, Double.ofInt?_of_toRat finite zero (Double.toRat_of_exact exact)]

theorem denotes_ofInt {value : ℤ} (short : Text.Short value.natAbs) (alike : number.Alike (integer value)) :
    number.Denotes (Text.ofInt value) := by
  refine ⟨_, integer value, Literal.read_eq_whole.mpr (Literal.isWhole_ofInt value), ?_, alike⟩
  have whole : wholeValue (decide (value < 0)) (Text.ofNat value.natAbs) = value := by
    rw [wholeValue, Text.digitsValue_ofNat]
    by_cases negative : value < 0
    · rw [if_pos (decide_eq_true negative)]
      omega
    · rw [if_neg (by simpa using negative)]
      omega
  rw [value_whole, if_neg (Nat.not_lt.mpr short), whole]

theorem denotes_displayDouble {x : Float} (finite : x.isFinite = true) : (double x).Denotes (displayDouble x) := by
  have number := Double.isNaN_of_isFinite finite
  have bounded := Double.isInf_of_isFinite finite
  simp only [displayDouble, number, bounded, Bool.false_eq_true, if_false]
  split
  next whole =>
    obtain ⟨exact, small⟩ := whole
    have power : 10 ^ 21 < 10 ^ Text.digitLimit := Nat.pow_lt_pow_right (by decide) (by decide)
    exact denotes_ofInt (Text.short_of_lt (Nat.lt_trans small power)) (alike_of_exact finite exact)
  next =>
    obtain ⟨literal, written, standard, -, value⟩ := Double.write_eq_written finite
    rw [written]
    have ordered : (double x).isOrdered = true := by rw [isOrdered, number]; rfl
    exact ⟨literal, double x, Literal.read_written standard, value, .refl ordered⟩

theorem exists_display (writable : number.IsWritable) : ∃ text, number.display = .ok text ∧ number.Denotes text := by
  cases number with
  | integer value =>
    have written := Text.writeInt_eq_ok.mpr ⟨writable, rfl⟩
    exact ⟨_, written, denotes_ofInt writable (.refl rfl)⟩
  | double x => exact ⟨_, rfl, denotes_displayDouble writable⟩

namespace Denotes

theorem made (denotes : number.Denotes text) : Literal.Made text := by
  obtain ⟨literal, read, found, _⟩ := denotes
  exact Literal.made_of_read found

theorem ne_nil (denotes : number.Denotes text) : text ≠ [] := by
  obtain ⟨literal, read, found, _⟩ := denotes
  rintro rfl
  cases found

theorem strip_eq (denotes : number.Denotes text) : Text.strip text = text :=
  Text.strip_eq_self_of_visible fun char member => Literal.not_isBlank_of_isPart (denotes.made char member)

theorem isNumeral (denotes : number.Denotes text) : Text.IsNumeral text := by
  have same := denotes.strip_eq
  obtain ⟨literal, read, found, _⟩ := denotes
  exact Literal.exists_read_iff.mp ⟨literal, same.symm ▸ found⟩

theorem readWhole (denotes : number.Denotes text) :
    ∃ read, Number.readWhole text = .ok (some read) ∧ number.Alike read := by
  have same := denotes.strip_eq
  obtain ⟨literal, read, found, value, alike⟩ := denotes
  refine ⟨read, ?_, alike⟩
  rw [Number.readWhole, same, found]
  simp only [value]
  rfl

theorem equal {x : Float} (denotes : number.Denotes text) (converted : number.toDouble = .ok x) :
    (Value.number number).equal (.text text) = .ok true := by
  obtain ⟨read, whole, alike⟩ := denotes.readWhole
  obtain ⟨y, double, same⟩ := alike.double x converted
  have numeric := isNumeric_of_readWhole whole
  have taken := toNumber_of_readWhole whole
  have sides : Value.ofSides (.number number) (.text text) = .ok (.numbers x y) := by
    have both := Value.bothNumeric_eq_ok_true.mpr ⟨(rfl : (Value.number number).isNumeric = .ok true), numeric⟩
    have own : (Value.number number).toNumber = .ok number := rfl
    simp [Value.ofSides, both, own, converted, taken, double, bind, Except.bind, pure, Except.pure]
  have kept : Value.blankAsZero (.number number) (.text text) = .ok (.number number, .text text) := rfl
  rw [Value.equal_of_comparands (Value.comparands_of_sides kept sides)]
  exact congrArg Except.ok (beq_iff_eq.mpr (Double.beq_iff.mp same))

end Denotes

end Number

end Worksheet
