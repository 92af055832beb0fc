import Mathlib
import Worksheet.Number.Written
import Worksheet.Proofs.Number.Shortest

/-! Doubles as text. A finite double is written as a literal, in positional notation or with an exponent, and the
value of the literal is the double. -/

namespace Worksheet

namespace Literal

def fractionText (literal : Literal) : Text :=
  match literal.fraction with
  | none => []
  | some digits => '.' :: digits

def exponentText (literal : Literal) : Text :=
  match literal.exponent with
  | none => []
  | some (negative, digits) => 'e' :: (if negative then '-' else '+') :: digits

def written (literal : Literal) : Text :=
  (if literal.negative then ['-'] else []) ++ literal.whole ++ literal.fractionText ++ literal.exponentText

/-- A literal in the strict form: its whole part has no zero in front, and what is there has digits. -/
structure Standard (literal : Literal) : Prop where
  whole : ∀ char ∈ literal.whole, char.isDigit = true
  begins : literal.whole = ['0'] ∨ ∃ first rest, literal.whole = first :: rest ∧ first ≠ '0'
  fraction : ∀ digits, literal.fraction = some digits → digits ≠ [] ∧ ∀ char ∈ digits, char.isDigit = true
  exponent : ∀ negative digits, literal.exponent = some (negative, digits) →
    digits ≠ [] ∧ ∀ char ∈ digits, char.isDigit = true

theorem Standard.exists_whole {literal : Literal} (standard : literal.Standard) :
    ∃ first others, literal.whole = first :: others := by
  rcases standard.begins with zero | ⟨first, others, whole, _⟩
  · exact ⟨'0', [], zero⟩
  · exact ⟨first, others, whole⟩

def toRat (literal : Literal) : ℚ :=
  Text.digitsValue (literal.whole ++ literal.fraction.getD [])
    * 10 ^ (exponentValue literal.exponent - (literal.fraction.getD []).length)

theorem value_of_fraction_or_exponent {literal : Literal}
    (broken : literal.fraction ≠ none ∨ literal.exponent ≠ none) :
    literal.value = .ok (.double (Double.withSign literal.negative
      (nearestDecimal (Text.digitsValue (literal.whole ++ literal.fraction.getD []))
        (exponentValue literal.exponent - (literal.fraction.getD []).length)))) := by
  unfold value
  split
  next fraction exponent => simp [fraction, exponent] at broken
  next => rfl

def ofDigits (negative : Bool) (digits : Text) (top : Int) : Literal :=
  if -4 < top ∧ top ≤ 16 then
    if top ≤ 0 then ⟨negative, ['0'], some (List.replicate (-top).toNat '0' ++ digits), none⟩
    else if digits.length ≤ top.toNat then
      ⟨negative, digits ++ List.replicate (top.toNat - digits.length) '0', some ['0'], none⟩
    else ⟨negative, digits.take top.toNat, some (digits.drop top.toNat), none⟩
  else
    ⟨negative, digits.take 1, if digits.length = 1 then none else some (digits.drop 1),
      some (decide (top - 1 < 0), Text.zeroFill 2 (Text.ofNat (top - 1).natAbs))⟩

theorem negative_ofDigits (negative : Bool) (digits : Text) (top : Int) :
    (ofDigits negative digits top).negative = negative := by
  unfold ofDigits
  split
  · split
    · rfl
    · split <;> rfl
  · rfl

section

variable (negative : Bool) {digits : Text} (top : Int) (allDigits : ∀ char ∈ digits, char.isDigit = true)
  (begins : ∃ first rest, digits = first :: rest ∧ first ≠ '0')

include begins in
theorem written_ofDigits :
    (ofDigits negative digits top).written = (if negative then ['-'] else []) ++ Double.writeDigits digits top := by
  obtain ⟨first, rest, rfl, _⟩ := begins
  unfold ofDigits Double.writeDigits written fractionText exponentText
  split
  · split
    · simp
    · split
      · simp
      · simp
  · cases rest with
    | nil => by_cases below : top - 1 < 0 <;> simp [Double.writeExponent, below]
    | cons second others => by_cases below : top - 1 < 0 <;> simp [Double.writeExponent, below]

theorem broken_ofDigits (negative : Bool) (digits : Text) (top : Int) :
    (ofDigits negative digits top).fraction ≠ none ∨ (ofDigits negative digits top).exponent ≠ none := by
  unfold ofDigits
  split
  · split
    · simp
    · split <;> simp
  · simp

theorem isDigit_of_mem_zero {char : Char} (member : char ∈ ['0']) : char.isDigit = true := by
  rw [List.mem_singleton.mp member]
  rfl

theorem isDigit_of_mem_zeros {count : Nat} {char : Char} (member : char ∈ List.replicate count '0') :
    char.isDigit = true := by
  rw [List.eq_of_mem_replicate member]
  decide

include allDigits begins in
theorem standard_ofDigits : (ofDigits negative digits top).Standard := by
  obtain ⟨first, rest, rfl, nonzero⟩ := begins
  unfold ofDigits
  split
  · split
    · refine ⟨fun _ => isDigit_of_mem_zero, Or.inl rfl, fun _ equal => ?_,
        fun _ _ equal => by cases equal⟩
      cases equal
      exact ⟨by simp, fun char member =>
        (List.mem_append.mp member).elim isDigit_of_mem_zeros (allDigits char)⟩
    · split
      · refine ⟨fun char member => (List.mem_append.mp member).elim (allDigits char) isDigit_of_mem_zeros,
          Or.inr ⟨first, _, rfl, nonzero⟩, fun _ equal => ?_, fun _ _ equal => by cases equal⟩
        cases equal
        exact ⟨by simp, fun _ => isDigit_of_mem_zero⟩
      next positive long =>
        obtain ⟨count, equal⟩ : ∃ count, top.toNat = count + 1 := ⟨top.toNat - 1, by omega⟩
        rw [equal] at long ⊢
        refine ⟨fun char member => allDigits char (List.mem_of_mem_take member), Or.inr ⟨first, _, rfl, nonzero⟩,
          fun _ equal => ?_, fun _ _ equal => by cases equal⟩
        cases equal
        refine ⟨fun none => ?_, fun char member => allDigits char (List.mem_of_mem_drop member)⟩
        have := List.drop_eq_nil_iff.mp none
        omega
  · refine ⟨fun char member => allDigits char (List.mem_of_mem_take member), Or.inr ⟨first, [], rfl, nonzero⟩,
      fun _ equal => ?_, fun _ _ equal => ?_⟩
    · split at equal
      · cases equal
      next several =>
        cases equal
        refine ⟨fun none => ?_, fun char member => allDigits char (List.mem_of_mem_drop member)⟩
        have := List.drop_eq_nil_iff.mp none
        simp only [List.length_cons] at this several
        omega
    · cases equal
      exact ⟨fun none => Text.ofNat_ne_nil _ (List.append_eq_nil_iff.mp none).2, fun char member =>
        (List.mem_append.mp member).elim isDigit_of_mem_zeros Text.isDigit_of_mem_ofNat⟩

theorem exponentValue_zeroFill (exponent : Int) :
    exponentValue (some (decide (exponent < 0), Text.zeroFill 2 (Text.ofNat exponent.natAbs))) = exponent := by
  have magnitude : Text.digitsValue (Text.zeroFill 2 (Text.ofNat exponent.natAbs)) = exponent.natAbs := by
    rw [Text.digitsValue_zeroFill, Text.digitsValue_ofNat]
  simp only [exponentValue, magnitude, decide_eq_true_eq]
  split <;> omega

include begins in
theorem toRat_ofDigits :
    (ofDigits negative digits top).toRat = Text.digitsValue digits * 10 ^ (top - digits.length) := by
  unfold ofDigits
  split
  · split
    · have value : Text.digitsValue (['0'] ++ (List.replicate (-top).toNat '0' ++ digits)) = Text.digitsValue digits := by
        rw [Text.digitsValue_append, Text.digitsValue_append, Text.digitsValue_replicate_zero]
        simp [show Text.digitsValue ['0'] = 0 by decide]
      simp only [toRat, Option.getD_some, value, exponentValue, List.length_append, List.length_replicate]
      congr 2
      omega
    · split
      next positive short =>
        obtain ⟨count, equal⟩ : ∃ count, top.toNat - digits.length = count := ⟨_, rfl⟩
        have value : Text.digitsValue (digits ++ List.replicate count '0' ++ ['0'])
            = Text.digitsValue digits * 10 ^ (count + 1) := by
          rw [Text.digitsValue_append, Text.digitsValue_append, Text.digitsValue_replicate_zero]
          simp [show Text.digitsValue ['0'] = 0 by decide, pow_succ, mul_assoc]
        simp only [toRat, Option.getD_some, equal, value, exponentValue, List.length_singleton]
        push_cast
        rw [mul_assoc, ← zpow_natCast, ← zpow_add₀ (by norm_num)]
        congr 2
        push_cast
        omega
      next positive long =>
        simp only [toRat, Option.getD_some, List.take_append_drop, exponentValue, List.length_drop]
        congr 2
        omega
  · obtain ⟨first, rest, rfl, _⟩ := begins
    have place := exponentValue_zeroFill (top - 1)
    simp only [toRat, place]
    cases rest with
    | nil => simp
    | cons second others =>
      have several : ¬(first :: second :: others).length = 1 := by simp
      simp only [if_neg several, Option.getD_some, List.take_append_drop, List.length_drop]
      congr 2
      simp only [List.length_cons]
      omega

end

end Literal

namespace Double

theorem value_of_near {x : Float} (finite : x.isFinite = true) (nonzero : (x == 0.0) = false) {literal : Literal}
    (sign : literal.negative = isNegative x) (broken : literal.fraction ≠ none ∨ literal.exponent ≠ none)
    (near : (parts x).Near literal.toRat) : literal.value = .ok (.double x) := by
  rw [Literal.value_of_fraction_or_exponent broken, nearestDecimal_of_near (proper_parts finite nonzero) near,
    assemble_parts finite, sign, withSign_magnitude finite]

theorem write_eq_written {x : Float} (finite : x.isFinite = true) :
    ∃ literal : Literal, write x = literal.written ∧ literal.Standard ∧
      (literal.fraction ≠ none ∨ literal.exponent ≠ none) ∧ literal.value = .ok (.double x) := by
  cases zero : x == 0.0 with
  | true =>
    have standard (negative : Bool) : (Literal.mk negative ['0'] (some ['0']) none).Standard := by
      refine ⟨fun _ => Literal.isDigit_of_mem_zero, Or.inl rfl, fun _ equal => ?_, fun _ _ equal => by cases equal⟩
      cases equal
      exact ⟨by simp, fun _ => Literal.isDigit_of_mem_zero⟩
    rcases eq_zero_of_beq zero with rfl | rfl
    · exact ⟨_, by decide +kernel, standard false, by decide, rfl⟩
    · exact ⟨_, by decide +kernel, standard true, by decide, rfl⟩
  | false =>
    have proper := proper_parts finite zero
    have near := near_shortest proper.positive
    have some : 0 < (shortest (parts x)).digits := near.digits_pos proper
    have digits : ∀ char ∈ Text.ofNat (shortest (parts x)).digits, char.isDigit = true :=
      fun _ => Text.isDigit_of_mem_ofNat
    have begins := Text.ofNat_begins some
    have broken := Literal.broken_ofDigits (isNegative x) (Text.ofNat (shortest (parts x)).digits)
      ((Text.ofNat (shortest (parts x)).digits).length + (shortest (parts x)).exponent)
    refine ⟨_, ?_, Literal.standard_ofDigits _ _ digits begins, broken,
      value_of_near finite zero (Literal.negative_ofDigits _ _ _) broken ?_⟩
    · rw [Literal.written_ofDigits _ _ begins, write, isNaN_of_isFinite finite, isInf_of_isFinite finite, zero]
      rfl
    · rw [Literal.toRat_ofDigits _ _ begins, Text.digitsValue_ofNat, add_sub_cancel_left]
      exact near

end Double

end Worksheet
