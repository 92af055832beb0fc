import Worksheet.Json.Reader
import Worksheet.Proofs.Number.Written

/-! Numbers in JSON. A literal in the strict form is read back from its text, as long as nothing follows it that could
belong to it. -/

namespace Worksheet.Json

def EndsNumber (rest : Text) : Prop :=
  ∀ char ∈ rest.head?, char.isDigit = false ∧ char ≠ '.' ∧ char ≠ 'e' ∧ char ≠ 'E'

theorem endsNumber_nil : EndsNumber [] :=
  fun _ member => by cases member

theorem readDigits_append {digits rest : Text} (allDigits : ∀ char ∈ digits, char.isDigit = true)
    (ends : ∀ char ∈ rest.head?, char.isDigit = false) : readDigits (digits ++ rest) = (digits, rest) := by
  have stop : rest.takeWhile Char.isDigit = [] ∧ rest.dropWhile Char.isDigit = rest := by
    cases rest with
    | nil => exact ⟨rfl, rfl⟩
    | cons char others =>
      have none := ends char rfl
      simp [none]
  rw [readDigits, List.takeWhile_append_of_pos allDigits, List.dropWhile_append_of_pos allDigits, stop.1, stop.2,
    List.append_nil]

variable {literal : Literal} {rest : Text}

theorem written_append (literal : Literal) (rest : Text) :
    literal.written ++ rest = (if literal.negative then ['-'] else [])
      ++ (literal.whole ++ (literal.fractionText ++ (literal.exponentText ++ rest))) := by
  simp [Literal.written]

theorem readExponent_append (standard : literal.Standard) (ends : EndsNumber rest) :
    readExponent (literal.exponentText ++ rest) = (literal.exponent, rest) := by
  unfold Literal.exponentText
  cases exponent : literal.exponent with
  | none =>
    cases rest with
    | nil => rfl
    | cons char others =>
      obtain ⟨_, _, small, capital⟩ := ends char rfl
      simp [readExponent, small, capital]
  | some part =>
    obtain ⟨negative, digits⟩ := part
    obtain ⟨nonempty, allDigits⟩ := standard.exponent negative digits exponent
    have sign : Literal.readSign ((if negative then '-' else '+') :: (digits ++ rest)) = (negative, digits ++ rest) := by
      cases negative <;> rfl
    have read := readDigits_append allDigits fun char member => (ends char member).1
    simp [readExponent, sign, read, nonempty]

theorem head_exponentText (literal : Literal) (ends : EndsNumber rest) :
    ∀ char ∈ (literal.exponentText ++ rest).head?, char.isDigit = false ∧ char ≠ '.' := by
  unfold Literal.exponentText
  split
  · exact fun char member => ⟨(ends char member).1, (ends char member).2.1⟩
  · rintro char ⟨⟩
    exact ⟨by decide, by decide⟩

theorem readFraction_append (standard : literal.Standard) (ends : EndsNumber rest) :
    readFraction (literal.fractionText ++ (literal.exponentText ++ rest))
      = (literal.fraction, literal.exponentText ++ rest) := by
  have onward := head_exponentText literal ends
  unfold Literal.fractionText
  cases fraction : literal.fraction with
  | none =>
    generalize literal.exponentText ++ rest = later at onward
    cases later with
    | nil => rfl
    | cons char others =>
      have noPoint := (onward char rfl).2
      rw [List.nil_append, readFraction]
      exact fun _ equal => noPoint (List.cons.inj equal).1
  | some digits =>
    obtain ⟨nonempty, allDigits⟩ := standard.fraction digits fraction
    have read := readDigits_append allDigits fun char member => (onward char member).1
    simp [readFraction, read, nonempty]

theorem head_fractionText (literal : Literal) (ends : EndsNumber rest) :
    ∀ char ∈ (literal.fractionText ++ (literal.exponentText ++ rest)).head?, char.isDigit = false := by
  unfold Literal.fractionText
  split
  · exact fun char member => (head_exponentText literal ends char member).1
  · rintro char ⟨⟩
    decide

theorem readWhole_append (standard : literal.Standard) (ends : EndsNumber rest) :
    readWhole? (literal.whole ++ (literal.fractionText ++ (literal.exponentText ++ rest)))
      = some (literal.whole, literal.fractionText ++ (literal.exponentText ++ rest)) := by
  rcases standard.begins with zero | ⟨first, others, whole, nonzero⟩
  · rw [zero]
    rfl
  · have read := readDigits_append standard.whole (head_fractionText literal ends)
    rw [whole] at read ⊢
    rw [List.cons_append, readWhole?]
    · rw [← List.cons_append, read]
      rfl
    · exact fun _ equal => nonzero (List.cons.inj equal).1

theorem readNumber_written (standard : literal.Standard) {number : Number} (value : literal.value = .ok number)
    (ends : EndsNumber rest) : readNumber (literal.written ++ rest) = .ok (.number number, rest) := by
  have sign : readMinus (literal.written ++ rest)
      = (literal.negative, literal.whole ++ (literal.fractionText ++ (literal.exponentText ++ rest))) := by
    rw [written_append]
    cases negative : literal.negative with
    | true => rfl
    | false =>
      obtain ⟨first, others, whole⟩ := standard.exists_whole
      have digit := standard.whole first (whole ▸ List.mem_cons_self)
      rw [whole]
      simp only [Bool.false_eq_true, if_false, List.nil_append, List.cons_append]
      rw [readMinus]
      rintro _ equal
      rw [(List.cons.inj equal).1] at digit
      cases digit
  unfold readNumber
  simp only [sign, readWhole_append standard ends, readFraction_append standard ends, readExponent_append standard ends]
  rw [show Literal.mk literal.negative literal.whole literal.fraction literal.exponent = literal from rfl, value]

end Worksheet.Json
