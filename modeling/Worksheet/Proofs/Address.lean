import Worksheet.Address
import Worksheet.Proofs.Outcome
import Worksheet.Proofs.Text.Cut
import Worksheet.Proofs.Text.Digits
import Worksheet.Proofs.Text.Letter

/-! Keys of positions. A position has one key as long as its row and its column have no more digits than can be
written, and the key is read back as the position, so that different positions have different keys. -/

namespace Worksheet

namespace Text

theorem readSign_cons {first : Char} (digit : isDigit first = true) (rest : Text) :
    Literal.readSign (first :: rest) = (false, first :: rest) := by
  have minus : first ≠ '-' := by
    rintro rfl
    exact absurd digit (by decide)
  have plus : first ≠ '+' := by
    rintro rfl
    exact absurd digit (by decide)
  unfold Literal.readSign
  split
  next same => exact absurd (List.cons.inj same).1 minus
  next same => exact absurd (List.cons.inj same).1 plus
  next => rfl

section

variable {digits : Text} (allDigits : ∀ char ∈ digits, isDigit char = true)

include allDigits

theorem notMem_of_digits {char : Char} (other : isDigit char = false) : char ∉ digits := by
  intro member
  rw [allDigits char member] at other
  cases other

theorem readSign_of_digits : Literal.readSign digits = (false, digits) := by
  cases digits with
  | nil => rfl
  | cons first rest => exact readSign_cons (allDigits first List.mem_cons_self) rest

theorem strip_of_digits : strip digits = digits :=
  strip_eq_self_of_visible fun char member => not_isBlank_of_isDigit (allDigits char member)

theorem readInt_of_readSign (nonempty : digits ≠ []) {text : Text} {negative : Bool}
    (signed : Literal.readSign (strip text) = (negative, digits)) :
    readInt text = readNat digits >>= fun magnitude =>
      .ok (if negative then -(magnitude : Int) else magnitude) := by
  have groups : underscoreSplit digits = [digits] := splitOn_of_notMem (notMem_of_digits allDigits (by decide))
  have wellFormed : ([digits].all fun group => !group.isEmpty && group.all isDigit) = true := by
    simp only [List.all_cons, List.all_nil, Bool.and_true, Bool.and_eq_true, Bool.not_eq_true',
      List.isEmpty_eq_false_iff]
    exact ⟨nonempty, List.all_eq_true.mpr allDigits⟩
  simp only [readInt, signed, groups, wellFormed, if_true, List.flatten_cons, List.flatten_nil, List.append_nil]
  rfl

theorem readInt_of_digits (nonempty : digits ≠ []) :
    readInt digits = readNat digits >>= fun magnitude => .ok (magnitude : Int) := by
  rw [readInt_of_readSign allDigits nonempty (by rw [strip_of_digits allDigits, readSign_of_digits allDigits])]
  rfl

end

theorem mem_ofInt {number : Int} {char : Char} (member : char ∈ ofInt number) :
    char = '-' ∨ isDigit char = true := by
  unfold ofInt at member
  split at member
  · rcases List.mem_cons.mp member with sign | digit
    · exact Or.inl sign
    · exact Or.inr (digits_ofNat _ char digit)
  · exact Or.inr (digits_ofNat _ char member)

theorem not_isBlank_of_mem_ofInt {number : Int} {char : Char} (member : char ∈ ofInt number) :
    isBlank char = false := by
  rcases mem_ofInt member with rfl | digit
  · decide
  · exact not_isBlank_of_isDigit digit

theorem strip_ofInt (number : Int) : strip (ofInt number) = ofInt number :=
  strip_eq_self_of_visible fun _ => not_isBlank_of_mem_ofInt

theorem readInt_ofInt {number : Int} (short : (ofNat number.natAbs).length ≤ digitLimit) :
    readInt (ofInt number) = .ok number := by
  have digits := digits_ofNat number.natAbs
  have signed : Literal.readSign (strip (ofInt number)) = (decide (number < 0), ofNat number.natAbs) := by
    rw [strip_ofInt, ofInt]
    split
    next negative => simp [Literal.readSign, negative]
    next positive => simp [readSign_of_digits digits, positive]
  rw [readInt_of_readSign digits (ofNat_ne_nil _) signed, readNat_ofNat short]
  change Except.ok _ = Except.ok _
  by_cases negative : number < 0
  · simp only [negative, decide_true, if_true, Except.ok.injEq]
    omega
  · simp only [negative, decide_false, Bool.false_eq_true, if_false, Except.ok.injEq]
    omega

theorem comma_notMem_ofInt (number : Int) : ',' ∉ ofInt number := by
  intro member
  rcases mem_ofInt member with sign | digit
  · cases sign
  · exact absurd digit (by decide)

end Text

namespace Position

theorem key_eq_ok {position : Position} {key : Text} :
    position.key = .ok key ↔
      ((Text.ofNat position.row.natAbs).length ≤ Text.digitLimit ∧
        (Text.ofNat position.column.natAbs).length ≤ Text.digitLimit) ∧
      key = Text.ofInt position.row ++ ',' :: Text.ofInt position.column := by
  simp only [Position.key, bind_eq_ok, Text.writeInt_eq_ok, pure, Except.pure, Except.ok.injEq]
  constructor
  · rintro ⟨row, ⟨rowShort, rfl⟩, column, ⟨columnShort, rfl⟩, rfl⟩
    exact ⟨⟨rowShort, columnShort⟩, rfl⟩
  · rintro ⟨⟨rowShort, columnShort⟩, rfl⟩
    exact ⟨_, ⟨rowShort, rfl⟩, _, ⟨columnShort, rfl⟩, rfl⟩

theorem ofKey_of_key {position : Position} {key : Text} (written : position.key = .ok key) :
    ofKey key = .ok position := by
  obtain ⟨⟨rowShort, columnShort⟩, rfl⟩ := key_eq_ok.mp written
  unfold ofKey
  rw [Text.splitOn_pair (Text.comma_notMem_ofInt _) (Text.comma_notMem_ofInt _)]
  simp only [Text.readInt_ofInt rowShort, Text.readInt_ofInt columnShort]
  rfl

theorem key_inj {first second : Position} {key : Text} (written : first.key = .ok key)
    (other : second.key = .ok key) : first = second := by
  have same := (ofKey_of_key written).symm.trans (ofKey_of_key other)
  exact Except.ok.inj same

def Precedes (left right : Position) : Prop :=
  left.row < right.row ∨ left.row = right.row ∧ left.column < right.column

theorem before_iff {left right : Position} :
    left.before right = true ↔ left.row < right.row ∨ left.row = right.row ∧ left.column ≤ right.column := by
  simp [before]

theorem precedes_of_before {left right : Position} (before : left.before right = true) (apart : left ≠ right) :
    left.Precedes right := by
  rcases before_iff.mp before with above | ⟨same, most⟩
  · exact Or.inl above
  · refine Or.inr ⟨same, Int.lt_iff_le_and_ne.mpr ⟨most, fun equal => apart ?_⟩⟩
    cases left
    cases right
    cases same
    cases equal
    rfl

theorem before_trans {first second third : Position} (left : first.before second = true)
    (right : second.before third = true) : first.before third = true := by
  rw [before_iff] at *
  omega

theorem before_total (left right : Position) : (left.before right || right.before left) = true := by
  rw [Bool.or_eq_true, before_iff, before_iff]
  omega

end Position

end Worksheet
