import Worksheet.Proofs.Text.Digits
import Worksheet.Proofs.Text.Letter
import Worksheet.Proofs.Text.Strip
import Worksheet.Value.Moment

/-! Texts read as moments. White space around the text does not count; a number comes first, then ISO notation and
then the customary ones. A text of digits and a few marks is read just as it stands. -/

namespace Worksheet

variable {zone : Zone}

namespace Value

theorem momentOfText_eq (text : Text) : momentOfText zone text = Number.readWhole text >>= fun number =>
    match number with
    | some milliseconds => momentOfMilliseconds zone milliseconds
    | none => (Iso.read zone (withOffset (Text.strip text))).map (·.or (DatePattern.readCustomary (Text.strip text))) := by
  have stripped : Number.readWhole text = Number.readWhole (Text.strip text) := by
    rw [Number.readWhole, Number.readWhole, Text.strip_strip]
  rw [momentOfText, stripped]
  generalize Text.strip text = text
  split
  next empty =>
    rw [List.isEmpty_iff.mp empty]
    rfl
  next =>
    cases Number.readWhole text with
    | error failure => rfl
    | ok number =>
      cases number with
      | some milliseconds => rfl
      | none =>
        change (Iso.read zone (withOffset text) >>= _) = _
        cases Iso.read zone (withOffset text) with
        | error failure => rfl
        | ok found =>
          cases found with
          | none => rfl
          | some moment => rfl

end Value

namespace Iso

theorem octets_of_ascii {text : Text} (ascii : ∀ char ∈ text, char.toNat < 128) : octets text = text := by
  induction text with
  | nil => rfl
  | cons char rest ih =>
    obtain ⟨small, later⟩ := List.forall_mem_cons.mp ascii
    have single : Text.encodeChar char = [char.toNat.toUInt8] := by rw [Text.encodeChar, if_pos (by omega)]
    have back : Char.ofNat char.toNat.toUInt8.toNat = char := by
      have fits : char.toNat.toUInt8.toNat = char.toNat := by
        rw [Nat.toUInt8_eq, UInt8.toNat_ofNat']
        omega
      rw [fits, Char.ofNat_toNat]
    have tail := ih later
    rw [octets, Text.encode] at tail
    rw [octets, Text.encode, List.flatMap_cons, single, List.singleton_append, List.map_cons, back, tail]

end Iso

def Text.Marked (marks text : Text) : Prop :=
  ∀ char ∈ text, char.isDigit = true ∨ char ∈ marks

namespace Text.Marked

variable {marks text : Text}

theorem of_digits (allDigits : ∀ char ∈ text, char.isDigit = true) : Marked marks text :=
  fun char member => Or.inl (allDigits char member)

theorem append_mark {mark : Char} {rest : Text} (before : Marked marks text) (among : mark ∈ marks)
    (after : Marked marks rest) : Marked marks (text ++ mark :: rest) := by
  intro char member
  rcases List.mem_append.mp member with first | later
  · exact before char first
  · rcases List.mem_cons.mp later with rfl | last
    · exact Or.inr among
    · exact after char last

variable (marked : Marked marks text)

include marked

theorem mono {others : Text} (among : marks ⊆ others) : Marked others text :=
  fun char member => (marked char member).imp_right (among ·)

theorem notMem {char : Char} (other : char.isDigit = false) (apart : char ∉ marks) : char ∉ text := by
  intro member
  rcases marked char member with digit | mark
  · rw [other] at digit
    cases digit
  · exact apart mark

theorem strip_eq (visible : (marks.all fun mark => !isBlank mark) = true) : strip text = text := by
  apply strip_eq_self_of_visible
  intro char member
  rcases marked char member with digit | mark
  · exact not_isBlank_of_isDigit (isDigit_of_isDigit digit)
  · simpa using List.all_eq_true.mp visible char mark

theorem octets_eq (ascii : (marks.all fun mark => mark.toNat < 128) = true) : Iso.octets text = text := by
  apply Iso.octets_of_ascii
  intro char member
  rcases marked char member with digit | mark
  · have bounds : 48 ≤ char.toNat ∧ char.toNat ≤ 57 := by
      simpa [Char.isDigit, UInt32.le_iff_toNat_le] using digit
    omega
  · simpa using List.all_eq_true.mp ascii char mark

theorem withOffset_eq (noZulu : 'Z' ∉ marks) : Value.withOffset text = text := by
  have other : text.getLast? ≠ some 'Z' := by
    intro last
    exact marked.notMem (by decide) noZulu (List.mem_of_getLast? last)
  rw [Value.withOffset, if_neg other]

theorem charAt_ne (noWeek : 'W' ∉ marks) (index : Nat) : Iso.charAt text index ≠ 'W' := by
  intro same
  rw [Iso.charAt, List.getD] at same
  cases found : text[index]? with
  | none =>
    rw [found] at same
    exact absurd same (by decide)
  | some char =>
    rw [found, Option.getD_some] at same
    exact marked.notMem (by decide) noWeek (same ▸ List.mem_of_getElem? found)

theorem dateLength_eq {year rest : Text} (noWeek : 'W' ∉ marks) (hyphened : text = year ++ '-' :: rest)
    (four : year.length = 4) (long : 7 < text.length) : Iso.dateLength text = some 10 := by
  have hyphen : Iso.charAt text 4 = '-' := by
    rw [Iso.charAt, List.getD, hyphened, List.getElem?_append_right four.le, four]
    rfl
  simp [Iso.dateLength, hyphen, marked.charAt_ne noWeek 5, show text.length ≠ 7 by omega]

/-- Unless it is a number, the text is read in ISO notation or else in the customary ones, just as it stands. -/
theorem momentOfText_eq (visible : (marks.all fun mark => !isBlank mark) = true) (noZulu : 'Z' ∉ marks)
    (noNumber : Number.readWhole text = .ok none) :
    Value.momentOfText zone text = (Iso.read zone text).map (·.or (DatePattern.readCustomary text)) := by
  rw [Value.momentOfText_eq, noNumber, marked.strip_eq visible]
  change (Iso.read zone (Value.withOffset text)).map _ = _
  rw [marked.withOffset_eq noZulu]

end Text.Marked

end Worksheet
