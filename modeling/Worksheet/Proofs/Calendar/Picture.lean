import Worksheet.Calendar.Picture
import Worksheet.Proofs.Calendar.Clock

/-! The picture of ISO notation. Of its two words `mm` the first one is the month and the second one, between the hour
and the second, the minutes. -/

namespace Worksheet

namespace DatePicture

def iso : Text := "yyyy-mm-ddThh:mm:ss".toList

theorem ofText_iso : ofText iso =
    [.part .year, .literal '-', .part .twoDigitMonth, .literal '-', .part .twoDigitDay, .literal 'T',
      .part .twoDigitHour, .literal ':', .part .twoDigitMonth, .literal ':', .part .twoDigitSecond] :=
  rfl

section Written

variable {moment : DateTime} {twelveHours : Bool} {previous : Option DatePart} {rest : DatePicture} {written text : Text}

theorem writeFrom_literal (char : Char) (onward : writeFrom moment twelveHours previous rest = .ok text) :
    writeFrom moment twelveHours previous (.literal char :: rest) = .ok (char :: text) := by
  rw [writeFrom, onward]
  rfl

theorem writeFrom_part {part : DatePart} (noMonth : part ≠ .month ∧ part ≠ .twoDigitMonth)
    (own : writePart moment twelveHours part = .ok written)
    (onward : writeFrom moment twelveHours (some part) rest = .ok text) :
    writeFrom moment twelveHours previous (.part part :: rest) = .ok (written ++ text) := by
  simp only [writeFrom, noMonth, false_and, if_false]
  rw [own, onward]
  rfl

theorem writeFrom_month (apart : isHour previous = false ∧ isSecond (firstPart? rest) = false)
    (onward : writeFrom moment twelveHours (some .twoDigitMonth) rest = .ok text) :
    writeFrom moment twelveHours previous (.part .twoDigitMonth :: rest) =
      .ok (Value.twoPlaces moment.date.month ++ text) := by
  simp only [writeFrom, apart, Bool.or_self, Bool.false_eq_true, and_false, if_false]
  rw [onward]
  rfl

theorem writeFrom_minute (near : isHour previous = true ∨ isSecond (firstPart? rest) = true)
    (onward : writeFrom moment twelveHours (some .twoDigitMonth) rest = .ok text) :
    writeFrom moment twelveHours previous (.part .twoDigitMonth :: rest) =
      .ok (Value.twoPlaces moment.minute ++ text) := by
  have minutes : (isHour previous || isSecond (firstPart? rest)) = true := Bool.or_eq_true_iff.mpr near
  simp only [writeFrom, minutes, reduceCtorEq, false_and, and_self, if_false, if_true]
  rw [onward]
  rfl

end Written

theorem write_iso (moment : DateTime) : write iso moment = .ok (Value.momentText 'T' moment.wholeSecond) := by
  have fullDay : Text.occursIn "am/pm".toList (Text.lower iso) = false := by decide
  have second : writeFrom moment false (some .twoDigitMonth) [.literal ':', .part .twoDigitSecond] =
      .ok (':' :: (Value.twoPlaces moment.second ++ [])) :=
    writeFrom_literal ':' (writeFrom_part (by decide) rfl rfl)
  have clock : writeFrom moment false (some .twoDigitDay) [.literal 'T', .part .twoDigitHour, .literal ':',
      .part .twoDigitMonth, .literal ':', .part .twoDigitSecond] =
      .ok ('T' :: (Value.twoPlaces moment.hour ++ ':' :: (Value.twoPlaces moment.minute ++
        ':' :: (Value.twoPlaces moment.second ++ [])))) :=
    writeFrom_literal 'T' (writeFrom_part (by decide) rfl (writeFrom_literal ':' (writeFrom_minute (.inl rfl) second)))
  rw [List.append_nil] at clock
  rw [write, fullDay, ofText_iso, DateTime.wholeSecond, Value.momentText_parts]
  exact writeFrom_part (by decide) rfl (writeFrom_literal '-' (writeFrom_month ⟨rfl, rfl⟩
    (writeFrom_literal '-' (writeFrom_part (by decide) rfl clock))))

end DatePicture

end Worksheet
