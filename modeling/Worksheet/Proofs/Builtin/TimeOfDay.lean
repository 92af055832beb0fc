import Worksheet.Proofs.Builtin.Calendar
import Worksheet.Proofs.Calendar.Clock

/-! Times made of parts. Hours, minutes and seconds of any size and sign add up to seconds after midnight; what is
written for them is read back as the same seconds, less whole days, so that it is the same text for the same seconds
only. -/

namespace Worksheet

namespace TimeOfDay

theorem text_inj {time other : TimeOfDay} (same : time.text = other.text) : time = other := by
  have read : (Value.text time.text).toMoment .utc = _ := Value.toMoment_time time
  rw [same, Value.toMoment_time other] at read
  have moments : other.on _ = time.on _ := Option.some.inj (Except.ok.inj read)
  cases time
  cases other
  cases moments
  rfl

theorem ofSeconds_eq_iff {seconds others : Nat} :
    ofSeconds seconds = ofSeconds others ↔ seconds % 86400 = others % 86400 := by
  constructor
  · intro same
    rw [← seconds_ofSeconds, same, seconds_ofSeconds]
  · intro same
    have wrapped (count : Nat) : ofSeconds count = ofSeconds (count % 86400) := by
      simp only [ofSeconds, Nat.mod_mod]
    rw [wrapped, same, ← wrapped]

end TimeOfDay

namespace Builtin

def secondsOf (hours minutes seconds : Int) : Int :=
  3600 * hours + 60 * minutes + seconds

/-- The parts that are read off the text, each within its bound, add up to so many seconds. -/
def ShowsSeconds (zone : Zone) (text : Text) (total : Int) : Prop :=
  ∃ time : TimeOfDay, momentPart "HOUR" (·.hour) zone [.text text] = .ok (.ofNat time.hour) ∧
    momentPart "MINUTE" (·.minute) zone [.text text] = .ok (.ofNat time.minute) ∧
    momentPart "SECOND" (·.second) zone [.text text] = .ok (.ofNat time.second) ∧ (time.seconds : Int) = total

theorem showsSeconds_text (zone : Zone) (time : TimeOfDay) : ShowsSeconds zone time.text time.seconds := by
  have read : (Value.text time.text).toMoment zone = _ := Value.toMoment_time time
  exact ⟨time, momentPart_of_moment read _ _, momentPart_of_moment read _ _, momentPart_of_moment read _ _, rfl⟩

variable (zone : Zone) (hours minutes seconds : Int)

theorem timeOfParts_integers : timeOfParts [.integer hours, .integer minutes, .integer seconds] =
    if secondsOf hours minutes seconds < 0 then .ok (.error .value)
    else .ok (.text (TimeOfDay.ofSeconds (secondsOf hours minutes seconds).toNat).text) := by
  have total : hours * 3600 + minutes * 60 + seconds = secondsOf hours minutes seconds := by
    rw [secondsOf]
    omega
  change (if hours * 3600 + minutes * 60 + seconds < 0 then _ else _) = _
  rw [total]
  generalize secondsOf hours minutes seconds = total
  by_cases negative : total < 0
  · rw [if_pos negative, if_pos negative]
    rfl
  · obtain ⟨count, rfl⟩ : ∃ count : Nat, total = count := ⟨total.toNat, by omega⟩
    have rest : ((count : Int) % 86400).toNat = count % 86400 := rfl
    rw [if_neg negative, if_neg negative]
    simp only [rest, Int.toNat_natCast, TimeOfDay.text, TimeOfDay.ofSeconds, List.append_assoc, List.cons_append]
    rfl

theorem timeOfParts_eq_text {text : Text} :
    timeOfParts [.integer hours, .integer minutes, .integer seconds] = .ok (.text text) ↔
      0 ≤ secondsOf hours minutes seconds ∧
        text = (TimeOfDay.ofSeconds (secondsOf hours minutes seconds).toNat).text := by
  rw [timeOfParts_integers]
  split
  next negative => simp [negative]
  next positive => simp [not_lt.mp positive, eq_comm]

/-- A time of any parts is a value error just if they add up to less than nothing. Otherwise it is a text whose hour,
minute and second are these seconds but for whole days, and two such texts are the same if and only if the seconds
are. -/
theorem times_read_back :
    (timeOfParts [.integer hours, .integer minutes, .integer seconds] = .ok (.error .value) ↔
      secondsOf hours minutes seconds < 0) ∧
    (0 ≤ secondsOf hours minutes seconds →
      ∃ text, timeOfParts [.integer hours, .integer minutes, .integer seconds] = .ok (.text text) ∧
        ShowsSeconds zone text (secondsOf hours minutes seconds % 86400)) ∧
    ∀ otherHours otherMinutes otherSeconds : Int,
      (∃ text, timeOfParts [.integer hours, .integer minutes, .integer seconds] = .ok (.text text) ∧
        timeOfParts [.integer otherHours, .integer otherMinutes, .integer otherSeconds] = .ok (.text text)) ↔
      0 ≤ secondsOf hours minutes seconds ∧ 0 ≤ secondsOf otherHours otherMinutes otherSeconds ∧
        secondsOf hours minutes seconds % 86400 = secondsOf otherHours otherMinutes otherSeconds % 86400 := by
  refine ⟨?_, ?_, ?_⟩
  · rw [timeOfParts_integers]
    split
    next negative => simp [negative]
    next positive => simp [positive]
  · intro positive
    refine ⟨_, (timeOfParts_eq_text hours minutes seconds).mpr ⟨positive, rfl⟩, ?_⟩
    have shown := showsSeconds_text zone (TimeOfDay.ofSeconds (secondsOf hours minutes seconds).toNat)
    rw [TimeOfDay.seconds_ofSeconds, Int.natCast_emod, Int.toNat_of_nonneg positive] at shown
    exact shown
  · intro otherHours otherMinutes otherSeconds
    simp only [timeOfParts_eq_text]
    generalize secondsOf hours minutes seconds = total
    generalize secondsOf otherHours otherMinutes otherSeconds = other
    constructor
    · rintro ⟨text, ⟨positive, written⟩, alsoPositive, again⟩
      have same := TimeOfDay.ofSeconds_eq_iff.mp (TimeOfDay.text_inj (written.symm.trans again))
      exact ⟨positive, alsoPositive, by omega⟩
    · rintro ⟨positive, alsoPositive, same⟩
      have times := TimeOfDay.ofSeconds_eq_iff.mpr (show total.toNat % 86400 = other.toNat % 86400 by omega)
      exact ⟨_, ⟨positive, rfl⟩, alsoPositive, by rw [times]⟩

theorem times_read_back_past_midnight :
    (∃ text, timeOfParts [.integer 25, .integer (-61), .integer 3661] = .ok (.text text) ∧ ShowsSeconds .utc text 3601) ∧
      ∃ text, timeOfParts [.integer 25, .integer (-61), .integer 3661] = .ok (.text text) ∧
        timeOfParts [.integer 1, .integer 0, .integer 1] = .ok (.text text) := by
  obtain ⟨_, shown, same⟩ := times_read_back .utc 25 (-61) 3661
  have total : secondsOf 25 (-61) 3661 % 86400 = 3601 := by decide
  refine ⟨?_, (same 1 0 1).mpr (by decide)⟩
  rw [← total]
  exact shown (by decide)

end Builtin

end Worksheet
