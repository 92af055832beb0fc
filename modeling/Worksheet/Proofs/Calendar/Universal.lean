import Worksheet.Calendar.Iso
import Worksheet.Proofs.Calendar.Day
import Worksheet.Proofs.Outcome

/-! Moments with an offset from universal time. A moment is an instant, counted in microseconds, and each instant
belongs to one moment at most; the universal time of a moment is the moment of its instant less the offset, if the
calendar has it, and the clocks of a zone show it in turn, if the calendar has what they show. -/

namespace Worksheet

namespace DateTime

theorem seconds_parts (moment : DateTime) :
    moment.seconds / 86400 = moment.date.number ∧ moment.seconds % 86400 / 3600 = moment.hour ∧
      moment.seconds % 86400 % 3600 / 60 = moment.minute ∧ moment.seconds % 86400 % 60 = moment.second := by
  obtain ⟨hours, minutes, seconds⟩ := And.intro moment.hour_lt (And.intro moment.minute_lt moment.second_lt)
  unfold DateTime.seconds
  omega

theorem ofSeconds?_natCast (seconds microsecond : ℕ) : ofSeconds? seconds microsecond =
    (Date.ofNumber? (seconds / 86400 : ℕ)).bind fun date =>
      ofParts? date (seconds % 86400 / 3600) (seconds % 86400 % 3600 / 60) (seconds % 86400 % 60) microsecond := by
  have days : Int.fdiv seconds 86400 = (seconds / 86400 : ℕ) := Int.fdiv_eq_ediv_of_nonneg _ (by decide)
  have rest : (Int.fmod seconds 86400).toNat = seconds % 86400 := by
    rw [Int.fmod_eq_emod_of_nonneg _ (by decide)]
    rfl
  rw [ofSeconds?, days, rest]
  cases Date.ofNumber? (seconds / 86400 : ℕ) with
  | none => rfl
  | some date => rfl

theorem ofSeconds?_seconds (moment : DateTime) : ofSeconds? moment.seconds moment.microsecond = some moment := by
  obtain ⟨number, hour, minute, second⟩ := moment.seconds_parts
  rw [ofSeconds?_natCast, number, Date.ofNumber?_number, Option.bind_some, hour, minute, second, ofParts?,
    dif_pos ⟨moment.hour_lt, moment.minute_lt, moment.second_lt, moment.microsecond_lt⟩]

theorem ofSeconds?_eq_some {seconds : ℤ} {microsecond : ℕ} {moment : DateTime} :
    ofSeconds? seconds microsecond = some moment ↔
      (moment.seconds : ℤ) = seconds ∧ moment.microsecond = microsecond := by
  constructor
  · intro found
    unfold ofSeconds? at found
    split at found
    next => cases found
    next date dated =>
      have number := Date.ofNumber?_eq_some.mp dated
      rw [Int.fdiv_eq_ediv_of_nonneg _ (by decide)] at number
      rw [Int.fmod_eq_emod_of_nonneg _ (by decide)] at found
      simp only [ofParts?] at found
      split at found
      next =>
        cases found
        exact ⟨by simp only [DateTime.seconds]; omega, rfl⟩
      next => cases found
  · rintro ⟨rfl, rfl⟩
    exact moment.ofSeconds?_seconds

theorem ofInstant?_eq_some {instant : ℤ} {moment : DateTime} :
    ofInstant? instant = some moment ↔ moment.instant = instant := by
  have small := moment.microsecond_lt
  rw [ofInstant?, ofSeconds?_eq_some, Int.fdiv_eq_ediv_of_nonneg _ (by decide), Int.fmod_eq_emod_of_nonneg _ (by decide),
    DateTime.instant]
  omega

theorem ofInstant?_eq_none {instant : ℤ} : ofInstant? instant = none ↔ ∀ moment : DateTime, moment.instant ≠ instant := by
  rw [Option.eq_none_iff_forall_ne_some]
  exact forall_congr' fun moment => not_congr ofInstant?_eq_some

end DateTime

namespace Iso

variable {zone : Zone} {moment : DateTime} {offset : ℤ} {text : Text}

theorem shift_eq_error {failure : Failure} :
    shift zone moment offset = .error failure ↔ failure = .outOfRange ∧
      ((∀ other : DateTime, other.instant ≠ moment.instant - offset) ∨
        ∀ other : DateTime, other.instant ≠ zone.clock (moment.instant - offset)) := by
  rw [← DateTime.ofInstant?_eq_none, ← DateTime.ofInstant?_eq_none]
  unfold shift
  split
  next outside => simp [outside, eq_comm]
  next universal found =>
    rw [DateTime.ofInstant?_eq_some.mp found, found]
    split
    next same => simp [same]
    next outside => simp [outside, eq_comm]

/-- West of universal time the clocks show no first moment of the calendar. -/
example : shift ⟨fun _ => -18000, fun _ => by decide⟩ (DateTime.ofDate ⟨1, 1, 1, by decide⟩) 0 = .error .outOfRange := by
  decide +kernel

/-- The moment that a text in this notation names on the clock of its place, and the offset of that clock if it is
given. -/
def readLocal (text : Text) : Option (DateTime × Option ℤ) :=
  if text.length < 7 then none
  else do
    let bytes := octets text
    let length ← dateLength bytes
    let date ← readDate length bytes
    if bytes.length ≤ length then some (DateTime.ofDate date, none)
    else do
      let width := (Text.encodeChar (((text.drop length).head?).getD nul)).length
      let (clock, offset) ← readTime (bytes.drop (length + width))
      let moment ← DateTime.ofParts? date clock.hour clock.minute clock.second clock.microsecond
      match offset with
      | none => some (moment, none)
      | some offset => if offset.natAbs < dayMicroseconds then some (moment, some offset) else none

def toZone (zone : Zone) : Option (DateTime × Option ℤ) → Except Failure (Option DateTime)
  | none => .ok none
  | some (moment, none) => .ok (some moment)
  | some (moment, some offset) => (shift zone moment offset).map some

theorem read_eq_toZone (zone : Zone) (text : Text) : read zone text = toZone zone (readLocal text) := by
  unfold read readLocal
  simp only
  split
  · rfl
  cases dateLength (octets text) with
  | none => rfl
  | some length =>
    simp only [Option.bind_eq_bind, Option.bind_some]
    cases readDate length (octets text) with
    | none => rfl
    | some date =>
      simp only [Option.bind_some]
      split
      · rfl
      generalize (octets text).drop _ = rest
      cases readTime rest with
      | none => rfl
      | some found =>
        obtain ⟨clock, offset⟩ := found
        simp only [Option.bind_some]
        cases DateTime.ofParts? date clock.hour clock.minute clock.second clock.microsecond with
        | none => rfl
        | some moment =>
          simp only [Option.bind_some]
          cases offset with
          | none => rfl
          | some offset =>
            simp only
            split
            · rfl
            · rfl

theorem read_eq_error {failure : Failure} : read zone text = .error failure ↔ failure = .outOfRange ∧
    ∃ moment offset, readLocal text = some (moment, some offset) ∧
      ((∀ other : DateTime, other.instant ≠ moment.instant - offset) ∨
        ∀ other : DateTime, other.instant ≠ zone.clock (moment.instant - offset)) := by
  rw [read_eq_toZone]
  rcases readLocal text with none | ⟨moment, none | offset⟩
  · simp [toZone]
  · simp [toZone]
  · rw [toZone, map_eq_error, shift_eq_error]
    simp

end Iso

end Worksheet
