import Worksheet.Proofs.Calendar.Reading
import Worksheet.Proofs.Calendar.Universal
import Worksheet.Proofs.Number.Range
import Worksheet.Proofs.Number.Whole

/-! The values that cannot be read as moments and cannot be turned down either. Reading fails for integers beyond the
range of the doubles, in cells and in texts, for integers in texts with too many digits, and for moments with an
offset, at the first or the last days of the calendar, that lie outside it in universal time or in the zone. -/

namespace Worksheet.Value

/-- Reading the value as a moment of the zone fails. -/
inductive Defeats (zone : Zone) : Value → Failure → Prop
  | integer {value : ℤ} (large : Double.bound ≤ value.natAbs) : Defeats zone (.number (.integer value)) .outOfRange
  | digits {text digits : Text} {negative : Bool} (isWhole : Literal.IsWhole digits negative (Text.strip text))
    (long : Text.digitLimit < digits.length) : Defeats zone (.text text) .unreadable
  | whole {text digits : Text} {negative : Bool} (isWhole : Literal.IsWhole digits negative (Text.strip text))
    (short : digits.length ≤ Text.digitLimit) (large : Double.bound ≤ Text.digitsValue digits) :
    Defeats zone (.text text) .outOfRange
  | offset {text : Text} {moment : DateTime} {offset : ℤ} (noNumber : Number.readWhole text = .ok none)
    (read : Iso.readLocal (withOffset (Text.strip text)) = some (moment, some offset))
    (outside : (∀ other : DateTime, other.instant ≠ moment.instant - offset) ∨
      ∀ other : DateTime, other.instant ≠ zone.clock (moment.instant - offset)) : Defeats zone (.text text) .outOfRange

variable {zone : Zone} {text : Text} {failure : Failure}

theorem toDouble_thousand : (Number.integer 1000).toDouble = .ok 1000.0 := by
  decide +kernel

theorem momentOfMilliseconds_double (x : Float) : ∃ moment, momentOfMilliseconds zone (.double x) = .ok moment := by
  have nonzero : ((1000.0 : Float) == 0.0) = false := by decide +kernel
  have divided : (Number.double x).div (.integer 1000) = .ok (.double (x / 1000.0)) := by
    rw [Number.div]
    · rw [toDouble_thousand]
      simp only [Number.toDouble, bind, Except.bind, nonzero]
      rfl
    · intro _ _ integer
      cases integer
  rw [momentOfMilliseconds, Number.isFinite, divided]
  change ∃ moment, (if x.isFinite = true then Except.ok (momentOfSeconds? zone (x / 1000.0)) else .ok none) = .ok moment
  split
  · exact ⟨_, rfl⟩
  · exact ⟨_, rfl⟩

theorem momentOfMilliseconds_large {value : ℤ} (large : Double.bound ≤ value.natAbs) :
    momentOfMilliseconds zone (.integer value) = .error .outOfRange := by
  rw [momentOfMilliseconds, Number.isFinite_of_large large]
  rfl

theorem momentOfMilliseconds_small {value : ℤ} (small : value.natAbs < Double.bound) :
    ∃ moment, momentOfMilliseconds zone (.integer value) = .ok moment := by
  obtain ⟨quotient, divided⟩ := Number.exists_div_of_small small (show 0 < 1000 by decide)
  rw [momentOfMilliseconds, Number.isFinite_of_small small, divided]
  exact ⟨_, rfl⟩

theorem momentOfMilliseconds_eq_error {value : ℤ} :
    momentOfMilliseconds zone (.integer value) = .error failure ↔ failure = .outOfRange ∧ Double.bound ≤ value.natAbs := by
  rcases le_or_gt Double.bound value.natAbs with large | small
  · rw [momentOfMilliseconds_large large]
    simp [large, eq_comm]
  · obtain ⟨moment, read⟩ := momentOfMilliseconds_small small
    rw [read]
    simp [small]

theorem natAbs_wholeValue (negative : Bool) (digits : Text) :
    (Number.wholeValue negative digits).natAbs = Text.digitsValue digits := by
  cases negative with
  | false => exact Int.natAbs_natCast _
  | true => rw [Number.wholeValue, if_pos rfl, Int.natAbs_neg, Int.natAbs_natCast]

theorem momentOfText_whole {digits : Text} {negative : Bool} (isWhole : Literal.IsWhole digits negative (Text.strip text)) :
    momentOfText zone text =
      if Text.digitLimit < digits.length then .error .unreadable
      else momentOfMilliseconds zone (.integer (Number.wholeValue negative digits)) := by
  rw [momentOfText_eq, Number.readWhole_of_isWhole isWhole]
  split
  · rfl
  · rfl

theorem momentOfText_eq_error : momentOfText zone text = .error failure ↔ Defeats zone (.text text) failure := by
  constructor
  · intro failed
    rcases Number.readWhole_cases text with ⟨negative, digits, isWhole⟩ | none | ⟨x, read⟩
    · rw [momentOfText_whole isWhole] at failed
      split at failed
      next long =>
        cases failed
        exact .digits isWhole long
      next short =>
        obtain ⟨rfl, large⟩ := momentOfMilliseconds_eq_error.mp failed
        rw [natAbs_wholeValue] at large
        exact .whole isWhole (not_lt.mp short) large
    · rw [momentOfText_eq, none] at failed
      obtain ⟨rfl, moment, offset, read, outside⟩ := Iso.read_eq_error.mp (map_eq_error.mp failed)
      exact .offset none read outside
    · obtain ⟨moment, found⟩ := momentOfMilliseconds_double x
      rw [momentOfText_eq, read] at failed
      exact absurd (found.symm.trans failed) nofun
  · intro defeats
    cases defeats with
    | digits isWhole long => rw [momentOfText_whole isWhole, if_pos long]
    | whole isWhole short large =>
      rw [momentOfText_whole isWhole, if_neg short.not_gt]
      exact momentOfMilliseconds_large (by rwa [natAbs_wholeValue])
    | offset noNumber read outside =>
      rw [momentOfText_eq, noNumber]
      exact map_eq_error.mpr (Iso.read_eq_error.mpr ⟨rfl, _, _, read, outside⟩)

theorem toMoment_eq_error {value : Value} : value.toMoment zone = .error failure ↔ Defeats zone value failure := by
  cases value with
  | text text => exact momentOfText_eq_error
  | number number =>
    cases number with
    | integer value =>
      refine momentOfMilliseconds_eq_error.trans ⟨?_, ?_⟩
      · rintro ⟨rfl, large⟩
        exact .integer large
      · intro defeats
        cases defeats with
        | integer large => exact ⟨rfl, large⟩
    | double x =>
      obtain ⟨moment, read⟩ := momentOfMilliseconds_double x
      refine iff_of_false (fun failed => ?_) nofun
      exact absurd (read.symm.trans failed) nofun
  | _ => exact iff_of_false nofun nofun

end Worksheet.Value
