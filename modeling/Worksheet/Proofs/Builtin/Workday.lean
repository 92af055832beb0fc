import Mathlib.Data.Set.Card
import Worksheet.Proofs.Builtin.DateArgument
import Worksheet.Proofs.Calendar.Order

/-! Counting workdays. The count over day numbers is the number of dates from Monday to Friday between the two ends
that are no holidays; so of the holidays only the set of their dates counts, and of that only workdays between the
ends. The count steps past its last day, which the last date of the calendar does not allow. -/

namespace Worksheet

variable {zone : Zone}

namespace Date

/-- Between the two, whichever comes first, or one of them. -/
def Between (first last date : Date) : Prop :=
  (first ≤ date ∧ date ≤ last) ∨ (last ≤ date ∧ date ≤ first)

theorem between_iff {first last date : Date} : Between first last date ↔
    min first.number last.number ≤ date.number ∧ date.number ≤ max first.number last.number := by
  simp only [Between, le_iff_number]
  omega

def last : Date := ⟨9999, 12, 31, by decide⟩

theorem number_last : last.number = Builtin.lastDay := by
  decide

theorem number_eq_lastDay {date : Date} : date.number = Builtin.lastDay ↔ date = last := by
  rw [← number_last]
  exact ⟨number_inj, congrArg number⟩

end Date

namespace Builtin

open Date (Between)

/-! ## Counting day numbers -/

theorem ncard_eq_countP {first last : Nat} (positive : 1 ≤ first) (within : last ≤ lastDay) (wanted : Nat → Bool) :
    {date : Date | (first ≤ date.number ∧ date.number ≤ last) ∧ wanted date.number = true}.ncard =
      (List.range' first (last + 1 - first)).countP wanted := by
  have numbers : Date.number '' {date | (first ≤ date.number ∧ date.number ≤ last) ∧ wanted date.number = true} =
      ↑((List.range' first (last + 1 - first)).filter wanted).toFinset := by
    ext number
    simp only [Set.mem_image, Set.mem_ofPred_eq, List.coe_toFinset, List.mem_filter, List.mem_range'_1]
    constructor
    · rintro ⟨date, ⟨bounds, found⟩, rfl⟩
      exact ⟨by omega, found⟩
    · rintro ⟨bounds, found⟩
      obtain ⟨date, rfl⟩ := Date.exists_number number (by omega) (by omega)
      exact ⟨date, ⟨by omega, found⟩, rfl⟩
  have injective : Function.Injective Date.number := fun _ _ => Date.number_inj
  rw [← Set.ncard_image_of_injective _ injective, numbers, Set.ncard_coe_finset,
    List.toFinset_card_of_nodup (List.Nodup.filter wanted List.nodup_range'), List.countP_eq_length_filter]

/-! ## Holidays -/

def AreHolidays (zone : Zone) (values : List Value) : Prop :=
  ∀ value ∈ values, value.isEmpty = true ∨ ∃ date, value.Denotes zone date

def Holiday (zone : Zone) (values : List Value) (date : Date) : Prop :=
  ∃ value ∈ values, value.Denotes zone date

def Weekday (date : Date) : Prop :=
  date.weekday < 5

instance (date : Date) : Decidable (Weekday date) :=
  inferInstanceAs (Decidable (_ < _))

theorem not_isEmpty_of_denotes {value : Value} {date : Date} (denotes : value.Denotes zone date) :
    value.isEmpty = false := by
  obtain ⟨moment, read, _⟩ := denotes
  cases value with
  | empty => cases read
  | text value =>
    cases value with
    | nil => cases read
    | cons char rest => rfl
  | _ => rfl

theorem exists_dates {values : List Value} (each : ∀ value ∈ values, ∃ date, value.Denotes zone date) :
    ∃ dates, List.Forall₂ (Value.Denotes zone) values dates := by
  induction values with
  | nil => exact ⟨[], .nil⟩
  | cons value rest ih =>
    obtain ⟨⟨date, denotes⟩, later⟩ := List.forall_mem_cons.mp each
    obtain ⟨dates, denote⟩ := ih later
    exact ⟨date :: dates, .cons denotes denote⟩

theorem mem_dates_iff {values : List Value} {dates : List Date} (denote : List.Forall₂ (Value.Denotes zone) values dates)
    {date : Date} : date ∈ dates ↔ Holiday zone values date := by
  induction denote with
  | nil => simp [Holiday]
  | @cons value own values dates first _ ih =>
    rw [Holiday] at ih ⊢
    rw [List.mem_cons, List.exists_mem_cons_iff, ih]
    constructor
    · rintro (rfl | later)
      · exact Or.inl first
      · exact Or.inr later
    · rintro (denotes | later)
      · exact Or.inl (denotes.unique first)
      · exact Or.inr later

theorem holiday_filter {values : List Value} {date : Date} :
    Holiday zone (values.filter (!·.isEmpty)) date ↔ Holiday zone values date := by
  simp only [Holiday, List.mem_filter]
  constructor
  · rintro ⟨value, ⟨member, _⟩, denotes⟩
    exact ⟨value, member, denotes⟩
  · rintro ⟨value, member, denotes⟩
    exact ⟨value, ⟨member, by rw [not_isEmpty_of_denotes denotes]; rfl⟩, denotes⟩

theorem exists_holidays {values : List Value} (readable : AreHolidays zone values) :
    ∃ holidays, datesOf zone (values.filter (!·.isEmpty)) = .ok (some holidays) ∧
      ∀ date, date ∈ holidays ↔ Holiday zone values date := by
  have each : ∀ value ∈ values.filter (!·.isEmpty), ∃ date, value.Denotes zone date := by
    intro value member
    obtain ⟨among, filled⟩ := List.mem_filter.mp member
    refine (readable value among).resolve_left ?_
    simpa using filled
  obtain ⟨holidays, denote⟩ := exists_dates each
  exact ⟨holidays, datesOf_of_denotes denote, fun date => (mem_dates_iff denote).trans holiday_filter⟩

/-! ## The count -/

/-- The workdays between two dates that are no holidays, counted downwards if the second date is the earlier one. -/
noncomputable def workdayCount (first last : Date) (holiday : Date → Prop) : Int :=
  let count := {date : Date | Between first last date ∧ Weekday date ∧ ¬holiday date}.ncard
  if first ≤ last then count else -count

theorem workdays_eq_ncard (first last : Date) (holidays : List Date) :
    workdays (min first.number last.number) (max first.number last.number) holidays =
      {date : Date | Between first last date ∧ Weekday date ∧ ¬date ∈ holidays}.ncard := by
  have positive := Nat.le_min.mpr ⟨first.number_pos, last.number_pos⟩
  have within := Nat.max_le.mpr ⟨first.number_le, last.number_le⟩
  rw [workdays, ← ncard_eq_countP positive within]
  congr 1
  ext date
  have among : (holidays.any fun holiday => holiday.number == date.number) = true ↔ date ∈ holidays := by
    rw [List.any_eq_true]
    constructor
    · rintro ⟨holiday, member, same⟩
      rwa [← Date.number_inj (beq_iff_eq.mp same)]
    · exact fun member => ⟨date, member, beq_self_eq_true _⟩
  have weekday : weekdayOfNumber date.number < 5 ↔ Weekday date := Iff.rfl
  simp only [Set.mem_ofPred_eq, Bool.and_eq_true, Bool.not_eq_true', ← Bool.not_eq_true, decide_eq_true_eq, among,
    Date.between_iff, weekday]

section Denoting

variable {start stop : Value} {first last : Date} {values : List Value} (starts : start.Denotes zone first)
  (stops : stop.Denotes zone last) (readable : AreHolidays zone values)

include starts stops readable

theorem networkDays_of_denotes : networkDays zone (start :: stop :: values) =
    if first = Date.last ∨ last = Date.last then .error .outOfRange
    else .ok (.integer (workdayCount first last (Holiday zone values))) := by
  have dates : datesOf zone [start, stop] = .ok (some [first, last]) := datesOf_of_denotes (.cons starts (.cons stops .nil))
  obtain ⟨holidays, read, among⟩ := exists_holidays readable
  have edge : max first.number last.number = lastDay ↔ first = Date.last ∨ last = Date.last := by
    rw [← Date.number_eq_lastDay, ← Date.number_eq_lastDay]
    have own := first.number_le
    have others := last.number_le
    omega
  have counted := workdays_eq_ncard first last holidays
  simp only [among] at counted
  have order : first ≤ last ↔ first.number ≤ last.number := Date.le_iff_number
  rw [networkDays, requireAtLeast_two]
  change (datesOf zone [start, stop] >>= _) = _
  rw [dates]
  change (datesOf zone (values.filter (!·.isEmpty)) >>= _) = _
  rw [read]
  change (if max first.number last.number = lastDay then _ else _ : Except Failure Value) = _
  simp only [edge]
  split
  · rfl
  · change Except.ok (Value.integer (if last.number < first.number then
      -(workdays (min first.number last.number) (max first.number last.number) holidays : Int) else _)) = _
    rw [counted, workdayCount]
    by_cases ordered : first ≤ last
    · have numbers := order.mp ordered
      rw [if_pos ordered, if_neg (by omega)]
    · have numbers := mt order.mpr ordered
      rw [if_neg ordered, if_pos (by omega)]

/-- The workdays between two dates: the answer is their number, negative if the second date is the earlier one, exactly
if neither is the last date of the calendar, and if one is there is none. Of the holidays, in whatever order and however
often they are given, only those count that are weekdays between the dates. -/
theorem workdays_counted :
    (networkDays zone (start :: stop :: values) = .ok (.integer (workdayCount first last (Holiday zone values))) ↔
      first ≠ Date.last ∧ last ≠ Date.last) ∧
    (first = Date.last ∨ last = Date.last → networkDays zone (start :: stop :: values) = .error .outOfRange) ∧
    ∀ others, AreHolidays zone others →
      (∀ date, Between first last date → Weekday date → (Holiday zone others date ↔ Holiday zone values date)) →
        networkDays zone (start :: stop :: others) = networkDays zone (start :: stop :: values) := by
  have answer := networkDays_of_denotes starts stops readable
  refine ⟨?_, fun edge => by rw [answer, if_pos edge], fun others alsoReadable same => ?_⟩
  · rw [answer, ← not_or]
    split
    next edge => exact iff_of_false nofun (not_not_intro edge)
    next inside => exact iff_of_true rfl inside
  · have days : {date : Date | Between first last date ∧ Weekday date ∧ ¬Holiday zone others date} =
        {date | Between first last date ∧ Weekday date ∧ ¬Holiday zone values date} := by
      ext date
      exact and_congr_right fun between => and_congr_right fun weekday => not_congr (same date between weekday)
    have count : workdayCount first last (Holiday zone others) = workdayCount first last (Holiday zone values) := by
      rw [workdayCount, workdayCount, days]
    rw [networkDays_of_denotes starts stops alsoReadable, answer, count]

end Denoting

theorem workdays_counted_march :
    (Value.text "2024-03-01".toList).Denotes .utc ⟨2024, 3, 1, by decide⟩ ∧
      (Value.text "2024-03-31".toList).Denotes .utc ⟨2024, 3, 31, by decide⟩ ∧
      AreHolidays .utc [.text "2024-03-29".toList, .empty] ∧
      networkDays .utc [.text "2024-03-01".toList, .text "2024-03-31".toList, .text "2024-03-29".toList, .empty] =
        .ok (.integer (workdayCount ⟨2024, 3, 1, by decide⟩ ⟨2024, 3, 31, by decide⟩
          (Holiday .utc [.text "2024-03-29".toList, .empty]))) ∧
      networkDays .utc [.text "2024-03-01".toList, .text "2024-03-31".toList, .text "2024-03-30".toList,
          .text "2024-03-29".toList, .text "2024-03-29".toList] =
        networkDays .utc [.text "2024-03-01".toList, .text "2024-03-31".toList, .text "2024-03-29".toList, .empty] := by
  have starts : (Value.text "2024-03-01".toList).Denotes .utc ⟨2024, 3, 1, by decide⟩ :=
    denotes_isoText (by decide) (by decide)
  have stops : (Value.text "2024-03-31".toList).Denotes .utc ⟨2024, 3, 31, by decide⟩ :=
    denotes_isoText (by decide) (by decide)
  have friday : (Value.text "2024-03-29".toList).Denotes .utc ⟨2024, 3, 29, by decide⟩ :=
    denotes_isoText (by decide) (by decide)
  have saturday : (Value.text "2024-03-30".toList).Denotes .utc ⟨2024, 3, 30, by decide⟩ :=
    denotes_isoText (by decide) (by decide)
  have none : AreHolidays .utc [] := List.forall_mem_nil _
  have readable : AreHolidays .utc [.text "2024-03-29".toList, .empty] :=
    List.forall_mem_cons.mpr ⟨Or.inr ⟨_, friday⟩, List.forall_mem_cons.mpr ⟨Or.inl rfl, none⟩⟩
  have once : AreHolidays .utc [.text "2024-03-29".toList] := List.forall_mem_cons.mpr ⟨Or.inr ⟨_, friday⟩, none⟩
  have alsoReadable : AreHolidays .utc [.text "2024-03-30".toList, .text "2024-03-29".toList, .text "2024-03-29".toList] :=
    List.forall_mem_cons.mpr ⟨Or.inr ⟨_, saturday⟩, List.forall_mem_cons.mpr ⟨Or.inr ⟨_, friday⟩, once⟩⟩
  obtain ⟨counted, _, same⟩ := workdays_counted starts stops readable
  refine ⟨starts, stops, readable, counted.mpr (by decide), same _ alsoReadable fun date _ weekday => ?_⟩
  have empty : ¬Value.empty.Denotes .utc date := nofun
  have weekend : ¬(Value.text "2024-03-30".toList).Denotes .utc date := by
    intro denotes
    rw [denotes.unique saturday] at weekday
    exact absurd weekday (by decide)
  simp only [Holiday, List.exists_mem_cons_iff, List.not_mem_nil, false_and, exists_false, or_false, empty, weekend,
    false_or, or_self]

theorem workdays_counted_last :
    ¬∀ (zone : Zone) (start stop : Value) (first last : Date) (values : List Value), start.Denotes zone first →
      stop.Denotes zone last → AreHolidays zone values → networkDays zone (start :: stop :: values) =
        .ok (.integer (workdayCount first last (Holiday zone values))) := by
  intro always
  have starts : (Value.text "9999-12-27".toList).Denotes .utc ⟨9999, 12, 27, by decide⟩ :=
    denotes_isoText (by decide) (by decide)
  have stops : (Value.text "9999-12-31".toList).Denotes .utc Date.last := denotes_isoText (by decide) (by decide)
  have none : AreHolidays .utc [] := List.forall_mem_nil _
  have answer := always .utc _ _ _ _ [] starts stops none
  rw [networkDays_of_denotes starts stops none, if_pos (Or.inr rfl)] at answer
  cases answer

end Builtin

end Worksheet
