import Worksheet.Proofs.Builtin.DateArgument
import Worksheet.Proofs.Value.Moment

/-! Functions whose arguments are no dates. A function of dates reads them first, one after the other, and the first
one that is no date decides its answer: it is a value error if reading turned the argument down, and a failure if
reading failed. -/

namespace Worksheet.Builtin

variable {zone : Zone}

/-- The function of that name reads the second arguments among the first as dates, in this order. -/
inductive TakesDates : Text → List Value → List Value → Prop
  | part {name : String} (member : name ∈ ["YEAR", "MONTH", "DAY", "HOUR", "MINUTE", "SECOND"]) (value : Value) :
    TakesDates name.toList [value] [value]
  | week {name : String} (member : name ∈ ["WEEKDAY", "WEEKNUM"]) (value : Value) {numbering : List Value}
    (few : numbering.length ≤ 1) : TakesDates name.toList (value :: numbering) [value]
  | shift {name : String} (member : name ∈ ["EDATE", "EOMONTH"]) (start months : Value) :
    TakesDates name.toList [start, months] [start]
  | difference (start stop unit : Value) : TakesDates "DATEDIF".toList [start, stop, unit] [start, stop]
  | workdays (start stop : Value) (holidays : List Value) :
    TakesDates "NETWORKDAYS".toList (start :: stop :: holidays) (start :: stop :: holidays.filter (!·.isEmpty))

structure AnswersWithout (answer : Except Failure Value) (read : Except Failure (Option (List Date))) : Prop where
  turnedDown : read = .ok none → answer = .ok (.error .value)
  failed : ∀ failure, read = .error failure → answer = .error failure

namespace AnswersWithout

theorem of_error (failure : Failure) : AnswersWithout (.error failure) (.error failure) := by
  refine ⟨nofun, fun other same => ?_⟩
  cases same
  rfl

theorem of_none : AnswersWithout (.ok (.error .value)) (.ok none) :=
  ⟨fun _ => rfl, nofun⟩

theorem of_some (answer : Except Failure Value) (days : List Date) : AnswersWithout answer (.ok (some days)) :=
  ⟨nofun, nofun⟩

theorem of_dates {values : List Value} {answer : Option (List Date) → Except Failure Value}
    (unread : answer none = .ok (.error .value)) :
    AnswersWithout (datesOf zone values >>= answer) (datesOf zone values) := by
  cases datesOf zone values with
  | error failure => exact of_error failure
  | ok found =>
    cases found with
    | none =>
      change AnswersWithout (answer none) _
      rw [unread]
      exact of_none
    | some days => exact of_some _ days

theorem of_moment {value : Value} {answer : Option DateTime → Except Failure Value}
    (unread : answer none = .ok (.error .value)) :
    AnswersWithout (value.toMoment zone >>= answer) (datesOf zone [value]) := by
  rw [datesOf]
  cases value.toMoment zone with
  | error failure => exact of_error failure
  | ok found =>
    cases found with
    | none =>
      change AnswersWithout (answer none) _
      rw [unread]
      exact of_none
    | some moment => exact of_some _ [moment.date]

end AnswersWithout

open AnswersWithout

theorem momentPart_without (name : String) (part : DateTime → ℕ) (value : Value) :
    AnswersWithout (momentPart name part zone [value]) (datesOf zone [value]) :=
  of_moment rfl

theorem require_one_or_two (name : String) (value : Value) {numbering : List Value} (few : numbering.length ≤ 1) :
    require name (value :: numbering) 1 2 = .ok () := by
  apply require_of_within
  · simp only [List.length_cons]
    omega
  · simp only [List.length_cons]
    omega

theorem weekdayNumber_without (value : Value) {numbering : List Value} (few : numbering.length ≤ 1) :
    AnswersWithout (weekdayNumber zone (value :: numbering)) (datesOf zone [value]) := by
  rw [weekdayNumber, require_one_or_two _ value few]
  exact of_moment rfl

theorem weekNumber_without (value : Value) {numbering : List Value} (few : numbering.length ≤ 1) :
    AnswersWithout (weekNumber zone (value :: numbering)) (datesOf zone [value]) := by
  rw [weekNumber, require_one_or_two _ value few]
  exact of_moment rfl

theorem shiftMonths_without (start months : Value) :
    AnswersWithout (shiftMonths zone [start, months]) (datesOf zone [start]) :=
  of_dates rfl

theorem endOfMonth_without (start months : Value) :
    AnswersWithout (endOfMonth zone [start, months]) (datesOf zone [start]) :=
  of_dates rfl

theorem dateDifference_without (start stop unit : Value) :
    AnswersWithout (dateDifference zone [start, stop, unit]) (datesOf zone [start, stop]) :=
  of_dates rfl

/-- The end points are read before the holidays, so that all of them are read in this order. -/
theorem networkDays_without (start stop : Value) (holidays : List Value) :
    AnswersWithout (networkDays zone (start :: stop :: holidays))
      (datesOf zone (start :: stop :: holidays.filter (!·.isEmpty))) := by
  rw [networkDays, requireAtLeast_two]
  change AnswersWithout (datesOf zone [start, stop] >>= _) (datesOf zone ([start, stop] ++ holidays.filter (!·.isEmpty)))
  rw [datesOf_append]
  cases ends : datesOf zone [start, stop] with
  | error failure => exact of_error failure
  | ok found =>
    cases found with
    | none => exact of_none
    | some days =>
      obtain ⟨first, last, rfl⟩ := List.length_eq_two.mp (length_of_datesOf ends)
      change AnswersWithout (datesOf zone (holidays.filter (!·.isEmpty)) >>= _)
        ((datesOf zone (holidays.filter (!·.isEmpty))).map (Option.map ([first, last] ++ ·)))
      cases datesOf zone (holidays.filter (!·.isEmpty)) with
      | error failure => exact of_error failure
      | ok found =>
        cases found with
        | none => exact of_none
        | some days => exact of_some _ _

/-- No two functions of dates have the same name. -/
theorem find?_of_mem_dates {builtin : Builtin} (member : builtin ∈ dates) :
    dates.find? (·.name == builtin.name) = some builtin := by
  have apart : (dates.map (·.name)).Nodup := by decide
  cases found : dates.find? (·.name == builtin.name) with
  | none => exact absurd (List.find?_eq_none.mp found builtin member) (by simp)
  | some other =>
    have same : other.name = builtin.name := by simpa using List.find?_some found
    rw [List.inj_on_of_nodup_map apart (List.mem_of_find?_eq_some found) member same]

theorem dates_without {builtin : Builtin} (member : builtin ∈ dates) {arguments taken : List Value}
    (takes : TakesDates builtin.name arguments taken) (ambient : Ambient) :
    AnswersWithout (builtin.run ambient arguments) (datesOf ambient.zone taken) := by
  have found := find?_of_mem_dates member
  generalize builtin.name = name at takes found
  cases takes with
  | part among value =>
    simp only [List.mem_cons, List.not_mem_nil, or_false] at among
    rcases among with rfl | rfl | rfl | rfl | rfl | rfl
    all_goals
      obtain rfl := Option.some.inj found
      exact momentPart_without _ _ value
  | week among value few =>
    simp only [List.mem_cons, List.not_mem_nil, or_false] at among
    rcases among with rfl | rfl
    · obtain rfl := Option.some.inj found
      exact weekdayNumber_without value few
    · obtain rfl := Option.some.inj found
      exact weekNumber_without value few
  | shift among start months =>
    simp only [List.mem_cons, List.not_mem_nil, or_false] at among
    rcases among with rfl | rfl
    · obtain rfl := Option.some.inj found
      exact shiftMonths_without start months
    · obtain rfl := Option.some.inj found
      exact endOfMonth_without start months
  | difference start stop unit =>
    obtain rfl := Option.some.inj found
    exact dateDifference_without start stop unit
  | workdays start stop holidays =>
    obtain rfl := Option.some.inj found
    exact networkDays_without start stop holidays

section

variable {value : Value} {before after : List Value} {days : List Date}
  (denote : List.Forall₂ (Value.Denotes zone) before days)

include denote

theorem datesOf_of_turnedDown (none : value.toMoment zone = .ok none) :
    datesOf zone (before ++ value :: after) = .ok .none := by
  rw [datesOf_append, datesOf_of_denotes denote]
  change (datesOf zone (value :: after)).map _ = _
  rw [datesOf, none]
  rfl

theorem datesOf_of_failed {failure : Failure} (failed : value.toMoment zone = .error failure) :
    datesOf zone (before ++ value :: after) = .error failure := by
  rw [datesOf_append, datesOf_of_denotes denote]
  change (datesOf zone (value :: after)).map _ = _
  rw [datesOf, failed]
  rfl

end

/-- In every zone, reading a value as a moment fails in the cases of `Value.Defeats` and in no others. To a function of
dates the first argument that denotes no date is a value error exactly if it is none of these, and if it is one the
function fails. -/
theorem date_arguments_read (value : Value) :
    (∀ (zone : Zone) (failure : Failure), value.toMoment zone = .error failure ↔ value.Defeats zone failure) ∧
    ∀ builtin ∈ dates, ∀ (ambient : Ambient) (arguments before after : List Value) (days : List Date),
      TakesDates builtin.name arguments (before ++ value :: after) →
        List.Forall₂ (Value.Denotes ambient.zone) before days →
          (¬(∃ date, value.Denotes ambient.zone date) →
            (builtin.run ambient arguments = .ok (.error .value) ↔ ∀ failure, ¬value.Defeats ambient.zone failure)) ∧
          ∀ failure, value.Defeats ambient.zone failure → builtin.run ambient arguments = .error failure := by
  refine ⟨fun zone failure => Value.toMoment_eq_error, ?_⟩
  intro builtin member ambient arguments before after days takes denote
  obtain ⟨turnedDown, failed⟩ := dates_without member takes ambient
  have defeated : ∀ failure, value.Defeats ambient.zone failure → builtin.run ambient arguments = .error failure :=
    fun failure defeats => failed failure (datesOf_of_failed denote (Value.toMoment_eq_error.mpr defeats))
  refine ⟨fun unread => ⟨fun answer failure defeats => ?_, fun never => ?_⟩, defeated⟩
  · rw [defeated failure defeats] at answer
    cases answer
  · cases read : value.toMoment ambient.zone with
    | error failure => exact absurd (Value.toMoment_eq_error.mp read) (never failure)
    | ok found =>
      cases found with
      | none => exact turnedDown (datesOf_of_turnedDown denote read)
      | some moment => exact absurd ⟨moment.date, moment, read, rfl⟩ unread

theorem date_arguments_read_holiday :
    networkDays .utc [.text "2024-03-01".toList, .text "2024-03-31".toList, .text "soon".toList] = .ok (.error .value) ∧
      networkDays .utc [.text "2024-03-01".toList, .text "2024-03-31".toList, .integer (10 ^ 400)] = .error .outOfRange := by
  have ends : List.Forall₂ (Value.Denotes .utc) [.text "2024-03-01".toList, .text "2024-03-31".toList]
      [⟨2024, 3, 1, by decide⟩, ⟨2024, 3, 31, by decide⟩] :=
    .cons (denotes_isoText (by decide) (by decide)) (.cons (denotes_isoText (by decide) (by decide)) .nil)
  have member : ofDates "NETWORKDAYS" networkDays ∈ dates := by simp [dates]
  constructor
  · obtain ⟨fails, answers⟩ := date_arguments_read (.text "soon".toList)
    have none : (Value.text "soon".toList).toMoment .utc = .ok none := rfl
    have takes := TakesDates.workdays (.text "2024-03-01".toList) (.text "2024-03-31".toList) [.text "soon".toList]
    refine ((answers _ member ⟨0, 0, .utc⟩ _ [_, _] [] _ takes ends).1 ?_).mpr fun failure defeats => ?_
    · rintro ⟨date, moment, read, _⟩
      cases none.symm.trans read
    · cases none.symm.trans ((fails _ failure).mpr defeats)
  · obtain ⟨_, answers⟩ := date_arguments_read (.integer (10 ^ 400))
    have takes := TakesDates.workdays (.text "2024-03-01".toList) (.text "2024-03-31".toList) [.integer (10 ^ 400)]
    exact (answers _ member ⟨0, 0, .utc⟩ _ [_, _] [] _ takes ends).2 _ (.integer (by decide +kernel))

theorem date_arguments_read_outside :
    (Value.text "0001-01-01T00:00+01:00".toList).toMoment .utc = .error .outOfRange ∧
      momentPart "YEAR" (·.date.year) .utc [.text "0001-01-01T00:00+01:00".toList] = .error .outOfRange ∧
      (Value.integer (10 ^ 400)).toMoment .utc = .error .outOfRange ∧
      (Value.text (List.replicate 4301 '1')).toMoment .utc = .error .unreadable := by
  have outside : (Value.text "0001-01-01T00:00+01:00".toList).toMoment .utc = .error .outOfRange := rfl
  have digits : ∀ char ∈ List.replicate 4301 '1', Text.isDigit char = true := by
    intro char member
    rw [List.eq_of_mem_replicate member]
    decide
  have isWhole : Literal.IsWhole (List.replicate 4301 '1') false (Text.strip (List.replicate 4301 '1')) := by
    rw [Text.strip_of_digits digits]
    exact .unsigned (List.ne_nil_of_length_pos (by rw [List.length_replicate]; decide)) digits
  refine ⟨outside, rfl, Value.toMoment_eq_error.mpr (.integer (by decide +kernel)),
    Value.toMoment_eq_error.mpr (.digits isWhole ?_)⟩
  rw [List.length_replicate]
  decide

end Worksheet.Builtin
