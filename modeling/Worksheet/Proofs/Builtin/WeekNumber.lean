import Worksheet.Proofs.Builtin.Workday

/-! Numbers of weeks. A year starts in its week one, on whatever weekday, and from there on every day that begins a
week, by the number that its weekday is given, begins the next one. -/

namespace Worksheet.Builtin

variable {zone : Zone}

inductive WeekStart where
  | sunday
  | monday

namespace WeekStart

def kind : WeekStart → Int
  | sunday => 1
  | monday => 2

/-- How many days before the end of a week from Monday on this one begins. -/
def early : WeekStart → Nat
  | sunday => 1
  | monday => 0

variable (start : WeekStart)

def Begins (date : Date) : Prop :=
  ∀ (zone : Zone) (value : Value), value.Denotes zone date →
    weekdayNumber zone [value, .integer start.kind] = .ok (.integer 1)

def beginsAt (number : Nat) : Bool :=
  (number + 6 + start.early) % 7 == 0

def weeksBegun (first : Date) (days : Nat) : Nat :=
  (days + (first.weekday + start.early) % 7) / 7

variable {value : Value} {date : Date}

theorem weekdayNumber_eq (denotes : value.Denotes zone date) :
    weekdayNumber zone [value, .integer start.kind] = .ok (.ofNat ((date.weekday + start.early) % 7 + 1)) := by
  obtain ⟨moment, read, rfl⟩ := denotes
  change (value.toMoment zone >>= _) = _
  rw [read]
  cases start with
  | sunday => rfl
  | monday =>
    have small : moment.date.weekday < 7 := Nat.mod_lt _ (by decide)
    have whole : (moment.date.weekday + 0) % 7 = moment.date.weekday := Nat.mod_eq_of_lt small
    rw [early, whole]
    rfl

theorem weekNumber_eq (denotes : value.Denotes zone date) :
    weekNumber zone [value, .integer start.kind] =
      .ok (.ofNat (start.weeksBegun date.firstOfYear (date.number - date.firstOfYear.number) + 1)) := by
  obtain ⟨moment, read, rfl⟩ := denotes
  change (value.toMoment zone >>= _) = _
  rw [read]
  cases start with
  | sunday => rfl
  | monday =>
    have small : moment.date.firstOfYear.weekday < 7 := Nat.mod_lt _ (by decide)
    have whole : (moment.date.firstOfYear.weekday + 0) % 7 = moment.date.firstOfYear.weekday := Nat.mod_eq_of_lt small
    rw [weeksBegun, early, whole]
    rfl

theorem weekdayNumber_eq_one_iff (denotes : value.Denotes zone date) :
    weekdayNumber zone [value, .integer start.kind] = .ok (.integer 1) ↔ start.beginsAt date.number = true := by
  have shift : date.weekday + start.early = (date.number + 6) % 7 + start.early := rfl
  rw [weekdayNumber_eq start denotes, Value.ofNat, Value.integer, beginsAt, beq_iff_eq, Except.ok.injEq,
    Value.number.injEq, Number.integer.injEq]
  omega

theorem begins_iff : start.Begins date ↔ start.beginsAt date.number = true := by
  have given : (Value.date date).Denotes .utc date := ⟨DateTime.ofDate date, rfl, rfl⟩
  constructor
  · intro begins
    exact (weekdayNumber_eq_one_iff start given).mp (begins _ _ given)
  · intro here zone value denotes
    exact (weekdayNumber_eq_one_iff start denotes).mpr here

theorem weeksBegun_succ (first : Date) (days : Nat) :
    start.weeksBegun first (days + 1) =
      start.weeksBegun first days + if start.beginsAt (first.number + 1 + days) then 1 else 0 := by
  simp only [weeksBegun, beginsAt, Date.weekday, beq_iff_eq]
  split <;> omega

theorem weeksBegun_eq_countP (first : Date) (days : Nat) :
    start.weeksBegun first days = (List.range' (first.number + 1) days).countP start.beginsAt := by
  induction days with
  | zero =>
    have small : (first.weekday + start.early) % 7 < 7 := Nat.mod_lt _ (by decide)
    rw [weeksBegun, Nat.zero_add, Nat.div_eq_of_lt small]
    rfl
  | succ days ih =>
    rw [weeksBegun_succ, ih, List.range'_1_concat, List.countP_append, List.countP_singleton]

theorem weeksBegun_eq_ncard (date : Date) :
    start.weeksBegun date.firstOfYear (date.number - date.firstOfYear.number) =
      {other : Date | (date.firstOfYear ≤ other ∧ other ≠ date.firstOfYear) ∧ other ≤ date ∧ start.Begins other}.ncard := by
  have counted := ncard_eq_countP (Nat.le_add_left 1 date.firstOfYear.number) date.number_le start.beginsAt
  rw [weeksBegun_eq_countP, ← Nat.add_sub_add_right date.number 1, ← counted]
  congr 1
  ext other
  have apart : other ≠ date.firstOfYear ↔ other.number ≠ date.firstOfYear.number :=
    not_congr ⟨congrArg Date.number, Date.number_inj⟩
  have after : (date.firstOfYear.number ≤ other.number ∧ other.number ≠ date.firstOfYear.number) ↔
      date.firstOfYear.number + 1 ≤ other.number := by omega
  simp only [Set.mem_ofPred_eq, begins_iff, Date.le_iff_number, apart, ← after, and_assoc]

end WeekStart

variable {value : Value} {date : Date}

/-- The weeks begun since the first of January, and how the number goes on to the next day of the year. -/
theorem weeks_are_counted (start : WeekStart) (denotes : value.Denotes zone date) :
    ∃ week : Nat, weekNumber zone [value, .integer start.kind] = .ok (.ofNat week) ∧
      week = 1 + {other : Date | (date.firstOfYear ≤ other ∧ other ≠ date.firstOfYear) ∧ other ≤ date ∧
        start.Begins other}.ncard ∧
      ∀ (later : Date) (other : Value), date.next? = some later → later.year = date.year → other.Denotes zone later →
        (weekdayNumber zone [other, .integer start.kind] = .ok (.integer 1) →
          weekNumber zone [other, .integer start.kind] = .ok (.ofNat (week + 1))) ∧
        (weekdayNumber zone [other, .integer start.kind] ≠ .ok (.integer 1) →
          weekNumber zone [other, .integer start.kind] = .ok (.ofNat week)) := by
  refine ⟨_, start.weekNumber_eq denotes, ?_, ?_⟩
  · rw [start.weeksBegun_eq_ncard, Nat.add_comm]
  · intro later other next year denotesLater
    have first : date.firstOfYear.number ≤ date.number := Date.le_iff_number.mp (Date.firstOfYear_le date)
    have number := Date.number_of_next next
    have sameFirst : later.firstOfYear = date.firstOfYear := by
      simp only [Date.firstOfYear, year]
    have onward : later.number - date.firstOfYear.number = date.number - date.firstOfYear.number + 1 := by
      omega
    have here : date.firstOfYear.number + 1 + (date.number - date.firstOfYear.number) = later.number := by
      omega
    rw [Ne, start.weekNumber_eq denotesLater, start.weekdayNumber_eq_one_iff denotesLater, sameFirst, onward,
      start.weeksBegun_succ, here]
    constructor
    · intro begins
      rw [if_pos begins]
    · intro stays
      rw [if_neg stays, Nat.add_zero]

theorem last_week_begins_on_new_years_eve :
    ((Value.text "2023-12-30".toList).Denotes .utc ⟨2023, 12, 30, by decide⟩ ∧
      (Value.text "2023-12-31".toList).Denotes .utc ⟨2023, 12, 31, by decide⟩) ∧
    ∃ week : Nat, weekNumber .utc [.text "2023-12-30".toList, .integer 1] = .ok (.ofNat week) ∧
      week = 1 + {other : Date | (⟨2023, 1, 1, by decide⟩ ≤ other ∧ other ≠ ⟨2023, 1, 1, by decide⟩) ∧
        other ≤ ⟨2023, 12, 30, by decide⟩ ∧ WeekStart.sunday.Begins other}.ncard ∧
      weekNumber .utc [.text "2023-12-31".toList, .integer 1] = .ok (.ofNat (week + 1)) := by
  have saturday : (Value.text "2023-12-30".toList).Denotes .utc ⟨2023, 12, 30, by decide⟩ :=
    denotes_isoText (by decide) (by decide)
  have sunday : (Value.text "2023-12-31".toList).Denotes .utc ⟨2023, 12, 31, by decide⟩ :=
    denotes_isoText (by decide) (by decide)
  have begins : weekdayNumber .utc [.text "2023-12-31".toList, .integer 1] = .ok (.integer 1) := rfl
  obtain ⟨week, answer, counted, onward⟩ := weeks_are_counted .sunday saturday
  exact ⟨⟨saturday, sunday⟩, week, answer, counted, (onward ⟨2023, 12, 31, by decide⟩ _ (by decide) rfl sunday).1 begins⟩

end Worksheet.Builtin
