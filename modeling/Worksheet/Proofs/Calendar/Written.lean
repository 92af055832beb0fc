import Worksheet.Builtin.Calendar
import Worksheet.Proofs.Calendar.Day
import Worksheet.Proofs.Calendar.Reading
import Worksheet.Proofs.Number.Whole
import Worksheet.Proofs.Outcome
import Worksheet.Proofs.Text.Cut

/-! Dates as they are written, with month and day in two digits and the year as it is. From the year 1000 on that is
ISO notation and is read back; the year has fewer digits before, and then no notation for dates reads it. -/

namespace Worksheet

variable {zone : Zone}

/-! ## Digits in a row -/

namespace Value

theorem twoPlaces_eq {number : Nat} (small : number < 100) :
    twoPlaces number = [Nat.digitChar (number / 10), Nat.digitChar (number % 10)] := by
  have table : ∀ number < 100, twoPlaces number = [Nat.digitChar (number / 10), Nat.digitChar (number % 10)] := by
    decide +kernel
  exact table number small

theorem isDigit_of_mem_twoPlaces {number : Nat} {char : Char} (member : char ∈ twoPlaces number) :
    char.isDigit = true :=
  Text.isDigit_of_mem_zeroFill (fun _ => Text.isDigit_of_mem_ofNat) member

theorem digitsValue_twoPlaces (number : Nat) : Text.digitsValue (twoPlaces number) = number := by
  rw [twoPlaces, Text.digitsValue_zeroFill, Text.digitsValue_ofNat]

theorem length_twoPlaces {number : Nat} (small : number < 100) : (twoPlaces number).length = 2 := by
  rw [twoPlaces_eq small]
  rfl

end Value

namespace Iso

theorem readDigits_append {digits : Octets} (allDigits : ∀ char ∈ digits, char.isDigit = true) (value : Nat)
    (rest : Octets) : readDigits digits.length value (digits ++ rest) =
      some (digits.foldl (fun value char => 10 * value + (Text.digitValue? char).getD 0) value, rest) := by
  induction digits generalizing value with
  | nil => rfl
  | cons char digits ih =>
    obtain ⟨digit, later⟩ := List.forall_mem_cons.mp allDigits
    rw [List.length_cons, List.cons_append, readDigits, if_pos digit, ih later, List.foldl_cons,
      Text.digitValue_of_isDigit digit, Option.getD_some]

theorem readDigits_text {digits : Octets} (allDigits : ∀ char ∈ digits, char.isDigit = true) {count : Nat}
    (length : digits.length = count) (rest : Octets) :
    readDigits count 0 (digits ++ rest) = some (Text.digitsValue digits, rest) := by
  rw [← length]
  exact readDigits_append allDigits 0 rest

theorem readDigits_of_short {digits : Octets} {count : Nat} (short : digits.length < count)
    (allDigits : ∀ char ∈ digits, char.isDigit = true) {char : Char} (other : char.isDigit = false) (value : Nat)
    (rest : Octets) : readDigits count value (digits ++ char :: rest) = none := by
  induction digits generalizing value count with
  | nil =>
    obtain ⟨less, rfl⟩ : ∃ less, count = less + 1 := ⟨count - 1, by simp at short; omega⟩
    simp [readDigits, other]
  | cons digit digits ih =>
    obtain ⟨own, later⟩ := List.forall_mem_cons.mp allDigits
    rw [List.length_cons] at short
    obtain ⟨less, rfl⟩ : ∃ less, count = less + 1 := ⟨count - 1, by omega⟩
    rw [List.cons_append, readDigits, if_pos own]
    exact ih (by omega) later _

end Iso

/-! ## Characters that a pattern asks for -/

namespace DatePattern

def LeavesPart (text : Text) (reading : Option (Nat × Text)) : Prop :=
  ∀ value rest, reading = some (value, rest) → rest ⊆ text

@[simp] theorem leavesPart_twoDigits (first last : Nat) (text : Text) :
    LeavesPart text (twoDigits first last text) := by
  intro value rest read
  unfold twoDigits at read
  split at read
  · split at read
    · split at read
      · cases read
        exact fun char member => List.mem_cons_of_mem _ (List.mem_cons_of_mem _ member)
      · cases read
    · cases read
  · cases read

@[simp] theorem leavesPart_asciiTwoDigits (first least last : Nat) (text : Text) :
    LeavesPart text (asciiTwoDigits first least last text) := by
  intro value rest read
  unfold asciiTwoDigits at read
  split at read
  · split at read
    · cases read
      exact fun char member => List.mem_cons_of_mem _ (List.mem_cons_of_mem _ member)
    · cases read
  · cases read

@[simp] theorem leavesPart_asciiDigit (text : Text) : LeavesPart text (asciiDigit text) := by
  intro value rest read
  unfold asciiDigit at read
  split at read
  · split at read
    · cases read
      exact List.subset_cons_self _ _
    · cases read
  · cases read

@[simp] theorem leavesPart_anyDigit (text : Text) : LeavesPart text (anyDigit text) := by
  intro value rest read
  unfold anyDigit at read
  split at read
  · obtain ⟨_, _, same⟩ := Option.map_eq_some_iff.mp read
    cases same
    exact List.subset_cons_self _ _
  · cases read

@[simp] theorem leavesPart_spacedDigit (text : Text) : LeavesPart text (spacedDigit text) := by
  intro value rest read
  unfold spacedDigit at read
  split at read
  · exact List.subset_cons_of_subset _ (leavesPart_asciiDigit _ _ _ read)
  · cases read

theorem leavesPart_fourDigits (text : Text) : LeavesPart text (fourDigits text) := by
  intro value rest read
  unfold fourDigits at read
  simp only at read
  split at read
  · cases read
    exact List.drop_subset 4 text
  · cases read

theorem subset_of_mem_filterMap {text rest : Text} {value : Nat} {readings : List (Option (Nat × Text))}
    (each : ∀ reading ∈ readings, LeavesPart text reading) (member : (value, rest) ∈ readings.filterMap id) :
    rest ⊆ text := by
  obtain ⟨reading, among, read⟩ := List.mem_filterMap.mp member
  exact each reading among value rest read

theorem subset_of_mem_readings {text rest : Text} {field : DateField} {value : Nat}
    (member : (value, rest) ∈ readings text field) : rest ⊆ text := by
  cases field with
  | year => exact leavesPart_fourDigits text value rest (Option.mem_toList.mp member)
  | month => exact subset_of_mem_filterMap (by simp) member
  | day => exact subset_of_mem_filterMap (by simp) member
  | hour => exact subset_of_mem_filterMap (by simp) member
  | minute => exact subset_of_mem_filterMap (by simp [or_imp, forall_and]) member
  | second => exact subset_of_mem_filterMap (by simp [or_imp, forall_and]) member

theorem mem_of_read {pattern : DatePattern} {fields found : Fields} {text rest : Text} {char : Char}
    (read : pattern.read fields text = some (found, rest)) (asked : PatternItem.literal char ∈ pattern) :
    char ∈ text := by
  induction pattern generalizing fields text with
  | nil => cases asked
  | cons item items ih =>
    cases item with
    | literal own =>
      unfold DatePattern.read at read
      split at read
      · split at read
        next same =>
          rcases List.mem_cons.mp asked with here | later
          · cases here
            exact same ▸ List.mem_cons_self
          · exact List.mem_cons_of_mem _ (ih read later)
        next => cases read
      · cases read
    | blanks =>
      obtain ⟨left, among, onward⟩ := List.exists_of_findSome?_eq_some read
      have later : PatternItem.literal char ∈ items := (List.mem_cons.mp asked).resolve_left nofun
      obtain ⟨count, _, rfl⟩ := List.mem_map.mp (List.mem_reverse.mp among)
      exact List.mem_of_mem_drop (ih onward later)
    | field field =>
      obtain ⟨⟨value, left⟩, among, onward⟩ := List.exists_of_findSome?_eq_some read
      have later : PatternItem.literal char ∈ items := (List.mem_cons.mp asked).resolve_left nofun
      exact subset_of_mem_readings among (ih onward later)

theorem moment?_of_notMem {pattern : DatePattern} {text : Text} {char : Char} (absent : char ∉ text)
    (asked : PatternItem.literal char ∈ pattern) : pattern.moment? text = none := by
  unfold moment?
  split
  next read => exact absurd (mem_of_read read asked) absent
  next => rfl

theorem readCustomary_eq_none {text : Text} (noSlash : '/' ∉ text) (noColon : ':' ∉ text) :
    readCustomary text = none := by
  refine List.findSome?_eq_none_iff.mpr fun pattern member => ?_
  simp only [customary, List.mem_cons, List.not_mem_nil, or_false] at member
  rcases member with rfl | rfl | rfl | rfl | rfl | rfl
  · exact moment?_of_notMem noSlash (by simp [monthFirst, slashed])
  · exact moment?_of_notMem noSlash (by simp [monthFirst, slashed])
  · exact moment?_of_notMem noSlash (by simp [monthFirst, slashed])
  · exact moment?_of_notMem noSlash (by simp [slashed])
  · exact moment?_of_notMem noColon (by simp [seconds, minutes])
  · exact moment?_of_notMem noColon (by simp [minutes])

end DatePattern

/-! ## The parts of a date -/

namespace Builtin

open Value (twoPlaces)
open Calendar (month_bounds daysInMonth_bounds)

theorem month_lt (date : Date) : date.month < 100 := by
  have bounds := month_bounds date.isDate
  omega

theorem day_lt (date : Date) : date.day < 100 := by
  have most := date.isDate.day_le
  obtain ⟨first, last⟩ := month_bounds date.isDate
  have length := daysInMonth_bounds date.year date.month first last
  omega

theorem isoText_eq (date : Date) :
    isoText date = Text.ofNat date.year ++ '-' :: (twoPlaces date.month ++ '-' :: twoPlaces date.day) := by
  simp [isoText]

theorem marked_isoText (date : Date) : Text.Marked ['-'] (isoText date) := by
  have hyphen : '-' ∈ ['-'] := List.mem_singleton_self '-'
  have year : Text.Marked ['-'] (Text.ofNat date.year) := .of_digits fun _ => Text.isDigit_of_mem_ofNat
  have month : Text.Marked ['-'] (twoPlaces date.month) := .of_digits fun _ => Value.isDigit_of_mem_twoPlaces
  have day : Text.Marked ['-'] (twoPlaces date.day) := .of_digits fun _ => Value.isDigit_of_mem_twoPlaces
  rw [isoText_eq]
  exact year.append_mark hyphen (month.append_mark hyphen day)

theorem hyphen_notMem (digits : Text) (allDigits : ∀ char ∈ digits, char.isDigit = true) : '-' ∉ digits := by
  intro member
  exact absurd (allDigits _ member) (by decide)

theorem splitOn_isoText (date : Date) : Text.splitOn ['-'] (isoText date) =
    [Text.ofNat date.year, twoPlaces date.month, twoPlaces date.day] := by
  have year := hyphen_notMem (Text.ofNat date.year) fun _ => Text.isDigit_of_mem_ofNat
  have month := hyphen_notMem (twoPlaces date.month) fun _ => Value.isDigit_of_mem_twoPlaces
  have day := hyphen_notMem (twoPlaces date.day) fun _ => Value.isDigit_of_mem_twoPlaces
  change Text.cut ['-'] 0 [] (isoText date) = _
  rw [isoText_eq, Text.cut_single_append [] year, Text.cut_single_append [] month, Text.cut_single_of_notMem [] day]
  rfl

theorem isoText_inj {date other : Date} (same : isoText date = isoText other) : date = other := by
  have parts := congrArg (Text.splitOn ['-']) same
  rw [splitOn_isoText, splitOn_isoText] at parts
  simp only [List.cons.injEq, and_true] at parts
  obtain ⟨year, month, day⟩ := parts
  have years := Text.ofNat_inj year
  have months := congrArg Text.digitsValue month
  have days := congrArg Text.digitsValue day
  rw [Value.digitsValue_twoPlaces, Value.digitsValue_twoPlaces] at months days
  obtain ⟨_, _, _, _⟩ := date
  obtain ⟨_, _, _, _⟩ := other
  simp only at years months days
  subst years months days
  rfl

theorem length_ofNat_year (date : Date) : (Text.ofNat date.year).length = 4 ↔ 1000 ≤ date.year := by
  have last : date.year ≤ 9999 := date.isDate.year_le
  have four : (Text.ofNat date.year).length ≤ 4 ↔ date.year < 10 ^ 4 :=
    Nat.length_toDigits_le_iff (by decide) (by decide)
  have three : (Text.ofNat date.year).length ≤ 3 ↔ date.year < 10 ^ 3 :=
    Nat.length_toDigits_le_iff (by decide) (by decide)
  omega

theorem length_ofNat_year_lt {date : Date} (early : date.year < 1000) : (Text.ofNat date.year).length < 4 := by
  have three : (Text.ofNat date.year).length ≤ 3 ↔ date.year < 10 ^ 3 :=
    Nat.length_toDigits_le_iff (by decide) (by decide)
  omega

/-! ## Reading it -/

theorem readWhole_isoText (date : Date) : Number.readWhole (isoText date) = .ok none := by
  have stripped : Text.strip (isoText date) = Text.ofNat date.year ++ '-' :: _ :=
    ((marked_isoText date).strip_eq (by decide)).trans (isoText_eq date)
  exact Number.readWhole_of_mark stripped (Text.ofNat_ne_nil date.year) (Text.digits_ofNat date.year) (by decide)

theorem readDate_append (date : Date) {year : Text} (allDigits : ∀ char ∈ year, char.isDigit = true)
    (length : year.length = 4) (value : Text.digitsValue year = date.year) (rest : Iso.Octets) :
    Iso.readDate 10 (year ++ '-' :: (twoPlaces date.month ++ '-' :: (twoPlaces date.day ++ rest))) = some date := by
  have years := Iso.readDigits_text allDigits length
    ('-' :: (twoPlaces date.month ++ '-' :: (twoPlaces date.day ++ rest)))
  have months := Iso.readDigits_text (fun _ => Value.isDigit_of_mem_twoPlaces)
    (Value.length_twoPlaces (month_lt date)) ('-' :: (twoPlaces date.day ++ rest))
  have days := Iso.readDigits_text (fun _ => Value.isDigit_of_mem_twoPlaces) (Value.length_twoPlaces (day_lt date)) rest
  rw [value] at years
  rw [Value.digitsValue_twoPlaces] at months days
  have parts : Date.ofParts? date.year date.month date.day = some date := Date.ofParts?_eq_some.mpr ⟨rfl, rfl, rfl⟩
  obtain ⟨tens, ones, digits⟩ : ∃ tens ones, twoPlaces date.month = [tens, ones] :=
    ⟨_, _, Value.twoPlaces_eq (month_lt date)⟩
  have noWeek : tens ≠ 'W' := by
    rintro rfl
    exact absurd (Value.isDigit_of_mem_twoPlaces (digits ▸ List.mem_cons_self)) (by decide)
  rw [digits] at years months ⊢
  simp only [List.cons_append, List.nil_append] at years months ⊢
  simp [Iso.readDate, years, months, days, noWeek, Iso.readHyphen, parts]

theorem readDate_isoText {date : Date} (late : 1000 ≤ date.year) : Iso.readDate 10 (isoText date) = some date := by
  have read := readDate_append date (fun _ => Text.isDigit_of_mem_ofNat) ((length_ofNat_year date).mpr late)
    (Text.digitsValue_ofNat _) []
  rwa [List.append_nil, ← isoText_eq] at read

theorem read_isoText {date : Date} (late : 1000 ≤ date.year) :
    Iso.read zone (isoText date) = .ok (some (DateTime.ofDate date)) := by
  have year := (length_ofNat_year date).mpr late
  have length : (isoText date).length = 10 := by
    simp [isoText_eq, year, Value.length_twoPlaces (month_lt date), Value.length_twoPlaces (day_lt date)]
  have dateLength := (marked_isoText date).dateLength_eq (by decide) (isoText_eq date) year (by omega)
  rw [Iso.read, (marked_isoText date).octets_eq (by decide)]
  simp [length, dateLength, readDate_isoText late]

theorem read_isoText_early {date : Date} (early : date.year < 1000) : Iso.read zone (isoText date) = .ok none := by
  have short := Iso.readDigits_of_short (length_ofNat_year_lt early)
    (fun _ => Text.isDigit_of_mem_ofNat) (show Char.isDigit '-' = false from rfl) 0
    (twoPlaces date.month ++ '-' :: twoPlaces date.day)
  rw [← isoText_eq] at short
  have none (length : Nat) : Iso.readDate length (isoText date) = none := by
    simp [Iso.readDate, short]
  rw [Iso.read, (marked_isoText date).octets_eq (by decide)]
  simp only [none]
  split
  · rfl
  · split <;> rfl

theorem readCustomary_isoText (date : Date) : DatePattern.readCustomary (isoText date) = none :=
  DatePattern.readCustomary_eq_none ((marked_isoText date).notMem (by decide) (by decide))
    ((marked_isoText date).notMem (by decide) (by decide))

theorem momentOfText_isoText (date : Date) :
    Value.momentOfText zone (isoText date) = Iso.read zone (isoText date) := by
  rw [(marked_isoText date).momentOfText_eq (by decide) (by decide) (readWhole_isoText date), readCustomary_isoText]
  cases Iso.read zone (isoText date) with
  | error failure => rfl
  | ok found => cases found <;> rfl

theorem toMoment_isoText (date : Date) : (Value.text (isoText date)).toMoment zone =
    .ok (if 1000 ≤ date.year then some (DateTime.ofDate date) else none) := by
  change Value.momentOfText zone (isoText date) = _
  rw [momentOfText_isoText]
  split
  next late => exact read_isoText late
  next early => exact read_isoText_early (Nat.lt_of_not_le early)

end Builtin

end Worksheet
