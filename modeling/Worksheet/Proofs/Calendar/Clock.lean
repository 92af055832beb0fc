import Worksheet.Proofs.Calendar.Written

/-! Times of day as they are written, hours, minutes and seconds in two digits each. Alone such a text is no moment in
ISO notation, and the customary one reads it as a time on the first day of 1900; behind a date it is the time of that
day. -/

namespace Worksheet

variable {zone : Zone}

open Value (twoPlaces)

structure TimeOfDay where
  hour : Nat
  minute : Nat
  second : Nat
  hour_lt : hour < 24
  minute_lt : minute < 60
  second_lt : second < 60

namespace TimeOfDay

def seconds (time : TimeOfDay) : Nat :=
  3600 * time.hour + 60 * time.minute + time.second

def ofSeconds (seconds : Nat) : TimeOfDay where
  hour := seconds % 86400 / 3600
  minute := seconds % 86400 % 3600 / 60
  second := seconds % 86400 % 60
  hour_lt := by omega
  minute_lt := by omega
  second_lt := by omega

theorem seconds_ofSeconds (seconds : Nat) : (ofSeconds seconds).seconds = seconds % 86400 := by
  simp only [TimeOfDay.seconds, ofSeconds]
  omega

def on (time : TimeOfDay) (date : Date) : DateTime :=
  { DateTime.ofDate date with
    hour := time.hour
    minute := time.minute
    second := time.second
    hour_lt := time.hour_lt
    minute_lt := time.minute_lt
    second_lt := time.second_lt }

def text (time : TimeOfDay) : Text :=
  twoPlaces time.hour ++ ':' :: (twoPlaces time.minute ++ ':' :: twoPlaces time.second)

variable (time : TimeOfDay)

theorem ofParts?_eq (date : Date) :
    DateTime.ofParts? date time.hour time.minute time.second 0 = some (time.on date) :=
  dif_pos ⟨time.hour_lt, time.minute_lt, time.second_lt, by decide⟩

theorem hour_small : time.hour < 100 :=
  Nat.lt_trans time.hour_lt (by decide)

theorem minute_small : time.minute < 100 :=
  Nat.lt_trans time.minute_lt (by decide)

theorem second_small : time.second < 100 :=
  Nat.lt_trans time.second_lt (by decide)

theorem length_text : time.text.length = 8 := by
  simp [text, Value.length_twoPlaces time.hour_small, Value.length_twoPlaces time.minute_small,
    Value.length_twoPlaces time.second_small]

theorem marked_text : Text.Marked [':'] time.text := by
  have colon : ':' ∈ [':'] := List.mem_singleton_self ':'
  have hour : Text.Marked [':'] (twoPlaces time.hour) := .of_digits fun _ => Value.isDigit_of_mem_twoPlaces
  have minute : Text.Marked [':'] (twoPlaces time.minute) := .of_digits fun _ => Value.isDigit_of_mem_twoPlaces
  have second : Text.Marked [':'] (twoPlaces time.second) := .of_digits fun _ => Value.isDigit_of_mem_twoPlaces
  exact hour.append_mark colon (minute.append_mark colon second)

end TimeOfDay

def DateTime.time (moment : DateTime) : TimeOfDay :=
  ⟨moment.hour, moment.minute, moment.second, moment.hour_lt, moment.minute_lt, moment.second_lt⟩

def DateTime.wholeSecond (moment : DateTime) : DateTime :=
  moment.time.on moment.date

/-! ## In the customary notation -/

namespace DatePattern

theorem digit_table : ∀ number < 10, Text.digitValue? (Nat.digitChar number) = some number ∧
    (Nat.digitChar number).toNat = 48 + number := by
  decide

section TwoPlaces

variable {number : Nat} (small : number < 100)

include small

theorem twoDigits_twoPlaces (first last : Nat) (rest : Text) : twoDigits first last (twoPlaces number ++ rest) =
    if number / 10 = first ∧ number % 10 ≤ last then some (number, rest) else none := by
  obtain ⟨tens, tensCode⟩ := digit_table (number / 10) (by omega)
  obtain ⟨ones, _⟩ := digit_table (number % 10) (by omega)
  have whole : 10 * (number / 10) + number % 10 = number := Nat.div_add_mod number 10
  rw [Value.twoPlaces_eq small]
  simp only [List.cons_append, List.nil_append, twoDigits, tens, ones, tensCode, Nat.add_left_cancel_iff, whole]

theorem asciiTwoDigits_twoPlaces (first least last : Nat) (rest : Text) :
    asciiTwoDigits first least last (twoPlaces number ++ rest) =
      if number / 10 = first ∧ least ≤ number % 10 ∧ number % 10 ≤ last then some (number, rest) else none := by
  obtain ⟨_, tensCode⟩ := digit_table (number / 10) (by omega)
  obtain ⟨_, onesCode⟩ := digit_table (number % 10) (by omega)
  rw [Value.twoPlaces_eq small]
  simp only [List.cons_append, List.nil_append, asciiTwoDigits, tensCode, onesCode, Nat.add_left_cancel_iff,
    Nat.add_le_add_iff_left, Nat.add_sub_cancel_left]
  split
  next fits =>
    obtain ⟨rfl, _⟩ := fits
    rw [Nat.div_add_mod]
  next => rfl

end TwoPlaces

theorem filterMap_tens {bound place : Nat} (inside : place < bound) (reading : Nat × Text)
    (others : List (Option (Nat × Text))) :
    ∃ later, (((List.range bound).map fun first => if place = first then some reading else none) ++ others).filterMap id =
      reading :: later := by
  obtain ⟨after, rfl⟩ : ∃ after, bound = place + 1 + after := ⟨bound - place - 1, by omega⟩
  have before : (List.range place).filterMap (fun first => if place = first then some reading else none) = [] := by
    apply List.filterMap_eq_nil_iff.mpr
    intro first member
    have below := List.mem_range.mp member
    exact if_neg (by omega)
  rw [List.range_add, List.range_succ]
  simp [before]

variable (time : TimeOfDay) (rest : Text)

theorem readings_hour : ∃ others, readings (twoPlaces time.hour ++ rest) .hour = (time.hour, rest) :: others := by
  have bound := time.hour_lt
  simp only [readings, asciiTwoDigits_twoPlaces time.hour_small, twoDigits_twoPlaces time.hour_small]
  have tens : time.hour / 10 = 0 ∨ time.hour / 10 = 1 ∨ time.hour / 10 = 2 := by omega
  rcases tens with tens | tens | tens
  · simp [tens, show time.hour % 10 ≤ 9 by omega]
  · simp [tens, show time.hour % 10 ≤ 9 by omega]
  · simp [tens, show time.hour % 10 ≤ 3 by omega]

theorem readings_minute :
    ∃ others, readings (twoPlaces time.minute ++ rest) .minute = (time.minute, rest) :: others := by
  have bound := time.minute_lt
  have ones : time.minute % 10 ≤ 9 := by omega
  simp only [readings, twoDigits_twoPlaces time.minute_small, ones, and_true]
  exact filterMap_tens (by omega) _ _

theorem readings_second :
    ∃ others, readings (twoPlaces time.second ++ rest) .second = (time.second, rest) :: others := by
  have bound := time.second_lt
  have ones : time.second % 10 ≤ 9 := by omega
  have noLeapSecond : ¬time.second / 10 = 6 := by omega
  simp only [readings, asciiTwoDigits_twoPlaces time.second_small, twoDigits_twoPlaces time.second_small, ones, and_true,
    noLeapSecond, false_and, if_false]
  exact filterMap_tens (by omega) _ _

theorem read_field {field : DateField} {text rest : Text} {value : Nat} {items : DatePattern} {fields : Fields}
    {found : Fields × Text} (first : ∃ others, readings text field = (value, rest) :: others)
    (onward : read (fields.set field value) items rest = some found) :
    read fields (.field field :: items) text = some found := by
  obtain ⟨others, preferred⟩ := first
  rw [read, preferred, List.findSome?_cons]
  simp only [onward]

theorem read_seconds : read {} seconds time.text =
    some ({ hour := time.hour, minute := time.minute, second := time.second }, []) := by
  have second := readings_second time []
  rw [List.append_nil] at second
  exact read_field (readings_hour time _) (read_field (readings_minute time _) (read_field second rfl))

theorem moment?_seconds : seconds.moment? time.text = some (time.on ⟨1900, 1, 1, by decide⟩) := by
  have first : Date.ofParts? (1900 : Nat) (1 : Nat) (1 : Nat) = some ⟨1900, 1, 1, by decide⟩ := by decide
  rw [moment?, read_seconds]
  simp only [Fields.moment?, first, Option.bind_eq_bind, Option.bind_some, time.ofParts?_eq]

theorem readCustomary_time : readCustomary time.text = some (time.on ⟨1900, 1, 1, by decide⟩) := by
  have noSlash : '/' ∉ time.text := time.marked_text.notMem (by decide) (by decide)
  have slashes {pattern : DatePattern} (asked : PatternItem.literal '/' ∈ pattern) :
      pattern.moment? time.text = none := moment?_of_notMem noSlash asked
  have first : PatternItem.literal '/' ∈ monthFirst := by simp [monthFirst, slashed]
  have yearFirst : PatternItem.literal '/' ∈ slashed .year .month .day := by simp [slashed]
  simp only [readCustomary, customary, List.findSome?_cons, slashes first, slashes (List.mem_append_left _ first),
    slashes yearFirst, moment?_seconds]

end DatePattern

/-! ## In ISO notation -/

namespace Iso

variable (time : TimeOfDay)

theorem readDigits_twoPlaces {number : Nat} (small : number < 100) (rest : Octets) :
    readDigits 2 0 (twoPlaces number ++ rest) = some (number, rest) := by
  rw [readDigits_text (fun _ => Value.isDigit_of_mem_twoPlaces) (Value.length_twoPlaces small),
    Value.digitsValue_twoPlaces]

theorem readClock_time : readClock 3 none [] time.text time.text.length =
    some (⟨time.hour, time.minute, time.second, 0⟩, false) := by
  have second := readDigits_twoPlaces time.second_small []
  rw [List.append_nil] at second
  rw [time.length_text, TimeOfDay.text]
  simp [readClock, readDigits_twoPlaces time.hour_small, readDigits_twoPlaces time.minute_small, second, charAt,
    Clock.ofList]

theorem readTime_time : readTime time.text = some (⟨time.hour, time.minute, time.second, 0⟩, none) := by
  have whole : time.text.takeWhile (!startsOffset ·) = time.text := by
    apply List.takeWhile_eq_self_iff.mpr
    intro char member
    have apart (mark : Char) (noDigit : mark.isDigit = false) (noColon : mark ∉ [':']) : char ≠ mark := by
      rintro rfl
      exact time.marked_text.notMem noDigit noColon member
    simp [startsOffset, apart '+' (by decide) (by decide), apart '-' (by decide) (by decide),
      apart 'Z' (by decide) (by decide)]
  have clock := readClock_time time
  unfold readTime
  split
  next empty =>
    have length := time.length_text
    rw [empty] at length
    cases length
  next =>
    simp only [whole, clock, List.drop_length]
    rfl

theorem read_time : read zone time.text = .ok none := by
  have short (rest : Octets) : readDigits 4 0 (twoPlaces time.hour ++ ':' :: rest) = none := by
    apply readDigits_of_short
    · rw [Value.length_twoPlaces time.hour_small]
      decide
    · exact fun _ => Value.isDigit_of_mem_twoPlaces
    · decide
  have noDate (length : Nat) : readDate length time.text = none := by
    simp [readDate, TimeOfDay.text, short]
  rw [read, time.marked_text.octets_eq (by decide)]
  simp only [noDate]
  split
  · rfl
  · split <;> rfl

end Iso

namespace Value

open Builtin (month_lt day_lt)

/-! ## Behind a date -/

theorem length_year (date : Date) : (Text.zeroFill 4 (Text.ofNat date.year)).length = 4 := by
  have last : date.year ≤ 9999 := date.isDate.year_le
  have four : (Text.ofNat date.year).length ≤ 4 :=
    (Nat.length_toDigits_le_iff (by decide) (by decide)).mpr (Nat.lt_of_le_of_lt last (by decide))
  rw [Text.length_zeroFill]
  omega

theorem isDigit_of_mem_year {date : Date} {char : Char} (member : char ∈ Text.zeroFill 4 (Text.ofNat date.year)) :
    char.isDigit = true :=
  Text.isDigit_of_mem_zeroFill (fun _ => Text.isDigit_of_mem_ofNat) member

theorem digitsValue_year (date : Date) : Text.digitsValue (Text.zeroFill 4 (Text.ofNat date.year)) = date.year := by
  rw [Text.digitsValue_zeroFill, Text.digitsValue_ofNat]

theorem dateText_append (date : Date) (rest : Text) : dateText date ++ rest = Text.zeroFill 4 (Text.ofNat date.year) ++
    '-' :: (twoPlaces date.month ++ '-' :: (twoPlaces date.day ++ rest)) := by
  simp [dateText]

theorem length_dateText (date : Date) : (dateText date).length = 10 := by
  simp [dateText, length_year, length_twoPlaces (month_lt date), length_twoPlaces (day_lt date)]

theorem clockText_on (time : TimeOfDay) (date : Date) : clockText (time.on date) = time.text := by
  simp [clockText, TimeOfDay.text, TimeOfDay.on, DateTime.ofDate]

variable (time : TimeOfDay) (date : Date)

theorem momentText_on : momentText 'T' (time.on date) = dateText date ++ 'T' :: time.text := by
  rw [momentText, clockText_on]
  rfl

theorem momentText_parts : momentText 'T' (time.on date) = Text.zeroFill 4 (Text.ofNat date.year) ++
    '-' :: (twoPlaces date.month ++ '-' :: (twoPlaces date.day ++ 'T' :: time.text)) := by
  rw [momentText_on]
  exact dateText_append date _

theorem marked_moment : Text.Marked ['-', 'T', ':'] (momentText 'T' (time.on date)) := by
  have year : Text.Marked ['-', 'T', ':'] (Text.zeroFill 4 (Text.ofNat date.year)) :=
    .of_digits fun _ => isDigit_of_mem_year
  have month : Text.Marked ['-', 'T', ':'] (twoPlaces date.month) := .of_digits fun _ => isDigit_of_mem_twoPlaces
  have day : Text.Marked ['-', 'T', ':'] (twoPlaces date.day) := .of_digits fun _ => isDigit_of_mem_twoPlaces
  have clock : Text.Marked ['-', 'T', ':'] time.text := time.marked_text.mono (by simp)
  rw [momentText_parts]
  exact year.append_mark (by simp) (month.append_mark (by simp) (day.append_mark (by simp) clock))

theorem read_moment : Iso.read zone (momentText 'T' (time.on date)) = .ok (some (time.on date)) := by
  have marked := marked_moment time date
  have written := momentText_parts time date
  have length : (momentText 'T' (time.on date)).length = 19 := by
    rw [momentText_on, List.length_append, List.length_cons, length_dateText, time.length_text]
  have dateLength := marked.dateLength_eq (by decide) written (length_year date) (by omega)
  have dated : Iso.readDate 10 (momentText 'T' (time.on date)) = some date := by
    rw [written]
    exact Builtin.readDate_append date (fun _ => isDigit_of_mem_year) (length_year date) (digitsValue_year date) _
  have behind : (momentText 'T' (time.on date)).drop 10 = 'T' :: time.text := by
    rw [momentText_on, List.drop_left' (length_dateText date)]
  have clock : (momentText 'T' (time.on date)).drop (10 + 1) = time.text := by
    rw [← List.drop_drop, behind]
    rfl
  have width : (Text.encodeChar 'T').length = 1 := by decide
  rw [Iso.read, marked.octets_eq (by decide)]
  simp [length, dateLength, dated, behind, width, clock, Iso.readTime_time, time.ofParts?_eq]

/-! ## Read as values -/

theorem readWhole_time : Number.readWhole time.text = .ok none := by
  have stripped : Text.strip time.text = twoPlaces time.hour ++ ':' :: _ := time.marked_text.strip_eq (by decide)
  refine Number.readWhole_of_mark stripped ?_ ?_ (by decide)
  · exact List.ne_nil_of_length_pos (by rw [length_twoPlaces time.hour_small]; decide)
  · exact fun char member => Text.isDigit_of_isDigit (isDigit_of_mem_twoPlaces member)

theorem toMoment_time : (text time.text).toMoment zone = .ok (some (time.on ⟨1900, 1, 1, by decide⟩)) := by
  change momentOfText zone time.text = _
  rw [time.marked_text.momentOfText_eq (by decide) (by decide) (readWhole_time time), Iso.read_time,
    DatePattern.readCustomary_time]
  rfl

theorem toMoment_momentText : (text (momentText 'T' (time.on date))).toMoment zone = .ok (some (time.on date)) := by
  have stripped : Text.strip (momentText 'T' (time.on date)) = Text.zeroFill 4 (Text.ofNat date.year) ++ '-' :: _ :=
    ((marked_moment time date).strip_eq (by decide)).trans (momentText_parts time date)
  have noNumber : Number.readWhole (momentText 'T' (time.on date)) = .ok none := by
    refine Number.readWhole_of_mark stripped ?_ ?_ (by decide)
    · exact List.ne_nil_of_length_pos (by rw [length_year]; decide)
    · exact fun char member => Text.isDigit_of_isDigit (isDigit_of_mem_year member)
  change momentOfText zone (momentText 'T' (time.on date)) = _
  rw [(marked_moment time date).momentOfText_eq (by decide) (by decide) noNumber, read_moment]
  rfl

end Value

end Worksheet
