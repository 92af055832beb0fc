import Worksheet.Builtin.Text
import Worksheet.Proofs.Builtin.Calendar
import Worksheet.Proofs.Calendar.Picture
import Worksheet.Proofs.Number.Picture

/-! Values under pictures. A moment under the picture of ISO notation is read back as the moment, less its fraction of
a second, and an integer under a picture of places only as the integer, as long as the picture asks for no more digits
than a number can have. -/

namespace Worksheet

variable {zone : Zone}

namespace Builtin

/-- Four digits of the year and two of each other part down to the second. -/
def WritesMoment (moment : DateTime) (text : Text) : Prop :=
  ∃ year month day hour minute second,
    text = year ++ '-' :: (month ++ '-' :: (day ++ 'T' :: (hour ++ ':' :: (minute ++ ':' :: second)))) ∧
      WritesIn 4 moment.date.year year ∧ WritesIn 2 moment.date.month month ∧ WritesIn 2 moment.date.day day ∧
      WritesIn 2 moment.hour hour ∧ WritesIn 2 moment.minute minute ∧ WritesIn 2 moment.second second

theorem writesMoment_momentText (moment : DateTime) :
    WritesMoment moment (Value.momentText 'T' moment.wholeSecond) := by
  refine ⟨_, _, _, _, _, _, Value.momentText_parts moment.time moment.date, ?_, writesIn_twoPlaces (month_lt moment.date),
    writesIn_twoPlaces (day_lt moment.date), writesIn_twoPlaces moment.time.hour_small,
    writesIn_twoPlaces moment.time.minute_small, writesIn_twoPlaces moment.time.second_small⟩
  exact ⟨Value.length_year moment.date, fun _ => Value.isDigit_of_mem_year, Value.digitsValue_year moment.date⟩

section Format

variable {value : Value} {picture : Text}

theorem format_of_places (places : isNumberPicture picture = true) :
    format zone [value, .text picture] = formatNumber value picture :=
  if_pos places

theorem format_of_parts (noPlaces : isNumberPicture picture = false)
    (parts : (DatePicture.ofText picture).any DatePicture.isPart = true) :
    format zone [value, .text picture] = formatMoment zone value picture :=
  (if_neg (ne_true_of_eq_false noPlaces)).trans (if_pos parts)

end Format

theorem format_iso {value : Value} {moment : DateTime} (read : value.toMoment zone = .ok (some moment)) :
    format zone [value, .text DatePicture.iso] = .ok (.text (Value.momentText 'T' moment.wholeSecond)) := by
  rw [format_of_parts (by decide) rfl, formatMoment, read]
  change (do return Value.text (← DatePicture.write DatePicture.iso moment)) = _
  rw [DatePicture.write_iso]
  rfl

/-- What denotes a moment is written under this picture with all its parts, and read back without the fraction. -/
theorem formatted_moments_read_back {value : Value} {moment : DateTime} (read : value.toMoment zone = .ok (some moment)) :
    ∃ text, format zone [value, .text DatePicture.iso] = .ok (.text text) ∧ WritesMoment moment text ∧
      (Value.text text).toMoment zone = .ok (some moment.wholeSecond) :=
  ⟨_, format_iso read, writesMoment_momentText moment, Value.toMoment_momentText moment.time moment.date⟩

def lastOfMillennium : DateTime :=
  ⟨⟨999, 12, 31, by decide⟩, 23, 59, 58, 500000, by decide, by decide, by decide, by decide⟩

theorem last_half_second_reads_back :
    (Value.text "0999-12-31T23:59:58.5".toList).toMoment .utc = .ok (some lastOfMillennium) ∧
      ∃ text, format .utc [.text "0999-12-31T23:59:58.5".toList, .text DatePicture.iso] = .ok (.text text) ∧
        WritesMoment lastOfMillennium text ∧ (Value.text text).toMoment .utc = .ok (some lastOfMillennium.wholeSecond) := by
  have read : (Value.text "0999-12-31T23:59:58.5".toList).toMoment .utc = .ok (some lastOfMillennium) := rfl
  exact ⟨read, formatted_moments_read_back read⟩

open NumberPicture (Writes isPlace isWholePart ofPlaces withPoint)

theorem numberOfText_of_isWhole {text digits : Text} {negative : Bool}
    (isWhole : Literal.IsWhole digits negative (text.filter (· != ','))) :
    numberOfText [.text text] = if Text.digitLimit < digits.length then .error .unreadable
      else .ok (.integer (Number.wholeValue negative digits)) := by
  have chars := isWhole.signOrDigit
  have visible : ∀ char ∈ text, Text.isBlank char = false := by
    intro char member
    by_cases comma : char = ','
    · rw [comma]
      decide
    · rcases chars char (List.mem_filter.mpr ⟨member, bne_iff_ne.mpr comma⟩) with rfl | rfl | digit
      · decide
      · decide
      · exact Text.not_isBlank_of_isDigit digit
  have stripped : Text.strip (text.filter (· != ',')) = text.filter (· != ',') :=
    Text.strip_eq_self_of_visible fun char member => visible char (List.mem_of_mem_filter member)
  have noPercent : ¬(text.filter (· != ',')).getLast? = some '%' := by
    intro last
    rcases chars '%' (List.mem_of_getLast? last) with sign | sign | digit
    · cases sign
    · cases sign
    · exact absurd digit (by decide)
  have read : Number.readWhole (text.filter (· != ',')) = _ := Number.readWhole_of_isWhole (stripped.symm ▸ isWhole)
  change (Number.readWhole _ >>= _) = _
  rw [Text.strip_eq_self_of_visible visible, if_neg noPercent, read]
  split
  · rfl
  · rfl

theorem numberOfText_of_writes {number : Int} {text : Text} (writes : Writes number.natAbs text) :
    numberOfText [.text ((if number < 0 then ['-'] else []) ++ text)] =
      if Text.digitLimit < (text.filter (· != ',')).length then .error .unreadable else .ok (.integer number) := by
  have nonempty := writes.nonempty
  by_cases negative : number < 0
  · have isWhole : Literal.IsWhole (text.filter (· != ',')) true (('-' :: text).filter (· != ',')) :=
      .minus writes.nonempty writes.allDigits
    have value : Number.wholeValue true (text.filter (· != ',')) = number := by
      simp only [Number.wholeValue, writes.value, if_true]
      omega
    rw [if_pos negative, List.singleton_append, numberOfText_of_isWhole isWhole, value]
  · have isWhole : Literal.IsWhole (text.filter (· != ',')) false (text.filter (· != ',')) :=
      .unsigned writes.nonempty writes.allDigits
    have value : Number.wholeValue false (text.filter (· != ',')) = number := by
      simp only [Number.wholeValue, writes.value, Bool.false_eq_true, if_false]
      omega
    rw [if_neg negative, List.nil_append, numberOfText_of_isWhole isWhole, value]

section Places

variable {number : Int} {whole places : Text}

theorem format_integer (small : number.natAbs * 10 ^ places.length < 10 ^ NumberPicture.precision)
    (wholeParts : ∀ char ∈ whole, isWholePart char = true) (asked : '0' ∈ whole)
    (placeParts : ∀ char ∈ places, isPlace char = true) :
    format zone [.integer number, .text (withPoint whole places)] = do
      return .text ((if number < 0 then ['-'] else []) ++
        withPoint (← (ofPlaces whole places).writeWhole (Text.ofNat number.natAbs))
          (List.replicate (places.count '0') '0')) := by
  have numbers : isNumberPicture (withPoint whole places) = true :=
    List.any_eq_true.mpr ⟨'0', List.mem_append_left _ asked, rfl⟩
  rw [format_of_places numbers]
  change (do return Value.text (← (NumberPicture.ofText (withPoint whole places)).write (.integer number))) = _
  rw [NumberPicture.ofText_withPoint wholeParts placeParts (List.ne_nil_of_mem asked), NumberPicture.write_integer small]
  cases (ofPlaces whole places).writeWhole (Text.ofNat number.natAbs) with
  | error failure => rfl
  | ok written => rfl

end Places

variable {number : Int} {picture : Text}

theorem read_back_cases (small : number.natAbs < 10 ^ NumberPicture.precision)
    (places : ∀ char ∈ picture, isWholePart char = true) (asked : '0' ∈ picture) :
    (∃ text, format zone [.integer number, .text picture] = .ok (.text text) ∧
      (picture.count '0' ≤ Text.digitLimit ∧ numberOfText [.text text] = .ok (.integer number) ∨
        Text.digitLimit < picture.count '0' ∧ ',' ∉ picture ∧ numberOfText [.text text] = .error .unreadable)) ∨
    Text.digitLimit < picture.count '0' ∧ ',' ∈ picture ∧
      format zone [.integer number, .text picture] = .error .unreadable := by
  have short : Text.Short number.natAbs :=
    Text.short_of_lt (Nat.lt_of_lt_of_le small (Nat.pow_le_pow_right (by decide) (by decide)))
  have exact : number.natAbs * 10 ^ ([] : Text).length < 10 ^ NumberPicture.precision := by simpa using small
  have written : format zone _ = _ := format_integer exact places asked (List.forall_mem_nil _)
  simp only [NumberPicture.withPoint_nil, List.count_nil, List.replicate_zero] at written
  have zeros : '0' ∈ (ofPlaces picture []).whole := asked
  rcases NumberPicture.writeWhole_cases zeros short with ⟨text, whole, writes, within, ungrouped⟩ | ⟨fails, many, comma⟩
  · rw [whole] at written
    refine Or.inl ⟨(if number < 0 then ['-'] else []) ++ text, written, ?_⟩
    rw [numberOfText_of_writes writes]
    by_cases few : picture.count '0' ≤ Text.digitLimit
    · exact Or.inl ⟨few, if_neg (Nat.not_lt.mpr (within.mpr few))⟩
    · have many := Nat.lt_of_not_le few
      exact Or.inr ⟨many, ungrouped many, if_pos (Nat.lt_of_not_le fun readable => few (within.mp readable))⟩
  · rw [fails] at written
    exact Or.inr ⟨many, comma, written⟩

/-- Zeros filled in, groups and the sign never change an integer. If the picture asks for more digits than can be read,
grouping them fails, and without groups the text is written but not read. -/
theorem formatted_integers_read_back (small : number.natAbs < 10 ^ 28) (places : ∀ char ∈ picture, isWholePart char = true)
    (asked : '0' ∈ picture) :
    (picture.count '0' ≤ Text.digitLimit → ∃ text, format zone [.integer number, .text picture] = .ok (.text text) ∧
      numberOfText [.text text] = .ok (.integer number)) ∧
    (Text.digitLimit < picture.count '0' →
      (',' ∈ picture → format zone [.integer number, .text picture] = .error .unreadable) ∧
      (',' ∉ picture → ∃ text, format zone [.integer number, .text picture] = .ok (.text text) ∧
        numberOfText [.text text] = .error .unreadable)) := by
  rcases @read_back_cases zone _ _ small places asked with
    ⟨text, written, ⟨few, read⟩ | ⟨many, noComma, unread⟩⟩ | ⟨many, comma, fails⟩
  · exact ⟨fun _ => ⟨text, written, read⟩, fun many => absurd few (Nat.not_le.mpr many)⟩
  · exact ⟨fun few => absurd few (Nat.not_le.mpr many),
      fun _ => ⟨fun comma => absurd comma noComma, fun _ => ⟨text, written, unread⟩⟩⟩
  · exact ⟨fun few => absurd few (Nat.not_le.mpr many), fun _ => ⟨fun _ => fails, fun noComma => absurd comma noComma⟩⟩

theorem negative_millions_read_back :
    ((-1234567 : Int).natAbs < 10 ^ 28 ∧ (∀ char ∈ "#,000,000,000".toList, isWholePart char = true) ∧
      '0' ∈ "#,000,000,000".toList ∧ "#,000,000,000".toList.count '0' ≤ Text.digitLimit) ∧
    ∃ text, format .utc [.integer (-1234567), .text "#,000,000,000".toList] = .ok (.text text) ∧
      numberOfText [.text text] = .ok (.integer (-1234567)) := by
  have small : (-1234567 : Int).natAbs < 10 ^ 28 := by decide
  have places : ∀ char ∈ "#,000,000,000".toList, isWholePart char = true := List.all_eq_true.mp rfl
  have asked : '0' ∈ "#,000,000,000".toList := by decide
  have few : "#,000,000,000".toList.count '0' ≤ Text.digitLimit := by decide
  exact ⟨⟨small, places, asked, few⟩, (@formatted_integers_read_back .utc _ _ small places asked).1 few⟩

theorem many_zeros_are_not_read_back :
    (5 : Int).natAbs < 10 ^ 28 ∧ (∀ char ∈ List.replicate 4301 '0', isWholePart char = true) ∧
      '0' ∈ List.replicate 4301 '0' ∧
      (format .utc [.integer 5, .text (List.replicate 4301 '0')] >>= fun text => numberOfText [text]) ≠
        .ok (.integer 5) := by
  have small : (5 : Int).natAbs < 10 ^ 28 := by decide
  have places : ∀ char ∈ List.replicate 4301 '0', isWholePart char = true := by
    intro char member
    rw [List.eq_of_mem_replicate member]
    rfl
  have asked : '0' ∈ List.replicate 4301 '0' := List.mem_replicate.mpr ⟨by decide, rfl⟩
  refine ⟨small, places, asked, ?_⟩
  rcases @read_back_cases .utc _ _ small places asked with ⟨text, written, ⟨few, _⟩ | ⟨_, _, unread⟩⟩ | ⟨_, _, fails⟩
  · rw [List.count_replicate_self] at few
    exact absurd few (by decide)
  · rw [written]
    change numberOfText [.text text] ≠ _
    rw [unread]
    exact nofun
  · rw [fails]
    exact nofun

end Builtin

end Worksheet
