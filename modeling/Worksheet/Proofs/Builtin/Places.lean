import Worksheet.Proofs.Builtin.Picture

/-! The places that a picture asks of an integer. The places behind the point and the commas are always those of the
picture. The zeros that it asks for before the point are there unless it asks for commas too: writing the number in
groups drops them. -/

namespace Worksheet

variable {zone : Zone}

namespace Builtin

open NumberPicture (Grouped Writes filter_group filter_of_notMem group grouped_group isPlace isWholePart ofPlaces padded withPoint)

def integerPart (text : Text) : Text :=
  (text.dropWhile (· == '-')).takeWhile (· != '.')

def fractionPart (text : Text) : Text :=
  (text.dropWhile (· != '.')).drop 1

/-- Behind the point there are zeros, as many as the picture asks for at least and as it allows at most, and there are
commas before the point if the picture has one. -/
structure Fits (whole places text : Text) : Prop where
  zeros : ∀ char ∈ fractionPart text, char = '0'
  least : places.count '0' ≤ (fractionPart text).length
  most : (fractionPart text).length ≤ places.length
  grouped : ',' ∈ whole → Grouped (integerPart text)
  plain : ',' ∉ whole → ',' ∉ integerPart text

section Parts

variable {magnitude : Nat} {integer : Text} (writes : Writes magnitude integer) (sign : Prop) [Decidable sign]
  (fraction : Text)

include writes

theorem notMem_of_writes {char : Char} (other : Text.isDigit char = false) (noComma : char ≠ ',') : char ∉ integer := by
  intro member
  have digit := writes.allDigits char (List.mem_filter.mpr ⟨member, bne_iff_ne.mpr noComma⟩)
  rw [other] at digit
  cases digit

theorem bne_point_of_writes : ∀ char ∈ integer, (char != '.') = true := by
  intro char member
  rw [bne_iff_ne]
  rintro rfl
  exact notMem_of_writes writes (by decide) (by decide) member

theorem integerPart_signed : integerPart ((if sign then ['-'] else []) ++ withPoint integer fraction) = integer := by
  have unsigned : ((if sign then ['-'] else []) ++ withPoint integer fraction).dropWhile (· == '-') =
      withPoint integer fraction := by
    have some : integer ≠ [] := by
      rintro rfl
      exact writes.nonempty rfl
    obtain ⟨first, later, rfl⟩ := List.exists_cons_of_ne_nil some
    have noSign : first ≠ '-' := by
      rintro rfl
      exact notMem_of_writes writes (by decide) (by decide) List.mem_cons_self
    split <;> simp [withPoint, noSign]
  have point : ((if fraction.isEmpty then [] else '.' :: fraction).takeWhile (· != '.')) = [] := by
    cases fraction <;> rfl
  rw [integerPart, unsigned, withPoint, List.takeWhile_append_of_pos (bne_point_of_writes writes), point, List.append_nil]

theorem fractionPart_signed : fractionPart ((if sign then ['-'] else []) ++ withPoint integer fraction) = fraction := by
  have noPoint : ∀ char ∈ (if sign then ['-'] else []) ++ integer, (char != '.') = true := by
    intro char member
    rcases List.mem_append.mp member with front | own
    · split at front
      · rw [List.mem_singleton.mp front]
        rfl
      · cases front
    · exact bne_point_of_writes writes char own
  rw [fractionPart, withPoint, ← List.append_assoc, List.dropWhile_append_of_pos noPoint]
  cases fraction <;> rfl

end Parts

variable {number : Int} {whole places : Text}

theorem fits_signed {integer : Text} (writes : Writes number.natAbs integer) (grouped : ',' ∈ whole → Grouped integer)
    (plain : ',' ∉ whole → ',' ∉ integer) :
    Fits whole places
      ((if number < 0 then ['-'] else []) ++ withPoint integer (List.replicate (places.count '0') '0')) := by
  have before := integerPart_signed writes (number < 0) (List.replicate (places.count '0') '0')
  have behind := fractionPart_signed writes (number < 0) (List.replicate (places.count '0') '0')
  constructor
  · rw [behind]
    exact fun _ member => List.eq_of_mem_replicate member
  · rw [behind, List.length_replicate]
  · rw [behind, List.length_replicate]
    exact List.count_le_length
  · rwa [before]
  · rwa [before]

/-- The digits that a picture shows of an integer: with a comma those of the number alone. -/
def shownDigits (whole : Text) (magnitude : Nat) : Text :=
  if ',' ∈ whole then Text.ofNat magnitude else padded (ofPlaces whole []) magnitude

theorem count_le_length_shownDigits {magnitude : Nat} :
    whole.count '0' ≤ (shownDigits whole magnitude).length ↔ (',' ∈ whole → whole.count '0' ≤ (Text.ofNat magnitude).length) := by
  rw [shownDigits]
  split
  next comma => exact ⟨fun enough _ => enough, fun enough => enough comma⟩
  next noComma =>
    refine iff_of_true ?_ fun comma => absurd comma noComma
    rw [padded, Text.length_zeroFill]
    exact Nat.le_max_left _ _

theorem writeWhole_shown {magnitude : Nat} (asked : '0' ∈ whole) (short : Text.Short magnitude) :
    (∃ integer, (ofPlaces whole places).writeWhole (Text.ofNat magnitude) = .ok integer ∧ Writes magnitude integer ∧
      (',' ∈ whole → Grouped integer) ∧ (',' ∉ whole → ',' ∉ integer) ∧
      integer.filter (· != ',') = shownDigits whole magnitude ∧ (',' ∈ whole → whole.count '0' ≤ Text.digitLimit)) ∨
    (ofPlaces whole places).writeWhole (Text.ofNat magnitude) = .error .unreadable ∧ ',' ∈ whole ∧
      Text.digitLimit < whole.count '0' := by
  have zeros : '0' ∈ (ofPlaces whole places).whole := asked
  by_cases comma : ',' ∈ (ofPlaces whole places).whole
  · have written := NumberPicture.writeWhole_of_comma zeros short comma
    by_cases many : Text.digitLimit < (ofPlaces whole places).whole.count '0'
    · exact Or.inr ⟨written.trans (if_pos many), comma, many⟩
    · have digits := Text.digits_ofNat magnitude
      have shown : (group (Text.ofNat magnitude)).filter (· != ',') = shownDigits whole magnitude :=
        (filter_group (NumberPicture.comma_notMem digits)).trans (if_pos comma).symm
      exact Or.inl ⟨_, written.trans (if_neg many), NumberPicture.writes_group magnitude,
        fun _ => grouped_group (Text.ofNat_ne_nil _) digits, absurd comma, shown, fun _ => Nat.le_of_not_lt many⟩
  · have noComma := NumberPicture.comma_notMem (NumberPicture.digits_padded (ofPlaces whole places) magnitude)
    have shown : (padded (ofPlaces whole places) magnitude).filter (· != ',') = shownDigits whole magnitude :=
      (filter_of_notMem noComma).trans (if_neg comma).symm
    exact Or.inl ⟨_, NumberPicture.writeWhole_of_noComma comma, NumberPicture.writes_padded zeros,
      fun given => absurd given comma, fun _ => noComma, shown, fun given => absurd given comma⟩

theorem short_of_small (small : number.natAbs < 10 ^ 20) : Text.Short number.natAbs :=
  Text.short_of_lt (Nat.lt_of_lt_of_le small (Nat.pow_le_pow_right (by decide) (by decide)))

section Format

variable (small : number.natAbs < 10 ^ 20) (wholeParts : ∀ char ∈ whole, isWholePart char = true) (asked : '0' ∈ whole)
  (placeParts : ∀ char ∈ places, isPlace char = true) (few : places.length ≤ 8)

include small wholeParts asked placeParts few

theorem format_cases :
    (∃ text, format zone [.integer number, .text (withPoint whole places)] = .ok (.text text) ∧ Fits whole places text ∧
      Writes number.natAbs (integerPart text) ∧ (integerPart text).filter (· != ',') = shownDigits whole number.natAbs ∧
      (',' ∈ whole → whole.count '0' ≤ Text.digitLimit)) ∨
    format zone [.integer number, .text (withPoint whole places)] = .error .unreadable ∧ ',' ∈ whole ∧
      Text.digitLimit < whole.count '0' := by
  have exact : number.natAbs * 10 ^ places.length < 10 ^ NumberPicture.precision := by
    have scale : 10 ^ places.length ≤ 10 ^ 8 := Nat.pow_le_pow_right (by decide) few
    calc number.natAbs * 10 ^ places.length ≤ number.natAbs * 10 ^ 8 := Nat.mul_le_mul_left _ scale
      _ < 10 ^ 20 * 10 ^ 8 := Nat.mul_lt_mul_of_pos_right small (by decide)
      _ = 10 ^ NumberPicture.precision := rfl
  have read : format zone _ = _ := format_integer exact wholeParts asked placeParts
  rcases writeWhole_shown asked (short_of_small small) with
    ⟨integer, written, writes, grouped, plain, shown, readable⟩ | ⟨fails, comma, many⟩
  · rw [written] at read
    have own := integerPart_signed writes (number < 0) (List.replicate (places.count '0') '0')
    exact Or.inl ⟨_, read, fits_signed writes grouped plain, own.symm ▸ writes, own.symm ▸ shown, readable⟩
  · rw [fails] at read
    exact Or.inr ⟨read, comma, many⟩

/-- Under a picture of zeros, `#` and commas an integer has the digits of its own, the places behind the point that
are asked for and commas between every three digits if one is asked for. It also has as many digits as there are zeros
before the point, unless there is a comma and the number is shorter. Only zeros that are too many to be read, with a
comma, are refused. -/
theorem integers_under_places :
    ((∃ text, format zone [.integer number, .text (withPoint whole places)] = .ok (.text text) ∧ Fits whole places text ∧
        whole.count '0' ≤ ((integerPart text).filter (· != ',')).length) ↔
      (',' ∈ whole → whole.count '0' ≤ (Text.ofNat number.natAbs).length)) ∧
    (∀ text, format zone [.integer number, .text (withPoint whole places)] = .ok (.text text) →
      Fits whole places text ∧ Writes number.natAbs (integerPart text)) ∧
    ((∃ text, format zone [.integer number, .text (withPoint whole places)] = .ok (.text text)) ↔
      (',' ∈ whole → whole.count '0' ≤ Text.digitLimit)) := by
  rcases @format_cases zone _ _ _ small wholeParts asked placeParts few with
    ⟨text, formatted, fits, writes, digits, readable⟩ | ⟨fails, comma, many⟩
  · refine ⟨?_, ?_, iff_of_true ⟨text, formatted⟩ readable⟩
    · rw [← count_le_length_shownDigits, ← digits]
      constructor
      · rintro ⟨other, same, -, enough⟩
        cases Except.ok.inj (formatted.symm.trans same)
        exact enough
      · exact fun enough => ⟨text, formatted, fits, enough⟩
    · intro other same
      cases Except.ok.inj (formatted.symm.trans same)
      exact ⟨fits, writes⟩
  · rw [fails]
    refine ⟨iff_of_false (fun ⟨_, other, _⟩ => nomatch other) fun enough => ?_, nofun,
      iff_of_false (fun ⟨_, other⟩ => nomatch other) fun readable => Nat.not_lt.mpr (readable comma) many⟩
    exact Nat.not_lt.mpr ((enough comma).trans (short_of_small small)) many

end Format

theorem negative_millions_with_places :
    ((-1234567 : Int).natAbs < 10 ^ 20 ∧ (∀ char ∈ "#,000".toList, isWholePart char = true) ∧ '0' ∈ "#,000".toList ∧
      (∀ char ∈ "00##".toList, isPlace char = true) ∧ "00##".toList.length ≤ 8) ∧
    ∃ text, format .utc [.integer (-1234567), .text (withPoint "#,000".toList "00##".toList)] = .ok (.text text) ∧
      Fits "#,000".toList "00##".toList text ∧ 3 ≤ ((integerPart text).filter (· != ',')).length := by
  have small : (-1234567 : Int).natAbs < 10 ^ 20 := by decide
  have wholeParts : ∀ char ∈ "#,000".toList, isWholePart char = true := List.all_eq_true.mp rfl
  have asked : '0' ∈ "#,000".toList := by decide
  have placeParts : ∀ char ∈ "00##".toList, isPlace char = true := List.all_eq_true.mp rfl
  have few : "00##".toList.length ≤ 8 := by decide
  exact ⟨⟨small, wholeParts, asked, placeParts, few⟩,
    (integers_under_places small wholeParts asked placeParts few).1.mpr fun _ => by decide⟩

theorem grouping_drops_zeros :
    (5 : Int).natAbs < 10 ^ 20 ∧ (∀ char ∈ "0,000".toList, isWholePart char = true) ∧ '0' ∈ "0,000".toList ∧
      format .utc [.integer 5, .text (withPoint "0,000".toList [])] = .ok (.text "5".toList) ∧
      (integerPart "5".toList).filter (· != ',') = "5".toList ∧ "0,000".toList.count '0' = 4 :=
  ⟨by decide, List.all_eq_true.mp rfl, by decide, rfl, by decide, by decide⟩

end Builtin

end Worksheet
