import Worksheet.Number.Picture
import Worksheet.Proofs.Number.Range
import Worksheet.Proofs.Number.Whole

/-! Integers under pictures of places only. The zeros that are filled in in front and the commas between the digits
leave the number as it is: without its commas the text is the digits of the number behind its sign. -/

namespace Worksheet

namespace NumberPicture

/-! ## Grouping -/

section Comma

variable {text : Text} (noComma : ',' ∉ text)

include noComma

theorem bne_comma_of_mem {char : Char} (member : char ∈ text) : (char != ',') = true := by
  rw [bne_iff_ne]
  rintro rfl
  exact noComma member

theorem filter_of_notMem : text.filter (· != ',') = text :=
  List.filter_eq_self.mpr fun _ => bne_comma_of_mem noComma

theorem filter_groupReversed : (groupReversed text).filter (· != ',') = text := by
  fun_induction groupReversed text with
  | case1 first second third fourth rest ih =>
    have later : ',' ∉ fourth :: rest := by
      simp only [List.mem_cons, not_or] at noComma ⊢
      exact noComma.2.2.2
    have apart {char : Char} (member : char ∈ first :: second :: third :: fourth :: rest) : (char != ',') = true :=
      bne_comma_of_mem noComma member
    simp [apart, ih later]
  | case2 digits => exact filter_of_notMem noComma

theorem filter_group : (group text).filter (· != ',') = text := by
  rw [group, List.filter_reverse, filter_groupReversed (by simpa using noComma), List.reverse_reverse]

end Comma

/-- Digits in groups of three, counted from the right and parted by commas. -/
inductive Grouped : Text → Prop
  | leading {digits : Text} (some : digits ≠ []) (few : digits.length ≤ 3)
    (allDigits : ∀ char ∈ digits, Text.isDigit char = true) : Grouped digits
  | another {text digits : Text} (grouped : Grouped text) (three : digits.length = 3)
    (allDigits : ∀ char ∈ digits, Text.isDigit char = true) : Grouped (text ++ ',' :: digits)

theorem grouped_groupReversed {reversed : Text} (some : reversed ≠ [])
    (allDigits : ∀ char ∈ reversed, Text.isDigit char = true) : Grouped (groupReversed reversed).reverse := by
  fun_induction groupReversed reversed with
  | case1 first second third fourth rest ih =>
    have later := ih (List.cons_ne_nil _ _) fun char member => allDigits char (by simp at member ⊢; tauto)
    have three : ∀ char ∈ [third, second, first], Text.isDigit char = true :=
      fun char member => allDigits char (by simp at member ⊢; tauto)
    simpa using later.another rfl three
  | case2 digits short =>
    refine .leading (by simpa using some) ?_ (by simpa using allDigits)
    match digits, short with
    | [], _ | [_], _ | [_, _], _ | [_, _, _], _ => simp
    | first :: second :: third :: fourth :: rest, short => exact absurd rfl (short first second third fourth rest)

theorem grouped_group {digits : Text} (some : digits ≠ []) (allDigits : ∀ char ∈ digits, Text.isDigit char = true) :
    Grouped (group digits) :=
  grouped_groupReversed (by simpa using some) (by simpa using allDigits)

theorem comma_notMem {digits : Text} (allDigits : ∀ char ∈ digits, Text.isDigit char = true) : ',' ∉ digits :=
  Text.notMem_of_digits allDigits (by decide)

/-! ## The integer part -/

def padded (picture : NumberPicture) (number : Nat) : Text :=
  Text.zeroFill (picture.whole.count '0') ((Text.ofNat number).dropWhile (· == '0'))

/-- Without its commas the text is digits of the number. -/
structure Writes (number : Nat) (text : Text) : Prop where
  nonempty : text.filter (· != ',') ≠ []
  allDigits : ∀ char ∈ text.filter (· != ','), Text.isDigit char = true
  value : Text.digitsValue (text.filter (· != ',')) = number

theorem writes_of_filter {number : Nat} {text digits : Text} (same : text.filter (· != ',') = digits)
    (nonempty : digits ≠ []) (allDigits : ∀ char ∈ digits, Text.isDigit char = true)
    (value : Text.digitsValue digits = number) : Writes number text := by
  subst same
  exact ⟨nonempty, allDigits, value⟩

section Whole

variable (picture : NumberPicture) (number : Nat)

theorem digits_padded : ∀ char ∈ picture.padded number, Text.isDigit char = true := by
  intro char member
  apply Text.isDigit_of_isDigit
  apply Text.isDigit_of_mem_zeroFill _ member
  intro digit later
  exact Text.isDigit_of_mem_ofNat ((List.dropWhile_sublist _).subset later)

theorem digitsValue_padded : Text.digitsValue (picture.padded number) = number := by
  rw [padded, Text.digitsValue_zeroFill, Text.digitsValue_dropWhile_zero, Text.digitsValue_ofNat]

variable {picture number}

theorem padded_ne_nil (asked : '0' ∈ picture.whole) : picture.padded number ≠ [] := by
  have positive := List.count_pos_iff.mpr asked
  apply List.ne_nil_of_length_pos
  rw [padded, Text.length_zeroFill]
  omega

theorem length_padded_le_iff (short : Text.Short number) :
    (picture.padded number).length ≤ Text.digitLimit ↔ picture.whole.count '0' ≤ Text.digitLimit := by
  have fewer : ((Text.ofNat number).dropWhile (· == '0')).length ≤ (Text.ofNat number).length :=
    (List.dropWhile_sublist _).length_le
  rw [Text.Short] at short
  rw [padded, Text.length_zeroFill]
  omega

theorem writes_padded (asked : '0' ∈ picture.whole) : Writes number (picture.padded number) := by
  have allDigits := digits_padded picture number
  exact writes_of_filter (filter_of_notMem (comma_notMem allDigits)) (padded_ne_nil asked) allDigits
    (digitsValue_padded picture number)

theorem writes_group (number : Nat) : Writes number (group (Text.ofNat number)) := by
  have allDigits := Text.digits_ofNat number
  exact writes_of_filter (filter_group (comma_notMem allDigits)) (Text.ofNat_ne_nil number) allDigits
    (Text.digitsValue_ofNat number)

theorem writeWhole_of_noComma (noComma : ',' ∉ picture.whole) :
    picture.writeWhole (Text.ofNat number) = .ok (picture.padded number) := by
  apply if_neg
  simp [noComma]

theorem writeWhole_of_comma (asked : '0' ∈ picture.whole) (short : Text.Short number) (comma : ',' ∈ picture.whole) :
    picture.writeWhole (Text.ofNat number) =
      if Text.digitLimit < picture.whole.count '0' then .error .unreadable else .ok (group (Text.ofNat number)) := by
  have within : (picture.padded number).length ≤ Text.digitLimit ↔ _ := length_padded_le_iff short
  have grouped : picture.whole.contains ',' = true ∧ ¬(picture.padded number).isEmpty = true := by
    simp [comma, padded_ne_nil asked]
  have regrouped : picture.writeWhole (Text.ofNat number) = (do
      let number ← Text.readNat (picture.padded number)
      return group (Text.ofNat number)) := if_pos grouped
  rw [regrouped, Text.readNat, digitsValue_padded]
  simp only [← Nat.not_le, within]
  split
  · rfl
  · rfl

theorem writeWhole_cases (asked : '0' ∈ picture.whole) (short : Text.Short number) :
    (∃ text, picture.writeWhole (Text.ofNat number) = .ok text ∧ Writes number text ∧
      ((text.filter (· != ',')).length ≤ Text.digitLimit ↔ picture.whole.count '0' ≤ Text.digitLimit) ∧
      (Text.digitLimit < picture.whole.count '0' → ',' ∉ picture.whole)) ∨
    picture.writeWhole (Text.ofNat number) = .error .unreadable ∧ Text.digitLimit < picture.whole.count '0' ∧
      ',' ∈ picture.whole := by
  by_cases comma : ',' ∈ picture.whole
  · rw [writeWhole_of_comma asked short comma]
    by_cases many : Text.digitLimit < picture.whole.count '0'
    · exact Or.inr ⟨if_pos many, many, comma⟩
    · refine Or.inl ⟨group (Text.ofNat number), if_neg many, writes_group number, ?_, fun more => absurd more many⟩
      rw [filter_group (comma_notMem (Text.digits_ofNat number))]
      exact iff_of_true short (Nat.le_of_not_lt many)
  · refine Or.inl ⟨picture.padded number, writeWhole_of_noComma comma, writes_padded asked, ?_, fun _ => comma⟩
    rw [filter_of_notMem (comma_notMem (digits_padded picture number))]
    exact length_padded_le_iff short

end Whole

/-! ## Pictures of places only -/

theorem roundHalfUp_one (number : Nat) : roundHalfUp number 1 = number := by
  rw [roundHalfUp]
  omega

theorem units_integer {picture : NumberPicture} {number : Nat} (noPercent : picture.percent = false)
    (small : number * 10 ^ picture.places.length < 10 ^ precision) :
    picture.units ⟨number, 0⟩ = .ok (number * 10 ^ picture.places.length) := by
  rcases Nat.eq_zero_or_pos number with rfl | positive
  · simp [units]
  · have few : (Text.ofNat (number * 10 ^ picture.places.length)).length ≤ precision :=
      (Nat.length_toDigits_le_iff (by decide) (by decide)).mpr small
    have top : (Text.ofNat number).length + picture.places.length ≤ precision := by
      have least := Nat.mul_le_mul_right (10 ^ picture.places.length) (Text.pow_length_ofNat positive).1
      rw [← Nat.pow_add] at least
      have digits := (Nat.pow_lt_pow_iff_right (show 1 < 10 by decide)).mp (Nat.lt_of_le_of_lt least small)
      omega
    have nonzero : ¬(number = 0 ∨ ((Text.ofNat number).length : Int) + picture.places.length < -1) := by omega
    have within : ¬((Text.ofNat number).length : Int) + picture.places.length > precision + 1 := by omega
    simp [units, noPercent, roundHalfUp_one, nonzero, within, few]

theorem precision_lt_bound : 10 ^ precision < Double.bound := by
  have below (exponent : Nat) (large : 100 ≤ exponent) : 10 ^ precision < (2 ^ 54 - 1) * 2 ^ exponent := by
    have small : 10 ^ precision < 2 ^ 100 := by decide
    have more : 2 ^ 100 ≤ 2 ^ exponent := Nat.pow_le_pow_right (by decide) large
    have most : 2 ^ exponent ≤ (2 ^ 54 - 1) * 2 ^ exponent := Nat.le_mul_of_pos_left _ (by decide)
    exact Nat.lt_of_lt_of_le small (Nat.le_trans more most)
  exact below 970 (by decide)

def ofPlaces (whole places : Text) : NumberPicture :=
  ⟨[], whole, places, false, []⟩

def withPoint (whole places : Text) : Text :=
  whole ++ if places.isEmpty then [] else '.' :: places

@[simp] theorem withPoint_nil (whole : Text) : withPoint whole [] = whole :=
  List.append_nil whole

section Places

variable {whole places : Text} (wholeParts : ∀ char ∈ whole, isWholePart char = true)
  (placeParts : ∀ char ∈ places, isPlace char = true)

include placeParts

theorem readPlaces_point : readPlaces (if places.isEmpty then [] else '.' :: places) = (places, []) := by
  cases places with
  | nil => rfl
  | cons first rest =>
    have all : (first :: rest).takeWhile isPlace = first :: rest := List.takeWhile_eq_self_iff.mpr placeParts
    have rest : (first :: rest).dropWhile isPlace = [] := List.dropWhile_eq_nil_iff.mpr placeParts
    change (if ((first :: _).takeWhile isPlace).isEmpty then _ else _) = _
    rw [all, rest]
    rfl

include wholeParts

theorem ofText_withPoint (some : whole ≠ []) : ofText (withPoint whole places) = ofPlaces whole places := by
  obtain ⟨first, later, rfl⟩ := List.exists_cons_of_ne_nil some
  have opens : opensNumber first = true := by
    have part := wholeParts first List.mem_cons_self
    simp only [isWholePart, opensNumber, Bool.or_eq_true] at part ⊢
    tauto
  have before : (withPoint (first :: later) places).takeWhile (!opensNumber ·) = [] := by simp [withPoint, opens]
  have behind : (withPoint (first :: later) places).dropWhile (!opensNumber ·) = withPoint (first :: later) places := by
    simp [withPoint, opens]
  have noPart : ((if places.isEmpty then [] else '.' :: places).takeWhile isWholePart) = [] := by
    cases places <;> rfl
  have point : ((if places.isEmpty then [] else '.' :: places).dropWhile isWholePart) =
      if places.isEmpty then [] else '.' :: places := by
    cases places <;> rfl
  have taken : (withPoint (first :: later) places).takeWhile isWholePart = first :: later := by
    rw [withPoint, List.takeWhile_append_of_pos wholeParts, noPart, List.append_nil]
  have left : (withPoint (first :: later) places).dropWhile isWholePart = if places.isEmpty then [] else '.' :: places := by
    rw [withPoint, List.dropWhile_append_of_pos wholeParts, point]
  simp only [ofText, before, behind, taken, left, readPlaces_point placeParts]
  rfl

end Places

theorem trimZeros_replicate {least length : Nat} (within : least ≤ length) :
    trimZeros least (List.replicate length '0') = List.replicate least '0' := by
  rw [trimZeros, List.drop_replicate, List.reverse_replicate, List.take_replicate, Nat.min_eq_left within]
  simp

theorem zeroFill_zero {places : Text} (some : places ≠ []) :
    Text.zeroFill places.length (Text.ofNat 0) = List.replicate places.length '0' := by
  have positive := List.length_pos_iff.mpr some
  obtain ⟨more, length⟩ : ∃ more, places.length = more + 1 := ⟨places.length - 1, by omega⟩
  rw [length, List.replicate_succ']
  rfl

theorem write_integer {whole places : Text} {number : Int}
    (small : number.natAbs * 10 ^ places.length < 10 ^ precision) :
    (ofPlaces whole places).write (.integer number) = do
      return (if number < 0 then ['-'] else []) ++
        withPoint (← (ofPlaces whole places).writeWhole (Text.ofNat number.natAbs))
          (List.replicate (places.count '0') '0') := by
  have exact : (NumberPicture.mk [] whole places false []).units ⟨number.natAbs, 0⟩ =
      .ok (number.natAbs * 10 ^ places.length) := units_integer rfl small
  have least : number.natAbs ≤ number.natAbs * 10 ^ places.length :=
    Nat.le_mul_of_pos_right _ (Nat.pow_pos (by decide))
  have finite : (Number.integer number).isFinite = .ok true :=
    Number.isFinite_of_small (Nat.lt_trans (Nat.lt_of_le_of_lt least small) precision_lt_bound)
  have sign : (decide (number < 0) && number.natAbs * 10 ^ places.length != 0) = decide (number < 0) := by
    by_cases negative : number < 0
    · simp [negative, negative.ne]
    · simp [negative]
  have fraction : trimZeros (places.count '0')
      (if places.isEmpty then [] else
        Text.zeroFill places.length (Text.ofNat (number.natAbs * 10 ^ places.length % Nat.pow 10 places.length))) =
      List.replicate (places.count '0') '0' := by
    rw [Nat.pow_eq, Nat.mul_mod_left]
    split
    next none =>
      rw [List.isEmpty_iff.mp none]
      rfl
    next some => rw [zeroFill_zero (by simpa using some), trimZeros_replicate List.count_le_length]
  have quotient : number.natAbs * 10 ^ places.length / Nat.pow 10 places.length = number.natAbs :=
    Nat.mul_div_cancel _ (Nat.pow_pos (by decide))
  rw [ofPlaces, write, finite]
  simp only [exactDecimal, exact, sign, bind, Except.bind, fraction, quotient]
  simp [withPoint]

end NumberPicture

end Worksheet
