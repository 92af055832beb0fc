import Worksheet.Proofs.Address

/-! Names of cells. A column name is a numeral whose digits run from one to twenty-six, so every column has one name
and every name one column. Names and keys of positions are read back as the positions, as long as their numbers have
no more digits than can be read. -/

namespace Worksheet

namespace Address

/-! ## Column names as numerals -/

theorem lettersOfNat_zero : lettersOfNat 0 = [] := by
  rw [lettersOfNat, if_pos rfl]

theorem lettersOfNat_of_pos {number : Nat} (positive : number ≠ 0) :
    lettersOfNat number = lettersOfNat ((number - 1) / 26) ++ [letter ((number - 1) % 26)] := by
  rw [lettersOfNat, if_neg positive]

def numeral (letters : Text) : Int :=
  letters.foldl (fun index char => index * 26 + ((char.toNat : Int) - 64)) 0

theorem numeral_append_singleton (letters : Text) (last : Char) :
    numeral (letters ++ [last]) = numeral letters * 26 + ((last.toNat : Int) - 64) := by
  rw [numeral, List.foldl_append]
  rfl

theorem letter_spec {index : Nat} (bound : index < 26) :
    (letter index).isUpper = true ∧ (letter index).toNat = 65 + index := by
  have table : ∀ index < 26, (letter index).isUpper = true ∧ (letter index).toNat = 65 + index := by decide
  exact table index bound

theorem letter_toNat {char : Char} (capital : char.isUpper = true) : letter (char.toNat - 65) = char := by
  have bounds := Text.toNat_of_isUpper capital
  have sum : 65 + (char.toNat - 65) = char.toNat := by omega
  rw [letter, sum, Char.ofNat_toNat]

theorem lettersOfNat_induction {motive : Nat → Prop} (zero : motive 0)
    (step : ∀ leading digit, digit < 26 → motive leading → motive (leading * 26 + digit + 1)) (number : Nat) :
    motive number := by
  induction number using Nat.strongRecOn with
  | ind number ih =>
    by_cases positive : number = 0
    · rw [positive]
      exact zero
    · have split : (number - 1) / 26 * 26 + (number - 1) % 26 + 1 = number := by omega
      rw [← split]
      exact step _ _ (Nat.mod_lt _ (by decide)) (ih _ (by omega))

theorem lettersOfNat_step {leading digit : Nat} (bound : digit < 26) :
    lettersOfNat (leading * 26 + digit + 1) = lettersOfNat leading ++ [letter digit] := by
  rw [lettersOfNat_of_pos (by omega)]
  have quotient : (leading * 26 + digit + 1 - 1) / 26 = leading := by omega
  have rest : (leading * 26 + digit + 1 - 1) % 26 = digit := by omega
  rw [quotient, rest]

theorem isUpper_of_mem_lettersOfNat {number : Nat} {char : Char} (member : char ∈ lettersOfNat number) :
    char.isUpper = true := by
  induction number using lettersOfNat_induction with
  | zero =>
    rw [lettersOfNat_zero] at member
    cases member
  | step leading digit bound ih =>
    rw [lettersOfNat_step bound] at member
    rcases List.mem_append.mp member with inside | last
    · exact ih inside
    · rw [List.mem_singleton.mp last]
      exact (letter_spec bound).1

theorem numeral_lettersOfNat (number : Nat) : numeral (lettersOfNat number) = number := by
  induction number using lettersOfNat_induction with
  | zero =>
    rw [lettersOfNat_zero]
    rfl
  | step leading digit bound ih =>
    have value := (letter_spec bound).2
    rw [lettersOfNat_step bound, numeral_append_singleton, ih, value]
    omega

theorem lettersOfNat_numeral {letters : Text} (capitals : ∀ char ∈ letters, char.isUpper = true) :
    ∃ number : Nat, numeral letters = number ∧ lettersOfNat number = letters := by
  induction letters using List.reverseRecOn with
  | nil => exact ⟨0, rfl, lettersOfNat_zero⟩
  | append_singleton leading last ih =>
    obtain ⟨number, value, written⟩ := ih fun char member => capitals char (by simp [member])
    have capital := capitals last (by simp)
    have bounds := Text.toNat_of_isUpper capital
    refine ⟨number * 26 + (last.toNat - 65) + 1, ?_, ?_⟩
    · rw [numeral_append_singleton, value]
      omega
    · rw [lettersOfNat_step (by omega), written, letter_toNat capital]

theorem upper_of_capitals {letters : Text} (capitals : ∀ char ∈ letters, char.isUpper = true) :
    Text.upper letters = letters := by
  have ascii : ∀ char ∈ letters, char.toNat < 128 := by
    intro char member
    have bounds := Text.toNat_of_isUpper (capitals char member)
    omega
  have same : letters.map Char.toUpper = letters.map id :=
    List.map_congr_left fun char member => (Text.isEnglishLetter_of_isUpper (capitals char member)).2
  rw [Text.upper_of_ascii ascii, same, List.map_id]

theorem columnOfName_columnName (column : Nat) : columnOfName (columnName column) = column := by
  have capitals : ∀ char ∈ lettersOfNat (column + 1), char.isUpper = true :=
    fun char member => isUpper_of_mem_lettersOfNat member
  change numeral (Text.upper (lettersOfNat (column + 1))) - 1 = column
  rw [upper_of_capitals capitals, numeral_lettersOfNat]
  omega

theorem columnName_inj {first second : Nat} (same : columnName first = columnName second) : first = second := by
  have index := columnOfName_columnName first
  rw [same, columnOfName_columnName] at index
  omega

theorem capitals_upper {name : Text} (english : ∀ char ∈ name, Text.isEnglishLetter char = true) :
    ∀ char ∈ Text.upper name, char.isUpper = true := by
  have ascii : ∀ char ∈ name, char.toNat < 128 :=
    fun char member => toNat_lt_of_isEnglishLetter (english char member)
  rw [Text.upper_of_ascii ascii]
  intro char member
  obtain ⟨original, among, rfl⟩ := List.mem_map.mp member
  exact Text.isUpper_toUpper (english original among)

theorem columnName_columnOfName {name : Text} (english : ∀ char ∈ name, Text.isEnglishLetter char = true) :
    columnName (columnOfName name) = Text.upper name := by
  obtain ⟨number, value, written⟩ := lettersOfNat_numeral (capitals_upper english)
  have index : columnOfName name + 1 = number := by
    change numeral (Text.upper name) - 1 + 1 = number
    omega
  rw [columnName, index, Int.toNat_natCast, written]

/-! ## Names with a number -/

theorem upper_ofNat (number : Nat) : Text.upper (Text.ofNat number) = Text.ofNat number := by
  have bounds : ∀ char ∈ Text.ofNat number, char.toNat < 65 := by
    intro char member
    have value := Text.isDigit_of_mem_ofNat member
    simp only [Char.isDigit, Bool.and_eq_true, decide_eq_true_eq, UInt32.le_iff_toNat_le] at value
    have most : char.toNat ≤ 57 := value.2
    omega
  have ascii : ∀ char ∈ Text.ofNat number, char.toNat < 128 := by
    intro char member
    have small := bounds char member
    omega
  have same : (Text.ofNat number).map Char.toUpper = (Text.ofNat number).map id := by
    refine List.map_congr_left fun char member => ?_
    rcases Text.toUpper_cases char with letter | still
    · have small := bounds char member
      have large := toNat_of_isEnglishLetter letter
      omega
    · exact still
  rw [Text.upper_of_ascii ascii, same, List.map_id]

theorem cellParts_append {letters digits : Text} (named : letters ≠ []) (numbered : digits ≠ [])
    (allLetters : ∀ char ∈ letters, Text.isLetter char = true)
    (allDigits : ∀ char ∈ digits, Text.isDigit char = true) :
    cellParts? (letters ++ digits) = some (letters, digits) := by
  have stops : digits.takeWhile Text.isLetter = [] ∧ digits.dropWhile Text.isLetter = digits := by
    cases digits with
    | nil => exact ⟨rfl, rfl⟩
    | cons first rest =>
      have other := Text.not_isLetter_of_isDigit (allDigits first (by simp))
      simp [other]
  have whole : Text.dropFinalNewline digits = digits :=
    Text.dropFinalNewline_of_notMem (Text.notMem_of_digits allDigits (by decide))
  have proper : ¬(letters.isEmpty = true ∨ digits.isEmpty = true ∨ ¬digits.all Text.isDigit = true) := by
    simp only [List.isEmpty_iff, named, numbered, false_or, not_not]
    exact List.all_eq_true.mpr allDigits
  have before : (letters ++ digits).takeWhile Text.isLetter = letters := by
    rw [List.takeWhile_append_of_pos allLetters, stops.1, List.append_nil]
  have after : (letters ++ digits).dropWhile Text.isLetter = digits := by
    rw [List.dropWhile_append_of_pos allLetters, stops.2]
  simp only [cellParts?, before, after, whole]
  rw [if_neg proper]

theorem cellParts_eq_some {text letters digits : Text} (found : cellParts? text = some (letters, digits)) :
    letters ≠ [] ∧ digits ≠ [] ∧ (∀ char ∈ letters, Text.isLetter char = true) ∧
      (∀ char ∈ digits, Text.isDigit char = true) ∧
      ∃ newline, (newline = [] ∨ newline = ['\n']) ∧ text = letters ++ (digits ++ newline) := by
  unfold cellParts? at found
  simp only at found
  split at found
  · cases found
  next proper =>
    simp only [not_or, not_not, List.isEmpty_iff] at proper
    cases found
    obtain ⟨newline, either, whole⟩ := Text.exists_dropFinalNewline (text.dropWhile Text.isLetter)
    refine ⟨proper.1, proper.2.1, ?_, List.all_eq_true.mp proper.2.2, newline, either, ?_⟩
    · intro char member
      exact List.mem_takeWhile_imp member
    · rw [← whole]
      exact List.takeWhile_append_dropWhile.symm

def isNameChar (char : Char) : Bool :=
  Text.isLetter char || Text.isDigit char || char == ':' || char == '\n'

theorem isNameChar_of_cellParts {text : Text} {parts : Text × Text} (found : cellParts? text = some parts) :
    ∀ char ∈ text, isNameChar char = true := by
  obtain ⟨letters, digits⟩ := parts
  obtain ⟨_, _, allLetters, allDigits, newline, either, rfl⟩ := cellParts_eq_some found
  intro char member
  rcases List.mem_append.mp member with inLetters | after
  · simp [isNameChar, allLetters char inLetters]
  · rcases List.mem_append.mp after with inDigits | last
    · simp [isNameChar, allDigits char inDigits]
    · rcases either with rfl | rfl
      · cases last
      · rw [List.mem_singleton.mp last]
        decide

theorem isNameChar_of_spanParts {text : Text} {parts : SpanParts} (found : spanParts? text = some parts) :
    ∀ char ∈ text, isNameChar char = true := by
  unfold spanParts? at found
  split at found
  next first last ends =>
    split at found
    next firstFound lastFound =>
      obtain ⟨newline, either, whole⟩ := Text.exists_dropFinalNewline text
      have joined := Text.join_cut_single ':' [':'] [] (Text.dropFinalNewline text)
      have same : (Text.dropFinalNewline text).flatMap (fun char => if char = ':' then [':'] else [char])
          = Text.dropFinalNewline text := by
        have each : (fun char : Char => if char = ':' then [':'] else [char]) = fun char => [char] := by
          funext char
          split
          next colon => rw [colon]
          next => rfl
        rw [each, List.flatMap_singleton']
      change Text.join [':'] (Text.splitOn [':'] (Text.dropFinalNewline text)) = _ at joined
      rw [ends, same, List.reverse_nil, List.nil_append] at joined
      intro char member
      rw [whole, ← joined] at member
      rcases List.mem_append.mp member with inside | after
      · change char ∈ first ++ [':'] ++ last at inside
        rcases List.mem_append.mp inside with before | inLast
        · rcases List.mem_append.mp before with inFirst | colon
          · exact isNameChar_of_cellParts firstFound char inFirst
          · rw [List.mem_singleton.mp colon]
            decide
        · exact isNameChar_of_cellParts lastFound char inLast
      · rcases either with rfl | rfl
        · cases after
        · rw [List.mem_singleton.mp after]
          decide
    next => cases found
  next => cases found

theorem readCell_append {letters : Text} {number : Nat} (named : letters ≠ [])
    (allLetters : ∀ char ∈ letters, Text.isLetter char = true)
    (short : (Text.ofNat number).length ≤ Text.digitLimit) :
    readCell (letters ++ Text.ofNat number) = .ok (some ⟨(number : Int) - 1, columnOfName letters⟩) := by
  rw [readCell, cellParts_append named (Text.ofNat_ne_nil number) allLetters (Text.digits_ofNat number)]
  simp only [ofParts, Text.readNat_ofNat short]
  rfl

theorem exists_letters_of_toUpper {letters digits written : Text}
    (capitals : ∀ char ∈ letters, char.isUpper = true) (numbers : ∀ char ∈ digits, char.isDigit = true)
    (same : written.map Char.toUpper = letters ++ digits) :
    ∃ own, written = own ++ digits ∧ (∀ char ∈ own, Text.isEnglishLetter char = true) ∧
      Text.upper own = letters := by
  obtain ⟨own, number, rfl, upper, kept⟩ := List.map_eq_append_iff.mp same
  have english : ∀ char ∈ own, Text.isEnglishLetter char = true := by
    intro char member
    rcases Text.toUpper_cases char with letter | still
    · exact letter
    · have capital := capitals char.toUpper (by rw [← upper]; exact List.mem_map_of_mem member)
      rw [still] at capital
      exact (Text.isEnglishLetter_of_isUpper capital).1
  have unchanged : number.map Char.toUpper = number.map id := by
    refine List.map_congr_left fun char member => ?_
    rcases Text.toUpper_cases char with letter | still
    · have digit := numbers char.toUpper (by rw [← kept]; exact List.mem_map_of_mem member)
      have bounds := Text.toNat_of_isUpper (Text.isUpper_toUpper letter)
      have value := Text.toNat_of_isDigit (Text.isDigit_of_isDigit digit)
      omega
    · exact still
  have ascii : ∀ char ∈ own, char.toNat < 128 :=
    fun char member => toNat_lt_of_isEnglishLetter (english char member)
  rw [unchanged, List.map_id] at kept
  exact ⟨own, by rw [kept], english, by rw [Text.upper_of_ascii ascii, upper]⟩

end Address

namespace Position

/-! ## Names of positions -/

/-- The column in letters and the row counted from one, however many digits that takes. -/
def address (position : Position) : Text :=
  Address.columnName position.column ++ Text.ofInt (position.row + 1)

theorem name_eq_ok_address {position : Position} {text : Text} :
    position.name = .ok text ↔ Text.Short (position.row + 1).natAbs ∧ text = position.address := by
  simp only [name, bind_eq_ok, Text.writeInt_eq_ok, pure, Except.pure, Except.ok.injEq, Text.Short, address]
  constructor
  · rintro ⟨digits, ⟨short, rfl⟩, rfl⟩
    exact ⟨short, rfl⟩
  · rintro ⟨short, rfl⟩
    exact ⟨_, ⟨short, rfl⟩, rfl⟩

theorem address_eq {position : Position} {number column : Nat} (row : position.row + 1 = number)
    (index : position.column = column) : position.address = Address.columnName column ++ Text.ofNat number := by
  rw [address, row, index, Text.ofInt_natCast]

theorem name_eq_ok {row column : Nat} {text : Text} :
    name ⟨row, column⟩ = .ok text ↔
      Text.Short (row + 1) ∧ text = Address.columnName column ++ Text.ofNat (row + 1) := by
  have number : ((row : Int) + 1).natAbs = row + 1 := by omega
  rw [name_eq_ok_address, @address_eq ⟨row, column⟩ (row + 1) column rfl rfl, number]

theorem name_eq {row column : Nat} (short : Text.Short (row + 1)) :
    name ⟨row, column⟩ = .ok (Address.columnName column ++ Text.ofNat (row + 1)) :=
  name_eq_ok.mpr ⟨short, rfl⟩

theorem key_eq {row column : Nat} (short : Text.Short row) (narrow : Text.Short column) :
    key ⟨row, column⟩ = .ok (Text.ofNat row ++ ',' :: Text.ofNat column) := by
  rw [key_eq_ok, Text.ofInt_natCast, Text.ofInt_natCast]
  exact ⟨⟨short, narrow⟩, rfl⟩

end Position

namespace Address

theorem columnName_spec (column : Nat) :
    columnName column ≠ [] ∧ ∀ char ∈ columnName column, char.isUpper = true := by
  refine ⟨?_, fun char member => isUpper_of_mem_lettersOfNat member⟩
  intro empty
  have value := columnOfName_columnName column
  rw [empty] at value
  have none : columnOfName [] = -1 := rfl
  omega

theorem readCell_of_upper {letters : Text} {row column : Nat} (short : Text.Short (row + 1))
    (english : ∀ char ∈ letters, Text.isEnglishLetter char = true) (upper : Text.upper letters = columnName column) :
    readCell (letters ++ Text.ofNat (row + 1)) = .ok (some ⟨row, column⟩) := by
  obtain ⟨nonempty, capitals⟩ := columnName_spec column
  have named : letters ≠ [] := by
    rintro rfl
    exact nonempty upper.symm
  have index : columnOfName letters = column := by
    rw [← columnOfName_columnName column]
    change numeral (Text.upper letters) - 1 = numeral (Text.upper (columnName column)) - 1
    rw [upper, upper_of_capitals capitals]
  have back : ((row + 1 : Nat) : Int) - 1 = row := by omega
  rw [readCell_append named (fun char member => (isLetter_of_isEnglishLetter (english char member)).1) short,
    index, back]

theorem readCell_name {row column : Nat} (short : Text.Short (row + 1)) :
    readCell (columnName column ++ Text.ofNat (row + 1)) = .ok (some ⟨row, column⟩) := by
  obtain ⟨_, capitals⟩ := columnName_spec column
  exact readCell_of_upper short (fun char member => (Text.isEnglishLetter_of_isUpper (capitals char member)).1)
    (upper_of_capitals capitals)

theorem readKey_of_toUpper {row column : Nat} {written : Text} (short : Text.Short (row + 1))
    (narrow : Text.Short column) (same : written.map Char.toUpper = columnName column ++ Text.ofNat (row + 1)) :
    readKey written = .ok (some (Text.ofNat row ++ ',' :: Text.ofNat column)) := by
  obtain ⟨own, rfl, english, upper⟩ :=
    exists_letters_of_toUpper (columnName_spec column).2 (fun _ => Text.isDigit_of_mem_ofNat) same
  simp only [readKey, readCell_of_upper short english upper]
  change (Position.key ⟨row, column⟩ >>= fun key => Except.ok (some key)) = _
  rw [Position.key_eq (short.mono (by omega)) narrow]
  rfl

theorem name_of_readCell {letters : Text} {number : Nat} (named : letters ≠ [])
    (english : ∀ char ∈ letters, Text.isEnglishLetter char = true) (positive : 0 < number)
    (short : Text.Short number) :
    ∃ position, readCell (letters ++ Text.ofNat number) = .ok (some position) ∧
      position.name = .ok (Text.upper (letters ++ Text.ofNat number)) := by
  obtain ⟨row, rfl⟩ := Nat.exists_eq_add_one_of_ne_zero (Nat.ne_of_gt positive)
  obtain ⟨index, value, written⟩ := lettersOfNat_numeral (capitals_upper english)
  have nonempty : Text.upper letters ≠ [] := by
    rw [Text.upper_of_ascii fun char member => toNat_lt_of_isEnglishLetter (english char member)]
    simpa using named
  have positive : index ≠ 0 := by
    rintro rfl
    exact nonempty (written.symm.trans lettersOfNat_zero)
  obtain ⟨column, rfl⟩ := Nat.exists_eq_add_one_of_ne_zero positive
  have columns : Text.upper letters = columnName column := written.symm
  refine ⟨⟨row, column⟩, readCell_of_upper short english columns, ?_⟩
  rw [Position.name_eq short, Text.upper, List.flatMap_append, ← Text.upper, ← Text.upper, columns, upper_ofNat]

/-- Every column has one name and every name one column. Positions whose numbers have no more digits than can be
read are read back from their names and from their keys, the names in any letter case; and a name without
leading zeros is the name of the position that it stands for. So no two columns share a name, and no two
positions a name or a key. -/
theorem names_one_to_one :
    (∀ column : Nat, columnOfName (columnName column) = column) ∧
    (∀ letters : Text, (∀ char ∈ letters, Text.isEnglishLetter char = true) →
      columnName (columnOfName letters) = Text.upper letters) ∧
    (∀ row column : Nat, Text.Short (row + 1) →
      ∃ name, Position.name ⟨row, column⟩ = .ok name ∧ readCell name = .ok (some ⟨row, column⟩)) ∧
    (∀ row column : Nat, Text.Short row → Text.Short column →
      ∃ key, Position.key ⟨row, column⟩ = .ok key ∧ Position.ofKey key = .ok ⟨row, column⟩) ∧
    (∀ row column : Nat, Text.Short (row + 1) → Text.Short column →
      ∃ name key, Position.name ⟨row, column⟩ = .ok name ∧ Position.key ⟨row, column⟩ = .ok key ∧
        ∀ written : Text, written.map Char.toUpper = name → readKey written = .ok (some key)) ∧
    (∀ (letters : Text) (number : Nat), letters ≠ [] → (∀ char ∈ letters, Text.isEnglishLetter char = true) →
      0 < number → Text.Short number →
      ∃ position, readCell (letters ++ Text.ofNat number) = .ok (some position) ∧
        position.name = .ok (Text.upper (letters ++ Text.ofNat number))) ∧
    (∀ column other : Nat, columnName column = columnName other → column = other) ∧
    (∀ (row column otherRow otherColumn : Nat) (shared : Text),
      Position.name ⟨row, column⟩ = .ok shared → Position.name ⟨otherRow, otherColumn⟩ = .ok shared →
      row = otherRow ∧ column = otherColumn) ∧
    (∀ (first second : Position) (shared : Text), first.key = .ok shared → second.key = .ok shared →
      first = second) := by
  refine ⟨columnOfName_columnName, fun letters => columnName_columnOfName, ?_, ?_, ?_,
    fun letters number => name_of_readCell, fun column other => columnName_inj, ?_,
    fun first second shared => Position.key_inj⟩
  · intro row column short
    exact ⟨_, Position.name_eq short, readCell_name short⟩
  · intro row column short narrow
    exact ⟨_, Position.key_eq short narrow, Position.ofKey_of_key (Position.key_eq short narrow)⟩
  · intro row column short narrow
    refine ⟨_, _, Position.name_eq short, Position.key_eq (short.mono (by omega)) narrow, ?_⟩
    intro written same
    exact readKey_of_toUpper short narrow same
  · intro row column otherRow otherColumn shared named other
    obtain ⟨short, rfl⟩ := Position.name_eq_ok.mp named
    obtain ⟨otherShort, same⟩ := Position.name_eq_ok.mp other
    have positions := @readCell_name row column short
    rw [same, readCell_name otherShort] at positions
    cases positions
    exact ⟨rfl, rfl⟩

theorem names_one_to_one_corner :
    columnName (columnOfName ['z', 'Z']) = ['Z', 'Z'] ∧
      (∃ name key, Position.name ⟨9, 701⟩ = .ok name ∧ Position.key ⟨9, 701⟩ = .ok key ∧
        readCell name = .ok (some ⟨9, 701⟩) ∧ Position.ofKey key = .ok ⟨9, 701⟩ ∧
        readKey "zZ10".toList = .ok (some key)) ∧
      ∃ position, readCell "zZ10".toList = .ok (some position) ∧ position.name = .ok "ZZ10".toList := by
  have english : ∀ char ∈ ['z', 'Z'], Text.isEnglishLetter char = true := List.all_eq_true.mp (by decide)
  obtain ⟨_, columns, names, keys, either, written, _⟩ := names_one_to_one
  obtain ⟨name, named, read⟩ := names 9 701 (by decide)
  obtain ⟨key, keyed, back⟩ := keys 9 701 (by decide) (by decide)
  obtain ⟨otherName, otherKey, otherNamed, otherKeyed, found⟩ := either 9 701 (by decide) (by decide)
  rw [named] at otherNamed
  rw [keyed] at otherKeyed
  cases otherNamed
  cases otherKeyed
  have upper : "zZ10".toList.map Char.toUpper = name := by
    have expected : Position.name ⟨9, 701⟩ = .ok ("zZ10".toList.map Char.toUpper) := by decide +kernel
    exact Except.ok.inj (expected.symm.trans named)
  refine ⟨columns _ english, ⟨name, key, named, keyed, read, back, found _ upper⟩, ?_⟩
  exact written ['z', 'Z'] 10 (by decide) english (by decide) (by decide)

end Address

end Worksheet
