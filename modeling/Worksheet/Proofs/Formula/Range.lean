import Worksheet.Proofs.CellName
import Worksheet.Proofs.Formula.Frame
import Worksheet.Proofs.Value.Decidable

/-! A range stands for its cells. The columns of a range are single letters and the columns of addresses are numerals,
but both say the same cells; and a function that opens its ranges sees the values of a range as it sees those of the
addresses, one by one and row by row. -/

namespace Worksheet

theorem Value.flatten_append (values others : List Value) :
    flatten (values ++ others) = flatten values ++ flatten others := by
  induction values with
  | nil => rfl
  | cons value rest ih => rw [List.cons_append, flatten, flatten, ih, List.append_assoc]

/-! ## Arguments one after another -/

namespace Argument

variable {setting : Setting} {view : View} {depth : Int} {keepsErrors : Bool}

def openedAll (setting : Setting) (view : View) (depth : Int) (keepsErrors : Bool) (arguments : List Argument) :
    Except Failure (List Value) :=
  (resolveAll setting view depth keepsErrors arguments).result.map Value.flatten

theorem openedAll_cons (argument : Argument) (rest : List Argument) :
    openedAll setting view depth keepsErrors (argument :: rest) =
      (resolve setting view depth keepsErrors argument).result >>= fun value =>
        openedAll setting view depth keepsErrors rest >>= fun values => .ok (value.leaves ++ values) := by
  rw [openedAll, result_resolveAll_cons, openedAll]
  cases (resolve setting view depth keepsErrors argument).result with
  | error failure => rfl
  | ok value =>
    cases (resolveAll setting view depth keepsErrors rest).result with
    | error failure => rfl
    | ok values => rfl

theorem openedAll_append (arguments others : List Argument) :
    openedAll setting view depth keepsErrors (arguments ++ others) =
      openedAll setting view depth keepsErrors arguments >>= fun values =>
        openedAll setting view depth keepsErrors others >>= fun later => .ok (values ++ later) := by
  rw [openedAll, result_resolveAll_append, openedAll, openedAll]
  cases (resolveAll setting view depth keepsErrors arguments).result with
  | error failure => rfl
  | ok values =>
    cases (resolveAll setting view depth keepsErrors others).result with
    | error failure => rfl
    | ok later => exact congrArg Except.ok (Value.flatten_append values later)

theorem openedAll_cells (positions : List Position) :
    openedAll setting view depth keepsErrors (positions.map cell) = (positions.mapM view).map Value.flatten := by
  induction positions with
  | nil => rfl
  | cons position rest ih =>
    rw [List.map_cons, openedAll_cons, ih, List.mapM_cons]
    change view position >>= _ = _
    cases view position with
    | error failure => rfl
    | ok value =>
      cases rest.mapM view with
      | error failure => rfl
      | ok values => rfl

theorem openedAll_range (span : Span) :
    openedAll setting view depth keepsErrors [range span] =
      openedAll setting view depth keepsErrors (span.positions.map cell) := by
  rw [openedAll_cells, openedAll_cons, resolve, Outcome.result_ofExcept]
  cases span.positions.mapM view with
  | error failure => rfl
  | ok values => exact congrArg Except.ok (List.append_nil (Value.flatten values))

theorem openedAll_append_range (leading trailing : List Argument) (span : Span) :
    openedAll setting view depth keepsErrors (leading ++ (span.positions.map cell ++ trailing)) =
      openedAll setting view depth keepsErrors (leading ++ range span :: trailing) := by
  rw [openedAll_append, openedAll_append (span.positions.map cell), ← openedAll_range, ← openedAll_append,
    ← openedAll_append]
  rfl

end Argument

/-! ## Ends of a range -/

/-- An end of a range as it is written: the letter of its column and its row number in digits of any script. -/
structure RangeEnd where
  column : Char
  row : Text
  english : Text.isEnglishLetter column = true
  numbered : row ≠ []
  digits : ∀ char ∈ row, Text.isDigit char = true

namespace RangeEnd

def text (corner : RangeEnd) : Text :=
  corner.column :: corner.row

def position (corner : RangeEnd) : Position :=
  ⟨(Text.digitsValue corner.row : Int) - 1, Address.columnOfName [corner.column]⟩

/-- The row number has no more digits than can be read, leading zeros included. -/
def Readable (corner : RangeEnd) : Prop :=
  corner.row.length ≤ Text.digitLimit

instance (corner : RangeEnd) : Decidable corner.Readable :=
  inferInstanceAs (Decidable (corner.row.length ≤ Text.digitLimit))

def Plain (corner : RangeEnd) : Prop :=
  corner.row = Text.ofNat (Text.digitsValue corner.row)

theorem cellParts_text (corner : RangeEnd) :
    Address.cellParts? corner.text = some ([corner.column], corner.row) :=
  Address.cellParts_append (List.cons_ne_nil _ _) corner.numbered
    (List.forall_mem_singleton.mpr (isLetter_of_isEnglishLetter corner.english).1) corner.digits

theorem notMem_text (corner : RangeEnd) {char : Char} (letter : Text.isEnglishLetter char = false)
    (digit : Text.isDigit char = false) : char ∉ corner.text := by
  rintro (_ | ⟨_, inside⟩)
  · rw [corner.english] at letter
    cases letter
  · exact Text.notMem_of_digits corner.digits digit inside

theorem not_isBlank_of_mem_text (corner : RangeEnd) : ∀ char ∈ corner.text, Text.isBlank char = false := by
  rintro char (_ | ⟨_, inside⟩)
  · exact (isLetter_of_isEnglishLetter corner.english).2
  · exact Text.not_isBlank_of_isDigit (corner.digits char inside)

theorem isBalanced_range (first last : RangeEnd) : Scan.isBalanced (first.text ++ ':' :: last.text) = true := by
  have bare (corner : RangeEnd) : ∀ char ∈ corner.text, char ∉ Scan.marks := by
    rintro char (_ | ⟨_, inside⟩)
    · exact Scan.notMem_marks_of_letter corner.english
    · exact Scan.notMem_marks_of_digit (corner.digits char inside)
  refine Scan.balancedFrom_of_bare rfl fun char member => ?_
  rcases List.mem_append.mp member with before | behind
  · exact bare first char before
  · rcases List.mem_cons.mp behind with rfl | after
    · decide
    · exact bare last char after

def piece (first last : RangeEnd) : Piece :=
  .ofWord (first.text ++ ':' :: last.text) (isBalanced_range first last)

theorem not_isBlank_of_mem_range (first last : RangeEnd) :
    ∀ char ∈ first.text ++ ':' :: last.text, Text.isBlank char = false := by
  intro char member
  rcases List.mem_append.mp member with before | behind
  · exact first.not_isBlank_of_mem_text char before
  · rcases List.mem_cons.mp behind with rfl | after
    · decide
    · exact last.not_isBlank_of_mem_text char after

end RangeEnd

namespace Address

theorem rangeColumn_singleton {letter : Char} (isLetter : Text.isLetter letter = true) :
    rangeColumn [letter] = .ok (columnOfName [letter]) := by
  obtain ⟨capital, upper⟩ := Text.upperChar_of_isLetter isLetter
  have index : columnOfName [letter] = (capital.toNat : Int) - 65 := by
    simp only [columnOfName, Text.upper, List.flatMap_cons, List.flatMap_nil, upper, List.append_nil,
      List.foldl_cons, List.foldl_nil]
    omega
  rw [rangeColumn, upper, index]

theorem exists_columnOfName_singleton {letter : Char} (english : Text.isEnglishLetter letter = true) :
    ∃ column : Nat, columnOfName [letter] = column := by
  have capitals := capitals_upper (List.forall_mem_singleton.mpr english)
  obtain ⟨number, value, written⟩ := lettersOfNat_numeral capitals
  have positive : number ≠ 0 := by
    rintro rfl
    obtain ⟨capital, upper⟩ := Text.upperChar_of_isLetter (isLetter_of_isEnglishLetter english).1
    rw [lettersOfNat_zero, Text.upper, List.flatMap_cons, upper] at written
    cases written
  refine ⟨number - 1, ?_⟩
  change numeral (Text.upper [letter]) - 1 = _
  omega

theorem spanParts_ends (first last : RangeEnd) :
    spanParts? (first.text ++ ':' :: last.text) =
      some ⟨[first.column], first.row, [last.column], last.row⟩ := by
  have newline (corner : RangeEnd) : '\n' ∉ corner.text := corner.notMem_text (by decide) (by decide)
  have colon (corner : RangeEnd) : ':' ∉ corner.text := corner.notMem_text (by decide) (by decide)
  have whole : '\n' ∉ first.text ++ ':' :: last.text := by
    simp [newline first, newline last]
  have none : (first.text ++ last.text).contains '\n' = false := by
    simp [newline first, newline last]
  simp only [spanParts?, Text.dropFinalNewline_of_notMem whole, Text.splitOn_pair (colon first) (colon last),
    first.cellParts_text, last.cellParts_text, none, Bool.false_eq_true, ↓reduceIte]

theorem rangeSpan_ends (first last : RangeEnd) :
    rangeSpan [first.column] first.row [last.column] last.row =
      Text.readNat first.row >>= fun firstRow => Text.readNat last.row >>= fun lastRow =>
        .ok ⟨⟨firstRow - 1, columnOfName [first.column]⟩, ⟨lastRow - 1, columnOfName [last.column]⟩⟩ := by
  have column (corner : RangeEnd) := rangeColumn_singleton (isLetter_of_isEnglishLetter corner.english).1
  have row (corner : RangeEnd) := Text.readInt_of_digits corner.digits corner.numbered
  simp only [rangeSpan, column, row, bind_assoc]
  rfl

end Address

namespace Argument

theorem ofText_ends (first last : RangeEnd) :
    ofText (first.text ++ ':' :: last.text) =
      ofResult range (Address.rangeSpan [first.column] first.row [last.column] last.row) := by
  rw [ofText, Text.strip_eq_self_of_visible (first.not_isBlank_of_mem_range last), ofTrimmed,
    Address.spanParts_ends]
  rfl

theorem ofText_ends_of_readable {first last : RangeEnd} (firstReadable : first.Readable)
    (lastReadable : last.Readable) :
    ofText (first.text ++ ':' :: last.text) = range ⟨first.position, last.position⟩ := by
  rw [ofText_ends, Address.rangeSpan_ends, Text.readNat, Text.readNat, if_neg (Nat.not_lt.mpr firstReadable),
    if_neg (Nat.not_lt.mpr lastReadable)]
  rfl

theorem ofText_ends_of_long {first last : RangeEnd} (long : ¬(first.Readable ∧ last.Readable)) :
    ofText (first.text ++ ':' :: last.text) = invalid .unreadable := by
  rw [ofText_ends, Address.rangeSpan_ends, Text.readNat, Text.readNat]
  by_cases readable : first.Readable
  · have lastLong : ¬last.Readable := fun lastReadable => long ⟨readable, lastReadable⟩
    rw [if_neg (Nat.not_lt.mpr readable), if_pos (Nat.lt_of_not_le lastLong)]
    rfl
  · rw [if_pos (Nat.lt_of_not_le readable)]
    rfl

end Argument

/-! ## Addresses -/

theorem Argument.ofText_cellName {letters digits : Text} (named : letters ≠ []) (numbered : digits ≠ [])
    (allLetters : ∀ char ∈ letters, Text.isLetter char = true)
    (allDigits : ∀ char ∈ digits, Text.isDigit char = true) :
    ofText (letters ++ digits) = ofResult cell (Address.ofParts letters digits) := by
  have absent {char : Char} (letter : Text.isLetter char = false) (digit : Text.isDigit char = false) :
      char ∉ letters ++ digits := by
    intro member
    rcases List.mem_append.mp member with inside | after
    · rw [allLetters char inside] at letter
      cases letter
    · exact Text.notMem_of_digits allDigits digit after
  have visible : ∀ char ∈ letters ++ digits, Text.isBlank char = false := by
    intro char member
    rcases List.mem_append.mp member with inside | after
    · exact Text.not_isBlank_of_isLetter (allLetters char inside)
    · exact Text.not_isBlank_of_isDigit (allDigits char after)
  have noSpan : Address.spanParts? (letters ++ digits) = none := by
    rw [Address.spanParts?, Text.dropFinalNewline_of_notMem (absent (by decide) (by decide)),
      Text.splitOn_of_notMem (absent (by decide) (by decide))]
  have parts : Address.cellParts? (letters ++ digits) = some (letters, digits) :=
    Address.cellParts_append named numbered allLetters allDigits
  rw [ofText, Text.strip_eq_self_of_visible visible, ofTrimmed, noSpan]
  simp only [parts]

namespace Position

variable {position : Position} {number column : Nat}

theorem mem_address {char : Char} (member : char ∈ position.address) :
    Text.isEnglishLetter char = true ∨ char = '-' ∨ Text.isDigit char = true := by
  rcases List.mem_append.mp member with letter | digit
  · exact Or.inl (Text.isEnglishLetter_of_isUpper (Address.isUpper_of_mem_lettersOfNat letter)).1
  · exact Or.inr (Text.mem_ofInt digit)

theorem isBalanced_address (position : Position) : Scan.isBalanced position.address = true := by
  refine Scan.balancedFrom_of_bare rfl fun char member => ?_
  rcases mem_address member with letter | rfl | digit
  · exact Scan.notMem_marks_of_letter letter
  · decide
  · exact Scan.notMem_marks_of_digit digit

def piece (position : Position) : Piece :=
  .ofWord position.address position.isBalanced_address

theorem not_isBlank_piece (position : Position) : position.piece.isBlank = false := by
  refine Piece.not_isBlank ?_ fun char member => ?_
  · intro empty
    exact Text.ofInt_ne_nil _ (List.append_eq_nil_iff.mp empty).2
  · rcases mem_address member with letter | rfl | digit
    · exact (isLetter_of_isEnglishLetter letter).2
    · decide
    · exact Text.not_isBlank_of_isDigit digit

theorem argument_piece (row : position.row + 1 = number) (index : position.column = column) :
    position.piece.argument =
      Argument.ofResult .cell (Address.ofParts (Address.columnName column) (Text.ofNat number)) := by
  obtain ⟨nonempty, capitals⟩ := Address.columnName_spec column
  change Argument.ofText position.address = _
  rw [address_eq row index]
  exact Argument.ofText_cellName nonempty (Text.ofNat_ne_nil number)
    (fun char member => (isLetter_of_isEnglishLetter (Text.isEnglishLetter_of_isUpper (capitals char member)).1).1)
    (Text.digits_ofNat number)

theorem argument_piece_of_short (row : position.row + 1 = number) (index : position.column = column)
    (short : Text.Short number) : position.piece.argument = .cell position := by
  have same : (⟨(number : Int) - 1, column⟩ : Position) = position := by
    have own : (number : Int) - 1 = position.row := by omega
    rw [own, ← index]
  rw [argument_piece row index, Address.ofParts, Text.readNat_ofNat short, ← same]
  change Argument.cell ⟨(number : Int) - 1, Address.columnOfName (Address.columnName column)⟩ = _
  rw [Address.columnOfName_columnName]

theorem argument_piece_of_long (row : position.row + 1 = number) (index : position.column = column)
    (long : ¬Text.Short number) : position.piece.argument = .invalid .unreadable := by
  rw [argument_piece row index, Address.ofParts, Text.readNat, if_pos (Nat.lt_of_not_le long)]
  rfl

end Position

namespace Span

def Forward (span : Span) : Prop :=
  span.first.row ≤ span.last.row ∧ span.first.column ≤ span.last.column

instance (span : Span) : Decidable span.Forward :=
  inferInstanceAs (Decidable (span.first.row ≤ span.last.row ∧ span.first.column ≤ span.last.column))

theorem mem_indices {first last index : Int} : index ∈ indices first last ↔ first ≤ index ∧ index ≤ last := by
  simp only [indices, List.mem_map, List.mem_range]
  constructor
  · rintro ⟨offset, bound, rfl⟩
    omega
  · rintro ⟨least, most⟩
    exact ⟨(index - first).toNat, by omega, by omega⟩

theorem mem_positions {span : Span} {position : Position} :
    position ∈ span.positions ↔
      (span.first.row ≤ position.row ∧ position.row ≤ span.last.row) ∧
        span.first.column ≤ position.column ∧ position.column ≤ span.last.column := by
  simp only [positions, List.mem_flatMap, List.mem_map, mem_indices]
  constructor
  · rintro ⟨row, rows, column, columns, rfl⟩
    exact ⟨rows, columns⟩
  · rintro ⟨rows, columns⟩
    exact ⟨_, rows, _, columns, rfl⟩

theorem pairwise_indices (first last : Int) : (indices first last).Pairwise (· < ·) := by
  refine List.pairwise_map.mpr (List.pairwise_lt_range.imp fun before => ?_)
  omega

theorem pairwise_positions (span : Span) : span.positions.Pairwise Position.Precedes := by
  refine List.pairwise_flatMap.mpr ⟨fun row _ => ?_, (pairwise_indices _ _).imp fun above => ?_⟩
  · exact List.pairwise_map.mpr ((pairwise_indices _ _).imp fun before => Or.inr ⟨rfl, before⟩)
  · intro left isLeft right isRight
    obtain ⟨leftColumn, _, rfl⟩ := List.mem_map.mp isLeft
    obtain ⟨rightColumn, _, rfl⟩ := List.mem_map.mp isRight
    exact Or.inl above

theorem positions_eq_nil {span : Span} (backward : ¬span.Forward) : span.positions = [] := by
  refine List.eq_nil_iff_forall_not_mem.mpr fun position member => backward ?_
  obtain ⟨rows, columns⟩ := mem_positions.mp member
  exact ⟨Int.le_trans rows.1 rows.2, Int.le_trans columns.1 columns.2⟩

theorem positions_ne_nil {span : Span} (forward : span.Forward) : span.positions ≠ [] := by
  have corner : span.first ∈ span.positions :=
    mem_positions.mpr ⟨⟨Int.le_refl _, forward.1⟩, Int.le_refl _, forward.2⟩
  exact List.ne_nil_of_mem corner

end Span

namespace RangeEnd

variable {first last : RangeEnd}

def span (first last : RangeEnd) : Span :=
  ⟨first.position, last.position⟩

def cells (first last : RangeEnd) : List Piece :=
  (span first last).positions.map Position.piece

theorem exists_of_mem_positions {position : Position} (member : position ∈ (span first last).positions) :
    ∃ number column : Nat, position.row + 1 = number ∧ position.column = column ∧
      number ≤ Text.digitsValue last.row := by
  obtain ⟨⟨above, below⟩, left, _⟩ := Span.mem_positions.mp member
  obtain ⟨index, isColumn⟩ := Address.exists_columnOfName_singleton first.english
  change (Text.digitsValue first.row : Int) - 1 ≤ position.row at above
  change position.row ≤ (Text.digitsValue last.row : Int) - 1 at below
  change Address.columnOfName [first.column] ≤ position.column at left
  exact ⟨(position.row + 1).toNat, position.column.toNat, by omega, by omega, by omega⟩

theorem short_of_readable {number : Nat} (readable : last.Readable) (below : number ≤ Text.digitsValue last.row) :
    Text.Short number := by
  have bound := Text.digitsValue_lt last.digits
  have power : 10 ^ last.row.length ≤ 10 ^ Text.digitLimit := Nat.pow_le_pow_right (by decide) readable
  exact Text.short_of_lt (by omega)

theorem not_isBlank_of_mem_cells {piece : Piece} (member : piece ∈ cells first last) : piece.isBlank = false := by
  obtain ⟨position, _, rfl⟩ := List.mem_map.mp member
  exact position.not_isBlank_piece

theorem arguments_cells (readable : last.Readable) :
    (cells first last).map Piece.argument = (span first last).positions.map Argument.cell := by
  rw [cells, List.map_map]
  refine List.map_congr_left fun position member => ?_
  obtain ⟨number, column, row, index, below⟩ := exists_of_mem_positions member
  exact Position.argument_piece_of_short row index (short_of_readable readable below)

/-- Among plainly written rows the last is the longest. -/
theorem not_short_of_plain (forward : (span first last).Forward) (plain : first.Plain ∧ last.Plain)
    (long : ¬(first.Readable ∧ last.Readable)) : ¬Text.Short (Text.digitsValue last.row) := by
  have rows : Text.digitsValue first.row ≤ Text.digitsValue last.row := by
    have order : (Text.digitsValue first.row : Int) - 1 ≤ (Text.digitsValue last.row : Int) - 1 := forward.1
    omega
  intro short
  have firstShort := short.mono rows
  rw [Text.Short, ← plain.1] at firstShort
  rw [Text.Short, ← plain.2] at short
  exact long ⟨firstShort, short⟩

theorem exists_invalid_cell (forward : (span first last).Forward) (long : ¬Text.Short (Text.digitsValue last.row)) :
    ∃ piece ∈ cells first last, piece.argument = .invalid .unreadable := by
  obtain ⟨column, index⟩ := Address.exists_columnOfName_singleton first.english
  have corner : (⟨last.position.row, first.position.column⟩ : Position) ∈ (span first last).positions :=
    Span.mem_positions.mpr ⟨⟨forward.1, Int.le_refl _⟩, Int.le_refl _, forward.2⟩
  have row : last.position.row + 1 = (Text.digitsValue last.row : Int) := Int.sub_add_cancel _ 1
  exact ⟨_, List.mem_map_of_mem corner, Position.argument_piece_of_long row index long⟩

end RangeEnd

/-! ## Calls -/

def Builtin.answerOpened (builtin : Builtin) (ambient : Ambient) (opened : List Value) : Except Failure Answer :=
  match if builtin.acceptsErrors then none else Value.firstError (Value.flatten opened) with
  | some code => .ok (.error code)
  | none => do return Answer.ofValue (← builtin.run ambient opened)

theorem Builtin.answer_eq {builtin : Builtin} (flattens : builtin.flattens = true) (ambient : Ambient)
    (values : List Value) : builtin.answer ambient values = builtin.answerOpened ambient (Value.flatten values) := by
  obtain ⟨name, opens, acceptsErrors, volatile, run⟩ := builtin
  cases opens with
  | false => cases flattens
  | true => rfl

theorem Builtin.bind_answer {builtin : Builtin} (flattens : builtin.flattens = true) (ambient : Ambient)
    (values : Except Failure (List Value)) :
    values >>= builtin.answer ambient = values.map Value.flatten >>= builtin.answerOpened ambient := by
  cases values with
  | error failure => rfl
  | ok values => exact builtin.answer_eq flattens ambient values

namespace CallFrame

variable {builtin : Builtin} {setting : Setting} {view : View}

theorem result_congr (frame : CallFrame builtin) (flattens : builtin.flattens = true) {pieces others : List Piece}
    (same : Argument.openedAll setting view 0 builtin.acceptsErrors (Piece.arguments pieces) =
      Argument.openedAll setting view 0 builtin.acceptsErrors (Piece.arguments others)) :
    (evaluate setting view (frame.source pieces)).result = (evaluate setting view (frame.source others)).result := by
  rw [evaluate_source, evaluate_source]
  refine Formula.result_settle_congr _ _ _ ?_
  rw [frame.result_call, frame.result_call, Builtin.bind_answer flattens, Builtin.bind_answer flattens]
  exact congrArg (· >>= builtin.answerOpened setting.ambient) same

section

variable {range : Piece} {first last : RangeEnd} (written : range.text = first.text ++ ':' :: last.text)
  (before after : List Piece)

include written

theorem arguments_range : Piece.arguments (before ++ range :: after) =
    before.map Piece.argument ++ range.argument :: Piece.arguments after := by
  have visible : range.isBlank = false := by
    refine Piece.not_isBlank ?_ ?_
    · rw [written]
      exact List.append_ne_nil_of_right_ne_nil _ (List.cons_ne_nil _ _)
    · rw [written]
      exact first.not_isBlank_of_mem_range last
  exact Piece.arguments_append_cons before visible after

theorem arguments_range_of_readable (readable : first.Readable ∧ last.Readable) :
    Piece.arguments (before ++ range :: after) =
      before.map Piece.argument ++ .range (RangeEnd.span first last) :: Piece.arguments after := by
  have argument : range.argument = .range (RangeEnd.span first last) := by
    rw [Piece.argument, written]
    exact Argument.ofText_ends_of_readable readable.1 readable.2
  rw [arguments_range written, argument]

theorem result_range_of_long (frame : CallFrame builtin) (long : ¬(first.Readable ∧ last.Readable)) :
    (evaluate setting view (frame.source (before ++ range :: after))).result = .ok (.error .failure) := by
  have invalid : range.argument = .invalid .unreadable := by
    rw [Piece.argument, written, Argument.ofText_ends_of_long long]
  exact frame.result_of_invalid (List.mem_append_right _ List.mem_cons_self) invalid

theorem result_left_out (frame : CallFrame builtin) (flattens : builtin.flattens = true)
    (readable : first.Readable ∧ last.Readable) (backward : ¬(RangeEnd.span first last).Forward)
    (ends : ∀ final, (before ++ after).getLast? = some final → Text.strip final.text ≠ []) :
    (evaluate setting view (frame.source (before ++ after))).result =
      (evaluate setting view (frame.source (before ++ range :: after))).result := by
  have apart : Piece.arguments (before ++ after) = before.map Piece.argument ++ Piece.arguments after := by
    refine Piece.arguments_append fun final isLast none => ?_
    rw [none, List.append_nil] at ends
    exact List.isEmpty_eq_false_iff.mpr (ends final isLast)
  have replaced := @Argument.openedAll_append_range setting view 0 builtin.acceptsErrors
    (before.map Piece.argument) (Piece.arguments after) (RangeEnd.span first last)
  rw [Span.positions_eq_nil backward] at replaced
  refine frame.result_congr flattens ?_
  rw [apart, arguments_range_of_readable written _ _ readable]
  exact replaced

end

section

variable {first last : RangeEnd} (forward : (RangeEnd.span first last).Forward) (before after : List Piece)

include forward

theorem arguments_cells : Piece.arguments (before ++ (RangeEnd.cells first last ++ after)) =
    before.map Piece.argument ++ ((RangeEnd.cells first last).map Piece.argument ++ Piece.arguments after) := by
  have some : RangeEnd.cells first last ++ after ≠ [] := by
    refine List.append_ne_nil_of_left_ne_nil ?_ _
    exact mt List.map_eq_nil_iff.mp (Span.positions_ne_nil forward)
  rw [Piece.arguments_append fun _ _ empty => absurd empty some,
    Piece.arguments_append_of_visible fun _ => RangeEnd.not_isBlank_of_mem_cells]

theorem result_cells (frame : CallFrame builtin) (flattens : builtin.flattens = true) {range : Piece}
    (written : range.text = first.text ++ ':' :: last.text) (readable : first.Readable ∧ last.Readable) :
    (evaluate setting view (frame.source (before ++ (RangeEnd.cells first last ++ after)))).result =
      (evaluate setting view (frame.source (before ++ range :: after))).result := by
  refine frame.result_congr flattens ?_
  rw [arguments_cells forward, RangeEnd.arguments_cells readable.2, arguments_range_of_readable written _ _ readable]
  exact Argument.openedAll_append_range _ _ _

theorem result_cells_of_long (frame : CallFrame builtin) (long : ¬Text.Short (Text.digitsValue last.row)) :
    (evaluate setting view (frame.source (before ++ (RangeEnd.cells first last ++ after)))).result =
      .ok (.error .failure) := by
  obtain ⟨piece, member, invalid⟩ := RangeEnd.exists_invalid_cell forward long
  exact frame.result_of_invalid (List.mem_append_right _ (List.mem_append_left _ member)) invalid

end

end CallFrame

/-- A range as an argument of a function that opens its ranges means the addresses of its cells, row by row, and
nothing if it is written end before start. Over a row number with more digits than can be read the call fails,
and so it does over the address in that row. What is drawn meanwhile does not matter if no piece calls a changing
function. -/
theorem evaluate_range (setting : Setting) (view : View) {builtin : Builtin} (frame : CallFrame builtin)
    (steady : builtin.volatile = false) (flattens : builtin.flattens = true) (before after : List Piece) (range : Piece)
    (first last : RangeEnd) (written : range.text = first.text ++ ':' :: last.text) :
    let answer (pieces : List Piece) := (evaluate setting view (frame.source pieces)).result
    let span := RangeEnd.span first last
    (∀ position, position ∈ span.positions ↔
      (first.position.row ≤ position.row ∧ position.row ≤ last.position.row) ∧
        first.position.column ≤ position.column ∧ position.column ≤ last.position.column) ∧
    span.positions.Pairwise Position.Precedes ∧
    (∀ (position : Position) (name : Text), position.name = .ok name → position.piece.text = name) ∧
    (first.Readable ∧ last.Readable ∨ first.Plain ∧ last.Plain ∨ ¬Text.Short (Text.digitsValue last.row) →
      span.Forward →
        answer (before ++ (span.positions.map Position.piece ++ after)) = answer (before ++ range :: after)) ∧
    (first.Readable ∧ last.Readable → ¬span.Forward →
      (∀ final, (before ++ after).getLast? = some final → Text.strip final.text ≠ []) →
        answer (before ++ after) = answer (before ++ range :: after)) ∧
    (¬(first.Readable ∧ last.Readable) → answer (before ++ range :: after) = .ok (.error .failure)) ∧
    ∀ later : Setting, setting.Alike later → ∀ pieces : List Piece,
      (∀ piece ∈ pieces, piece.argument.isVolatile = false) →
        answer pieces = (evaluate later view (frame.source pieces)).result := by
  intro answer span
  refine ⟨fun position => Span.mem_positions, span.pairwise_positions,
    fun position name named => (Position.name_eq_ok_address.mp named).2.symm, ?_, ?_, ?_, ?_⟩
  · intro rows forward
    by_cases readable : first.Readable ∧ last.Readable
    · exact CallFrame.result_cells forward before after frame flattens written readable
    · have long : ¬Text.Short (Text.digitsValue last.row) := by
        rcases rows.resolve_left readable with plain | long
        · exact RangeEnd.not_short_of_plain forward plain readable
        · exact long
      calc answer (before ++ (span.positions.map Position.piece ++ after))
          = .ok (.error .failure) :=
            CallFrame.result_cells_of_long forward before after frame long
        _ = answer (before ++ range :: after) :=
            (CallFrame.result_range_of_long written before after frame readable).symm
  · intro readable backward ends
    exact CallFrame.result_left_out written before after frame flattens readable backward ends
  · intro long
    exact CallFrame.result_range_of_long written before after frame long
  · intro later alike pieces allSteady
    exact congrArg Outcome.result (frame.evaluate_steady steady alike allSteady)

namespace RangeEnd

def a1 : RangeEnd := ⟨'a', ['1'], by decide, by decide, List.all_eq_true.mp (by decide)⟩

def b2 : RangeEnd := ⟨'B', ['2'], by decide, by decide, List.all_eq_true.mp (by decide)⟩

def far : RangeEnd where
  column := 'A'
  row := List.replicate 4301 '1'
  english := by decide
  numbered := List.cons_ne_nil _ _
  digits := by
    intro char member
    rw [(List.mem_replicate.mp member).2]
    decide

end RangeEnd

def CallFrame.sum : CallFrame (.plain "SUM" (Builtin.numeric Number.sum)) where
  lead := []
  name := ['S', 'u', 'm']
  gap := []
  tail := []
  named := List.cons_ne_nil _ _
  letters := List.all_eq_true.mp (by decide)
  blankLead := Text.blank_nil
  blankGap := Text.blank_nil
  blankTail := Text.blank_nil
  found := rfl

def Piece.one : Piece := .ofWord ['1'] (by decide)

def Sheet.corners : Sheet :=
  [("0,0".toList, .cell { value := .integer 3 }), ("1,1".toList, .cell { value := .integer 5 })]

theorem evaluate_range_square :
    (evaluate ⟨64, ⟨0, 0, .utc⟩⟩ Sheet.corners.view (CallFrame.sum.source
        [.one, Position.piece ⟨0, 0⟩, Position.piece ⟨0, 1⟩, Position.piece ⟨1, 0⟩, Position.piece ⟨1, 1⟩])).result =
      (evaluate ⟨64, ⟨0, 0, .utc⟩⟩ Sheet.corners.view (CallFrame.sum.source [.one, RangeEnd.piece .a1 .b2])).result ∧
    (evaluate ⟨64, ⟨0, 0, .utc⟩⟩ Sheet.corners.view (CallFrame.sum.source [.one])).result =
      (evaluate ⟨64, ⟨0, 0, .utc⟩⟩ Sheet.corners.view (CallFrame.sum.source [.one, RangeEnd.piece .b2 .a1])).result := by
  have readable : RangeEnd.a1.Readable ∧ RangeEnd.b2.Readable := by decide
  obtain ⟨_, _, _, opened, _⟩ := evaluate_range ⟨64, ⟨0, 0, .utc⟩⟩ Sheet.corners.view CallFrame.sum rfl rfl [.one] []
    (RangeEnd.piece .a1 .b2) .a1 .b2 rfl
  obtain ⟨_, _, _, _, leftOut, _⟩ := evaluate_range ⟨64, ⟨0, 0, .utc⟩⟩ Sheet.corners.view CallFrame.sum rfl rfl [.one] []
    (RangeEnd.piece .b2 .a1) .b2 .a1 rfl
  have positions : (RangeEnd.span .a1 .b2).positions = [⟨0, 0⟩, ⟨0, 1⟩, ⟨1, 0⟩, ⟨1, 1⟩] := by decide +kernel
  have square := opened (Or.inl readable) (by decide +kernel)
  rw [positions] at square
  exact ⟨square, leftOut readable.symm (by decide +kernel) (by decide)⟩

theorem evaluate_range_far :
    ¬(RangeEnd.span .far .a1).Forward ∧
    (evaluate ⟨64, ⟨0, 0, .utc⟩⟩ (Sheet.view []) (CallFrame.sum.source [.one])).result = .ok (.value (.integer 1)) ∧
    (evaluate ⟨64, ⟨0, 0, .utc⟩⟩ (Sheet.view []) (CallFrame.sum.source [.one, RangeEnd.piece .far .a1])).result =
      .ok (.error .failure) := by
  refine ⟨by decide +kernel, by decide +kernel, ?_⟩
  exact CallFrame.result_range_of_long rfl [.one] [] .sum (by decide +kernel)

end Worksheet
