import Worksheet.Proofs.CellName
import Worksheet.Proofs.Sheet.Run
import Worksheet.Proofs.Sheet.Table

/-! Sheets of texts. Such a sheet is written as the table from the first cell to its last row and column, and is read
back from it: a text comes back under the key at which it stood, and the blank fields make no cell. -/

namespace Worksheet

/-- A cell that holds a text, which is no formula, and nothing that would be shown in its place. -/
structure Cell.IsText (cell : Cell) (text : Text) : Prop where
  value : cell.value = .text text
  formula : cell.formula = none
  displayValue : cell.displayValue = none
  error : cell.error = none
  present : text ≠ []
  plain : Sheet.isFormula text = false

theorem Cell.IsText.shown {cell : Cell} {text : Text} (holds : cell.IsText text) : cell.shown = .ok text := by
  simp [Cell.shown, Cell.error?, holds.error, holds.displayValue, holds.value, Value.toText]

namespace Sheet

def keyAt (row column : Nat) : Text :=
  Text.ofNat row ++ ',' :: Text.ofNat column

structure OfTexts (sheet : Sheet) : Prop where
  distinct : (sheet.map (·.1)).Nodup
  placed : ∀ entry ∈ sheet, ∃ row column : Nat, Position.key ⟨row, column⟩ = .ok entry.1
  texts : ∀ entry ∈ sheet, ∃ cell text, entry.2.toCell = .ok cell ∧ cell.IsText text

def textAt? (sheet : Sheet) (key : Text) : Option Text :=
  (sheet.cellAt? key).bind fun cell =>
    match cell.value with
    | .text text => some text
    | _ => none

variable {sheet : Sheet}

theorem key_eq_keyAt {row column : Nat} {key : Text} (written : Position.key ⟨row, column⟩ = .ok key) :
    key = keyAt row column := by
  obtain ⟨_, equal⟩ := Position.key_eq_ok.mp written
  simpa [keyAt] using equal

theorem keyAt_inj {row column otherRow otherColumn : Nat} (same : keyAt row column = keyAt otherRow otherColumn) :
    row = otherRow ∧ column = otherColumn := by
  have absent (number : Nat) : ',' ∉ Text.ofNat number :=
    Text.notMem_of_digits (Text.digits_ofNat _) (by decide)
  have pieces : [Text.ofNat row, Text.ofNat column] = [Text.ofNat otherRow, Text.ofNat otherColumn] := by
    rw [← Text.splitOn_pair (absent row) (absent column), ← Text.splitOn_pair (absent _) (absent _)]
    exact congrArg _ same
  obtain ⟨rows, columns⟩ := List.cons.inj pieces
  exact ⟨Text.ofNat_inj rows, Text.ofNat_inj (List.cons.inj columns).1⟩

/-! ## What a sheet of texts shows -/

namespace OfTexts

theorem lookup_cases (grid : sheet.OfTexts) (key : Text) :
    (sheet.lookup? key = none ∧ sheet.textAt? key = none) ∨
      ∃ entry cell text, sheet.lookup? key = some entry ∧ entry.toCell = .ok cell ∧ cell.IsText text ∧
        sheet.textAt? key = some text := by
  cases found : sheet.lookup? key with
  | none => exact Or.inl ⟨rfl, by simp [textAt?, cellAt?, found]⟩
  | some entry =>
    obtain ⟨cell, text, converted, holds⟩ := grid.texts _ (mem_of_lookup found)
    refine Or.inr ⟨entry, cell, text, rfl, converted, holds, ?_⟩
    simp [textAt?, cellAt?, found, converted, Except.toOption, holds.value]

theorem present (grid : sheet.OfTexts) {key text : Text} (found : sheet.textAt? key = some text) :
    text ≠ [] ∧ isFormula text = false ∧ key ∈ sheet.map (·.1) := by
  obtain ⟨_, absent⟩ | ⟨entry, cell, own, held, _, holds, equal⟩ := grid.lookup_cases key
  · rw [absent] at found
    cases found
  · rw [equal] at found
    cases found
    exact ⟨holds.present, holds.plain, List.mem_map.mpr ⟨_, mem_of_lookup held, rfl⟩⟩

theorem shownAt (grid : sheet.OfTexts) {row column : Nat} {key : Text}
    (written : Position.key ⟨row, column⟩ = .ok key) : sheet.shownAt row column = .ok (sheet.textAt? key) := by
  unfold Sheet.shownAt display
  obtain ⟨absent, blank⟩ | ⟨entry, cell, text, held, converted, holds, equal⟩ := grid.lookup_cases key
  · simp [written, absent, blank, bind, Except.bind, pure, Except.pure]
  · simp [written, held, converted, holds.shown, equal, holds.present, bind, Except.bind, pure, Except.pure]

end OfTexts

/-! ## The corners of a sheet -/

theorem lt_extent {numbers : List Int} {number : Nat} :
    number < extent numbers ↔ ∃ other ∈ numbers, (number : Int) ≤ other := by
  cases numbers with
  | nil => simp [extent]
  | cons first rest =>
    have greatest : (first :: rest).max? = some (rest.foldl max first) := rfl
    obtain ⟨member, above⟩ := List.max?_eq_some_iff.mp greatest
    simp only [extent]
    constructor
    · intro below
      exact ⟨_, member, by omega⟩
    · rintro ⟨other, held, below⟩
      have := above other held
      omega

theorem positionsOf_of_placed (placed : ∀ entry ∈ sheet, ∃ row column : Nat, Position.key ⟨row, column⟩ = .ok entry.1) :
    ∃ positions, sheet.positionsOf = .ok positions ∧
      ∀ position : Position, position ∈ positions ↔ ∃ entry ∈ sheet, position.key = .ok entry.1 := by
  induction sheet with
  | nil => exact ⟨[], rfl, by simp⟩
  | cons first rest ih =>
    obtain ⟨name, entry⟩ := first
    obtain ⟨⟨row, column, written⟩, later⟩ := List.forall_mem_cons.mp placed
    obtain ⟨positions, converted, members⟩ := ih later
    refine ⟨⟨row, column⟩ :: positions, ?_, fun position => ?_⟩
    · simp only [positionsOf, Position.ofKey_of_key written, converted]
      rfl
    · simp only [List.mem_cons, members, exists_eq_or_imp]
      refine or_congr_left ⟨?_, fun key => Position.key_inj key written⟩
      rintro rfl
      exact written

theorem lt_extent_map {positions : List Position}
    (members : ∀ position : Position, position ∈ positions ↔ ∃ entry ∈ sheet, position.key = .ok entry.1)
    (coordinate : Position → Int) (number : Nat) :
    number < extent (positions.map coordinate) ↔
      ∃ entry ∈ sheet, ∃ position : Position, position.key = .ok entry.1 ∧ (number : Int) ≤ coordinate position := by
  rw [lt_extent]
  constructor
  · rintro ⟨other, held, below⟩
    obtain ⟨position, listed, rfl⟩ := List.mem_map.mp held
    obtain ⟨entry, member, written⟩ := (members position).mp listed
    exact ⟨entry, member, position, written, below⟩
  · rintro ⟨entry, member, position, written, below⟩
    exact ⟨_, List.mem_map.mpr ⟨position, (members position).mpr ⟨entry, member, written⟩, rfl⟩, below⟩

/-- The column from which on nothing is held, and the row. -/
structure Corner (sheet : Sheet) (width height : Nat) : Prop where
  column_lt : ∀ column : Nat, column < width ↔
    ∃ entry ∈ sheet, ∃ position : Position, position.key = .ok entry.1 ∧ (column : Int) ≤ position.column
  row_lt : ∀ row : Nat, row < height ↔
    ∃ entry ∈ sheet, ∃ position : Position, position.key = .ok entry.1 ∧ (row : Int) ≤ position.row

namespace Corner

variable {width height : Nat}

theorem inside (corner : Corner sheet width height) {row column : Nat} {entry : Text × Entry} (member : entry ∈ sheet)
    (written : Position.key ⟨row, column⟩ = .ok entry.1) : row < height ∧ column < width :=
  ⟨(corner.row_lt row).mpr ⟨entry, member, _, written, Int.le_refl _⟩,
    (corner.column_lt column).mpr ⟨entry, member, _, written, Int.le_refl _⟩⟩

theorem key_eq (corner : Corner sheet width height) {row column : Nat} (rowInside : row < height)
    (columnInside : column < width) : Position.key ⟨row, column⟩ = .ok (keyAt row column) := by
  obtain ⟨_, _, lastRow, rowWritten, rowBelow⟩ := (corner.row_lt row).mp rowInside
  obtain ⟨_, _, lastColumn, columnWritten, columnBelow⟩ := (corner.column_lt column).mp columnInside
  obtain ⟨⟨rowShort, _⟩, _⟩ := Position.key_eq_ok.mp rowWritten
  obtain ⟨⟨_, columnShort⟩, _⟩ := Position.key_eq_ok.mp columnWritten
  have rowBound : row ≤ lastRow.row.natAbs := by omega
  have columnBound : column ≤ lastColumn.column.natAbs := by omega
  exact Position.key_eq_ok.mpr ⟨⟨Nat.le_trans (Text.length_ofNat_le rowBound) rowShort,
    Nat.le_trans (Text.length_ofNat_le columnBound) columnShort⟩, by simp [keyAt]⟩

end Corner

def textRows (sheet : Sheet) (width height : Nat) : List (List (Option Text)) :=
  (List.range height).map fun row => (List.range width).map fun column => sheet.textAt? (keyAt row column)

theorem OfTexts.toTable (grid : sheet.OfTexts) (nonempty : sheet ≠ []) :
    ∃ width height table, Corner sheet width height ∧ sheet.toTable = .ok table ∧
      table.names = (List.range width).map (fun (column : Nat) => Address.columnName column) ∧
      table.rows = sheet.textRows width height := by
  obtain ⟨positions, converted, members⟩ := positionsOf_of_placed grid.placed
  have corner : Corner sheet (extent (positions.map (·.column))) (extent (positions.map (·.row))) :=
    ⟨lt_extent_map members (·.column), lt_extent_map members (·.row)⟩
  refine ⟨_, _, ⟨_, _⟩, corner, ?_, rfl, rfl⟩
  have spans : extent (positions.map (·.column)) ≠ 0 := by
    obtain ⟨entry, member⟩ := List.exists_mem_of_ne_nil sheet nonempty
    obtain ⟨row, column, written⟩ := grid.placed entry member
    exact Nat.ne_of_gt (Nat.zero_lt_of_lt (corner.inside member written).2)
  unfold Sheet.toTable
  simp only [converted, if_neg spans, bind, Except.bind, pure, Except.pure]
  generalize extent (positions.map (·.column)) = width at corner
  generalize extent (positions.map (·.row)) = height at corner
  have columns : ((List.range width).mapM fun column => (List.range height).mapM fun row => sheet.shownAt row column)
      = .ok ((List.range width).map fun column => (List.range height).map fun row =>
        sheet.textAt? (keyAt row column)) := by
    refine mapM_eq_ok_map fun column columnInside => mapM_eq_ok_map fun row rowInside => ?_
    exact grid.shownAt (corner.key_eq (List.mem_range.mp rowInside) (List.mem_range.mp columnInside))
  have rows : ∀ row ∈ List.range height,
      (((List.range width).map fun column => (List.range height).map fun row =>
        sheet.textAt? (keyAt row column)).map fun column => column.getD row none)
      = (List.range width).map fun column => sheet.textAt? (keyAt row column) := by
    intro row rowInside
    rw [List.map_map]
    refine List.map_congr_left fun column _ => ?_
    simp [List.mem_range.mp rowInside]
  rw [columns]
  simp only [List.map_congr_left rows]

/-! ## What is read back -/

theorem mem_rowCells {row column : Nat} {fields : List (Option Text)} {key : Text} {entry : Entry} :
    (key, entry) ∈ rowCells row column fields ↔
      ∃ offset text, fields[offset]? = some (some text) ∧ text ≠ [] ∧ key = keyAt row (column + offset) ∧
        entry = entryOfField text := by
  induction fields generalizing column with
  | nil => simp [rowCells]
  | cons first fields ih =>
    have later : (key, entry) ∈ rowCells row (column + 1) fields ↔
        ∃ offset text, (first :: fields)[offset + 1]? = some (some text) ∧ text ≠ [] ∧
          key = keyAt row (column + (offset + 1)) ∧ entry = entryOfField text := by
      simp only [ih, List.getElem?_cons_succ, Nat.add_assoc, Nat.add_comm 1]
    rw [← Nat.or_exists_add_one, ← later]
    cases first with
    | none => simp [rowCells]
    | some text =>
      have own : (∃ field, (some text :: fields)[0]? = some (some field) ∧ field ≠ [] ∧ key = keyAt row (column + 0) ∧
          entry = entryOfField field) ↔ text ≠ [] ∧ key = keyAt row column ∧ entry = entryOfField text := by
        simp
      rw [own, rowCells]
      split
      next blank => simp [List.isEmpty_iff.mp blank]
      next filled =>
        have present : text ≠ [] := fun blank => filled (List.isEmpty_iff.mpr blank)
        simp [present, keyAt]

theorem mem_rowsCells {start : Nat} {rows : List (List (Option Text))} {key : Text} {entry : Entry} :
    (key, entry) ∈ rowsCells start rows ↔
      ∃ row column text, (rows[row]?.bind (·[column]?)) = some (some text) ∧ text ≠ [] ∧
        key = keyAt (start + row) column ∧ entry = entryOfField text := by
  induction rows generalizing start with
  | nil => simp [rowsCells]
  | cons first rows ih =>
    have own : (key, entry) ∈ rowCells start 0 first ↔
        ∃ column text, ((first :: rows)[0]?.bind (·[column]?)) = some (some text) ∧ text ≠ [] ∧
          key = keyAt (start + 0) column ∧ entry = entryOfField text := by
      simp [mem_rowCells]
    have later : (key, entry) ∈ rowsCells (start + 1) rows ↔
        ∃ row column text, ((first :: rows)[row + 1]?.bind (·[column]?)) = some (some text) ∧ text ≠ [] ∧
          key = keyAt (start + (row + 1)) column ∧ entry = entryOfField text := by
      simp only [ih, List.getElem?_cons_succ, Nat.add_assoc, Nat.add_comm 1]
    rw [rowsCells, List.mem_append, own, later,
      ← Nat.or_exists_add_one (p := fun row => ∃ column text,
        ((first :: rows)[row]?.bind (·[column]?)) = some (some text) ∧ text ≠ [] ∧
          key = keyAt (start + row) column ∧ entry = entryOfField text)]

theorem nodup_rowCells (row column : Nat) (fields : List (Option Text)) :
    ((rowCells row column fields).map (·.1)).Nodup := by
  induction fields generalizing column with
  | nil => exact List.nodup_nil
  | cons first fields ih =>
    cases first with
    | none => exact ih _
    | some text =>
      rw [rowCells]
      split
      · exact ih _
      · refine List.nodup_cons.mpr ⟨fun member => ?_, ih _⟩
        obtain ⟨⟨key, entry⟩, held, same⟩ := List.mem_map.mp member
        obtain ⟨offset, _, _, _, rfl, _⟩ := mem_rowCells.mp held
        have := (keyAt_inj same).2
        omega

theorem nodup_rowsCells (start : Nat) (rows : List (List (Option Text))) :
    ((rowsCells start rows).map (·.1)).Nodup := by
  induction rows generalizing start with
  | nil => exact List.nodup_nil
  | cons first rows ih =>
    rw [rowsCells, List.map_append]
    refine List.nodup_append'.mpr ⟨nodup_rowCells _ _ _, ih _, fun key member later => ?_⟩
    obtain ⟨⟨_, entry⟩, held, rfl⟩ := List.mem_map.mp member
    obtain ⟨⟨_, other⟩, below, same⟩ := List.mem_map.mp later
    obtain ⟨offset, _, _, _, rfl, _⟩ := mem_rowCells.mp held
    obtain ⟨row, column, _, _, _, rfl, _⟩ := mem_rowsCells.mp below
    have := (keyAt_inj same).1
    omega

theorem length_of_mem_textRows {width height : Nat} {row : List (Option Text)}
    (member : row ∈ sheet.textRows width height) : row.length = width := by
  obtain ⟨_, _, rfl⟩ := List.mem_map.mp member
  rw [List.length_map, List.length_range]

theorem textRows_begins (sheet : Sheet) {width height : Nat} (wide : 2 ≤ width) (tall : 0 < height) :
    ∃ fields others, sheet.textRows width height = (sheet.textAt? (keyAt 0 0) :: fields) :: others ∧ fields ≠ [] := by
  obtain ⟨width, rfl⟩ := Nat.exists_eq_add_of_le' wide
  obtain ⟨height, rfl⟩ := Nat.exists_eq_add_of_le' tall
  have columns (row : Nat) : (List.range (width + 2)).map (fun column => sheet.textAt? (keyAt row column))
      = sheet.textAt? (keyAt row 0) :: ((List.range (width + 1)).map Nat.succ).map
        fun column => sheet.textAt? (keyAt row column) := by
    rw [List.range_succ_eq_map, List.map_cons]
  have rows : sheet.textRows (width + 2) (height + 1)
      = (List.range (width + 2)).map (fun column => sheet.textAt? (keyAt 0 column))
        :: ((List.range height).map Nat.succ).map fun row => (List.range (width + 2)).map
          fun column => sheet.textAt? (keyAt row column) := by
    rw [textRows, List.range_succ_eq_map (n := height), List.map_cons]
  rw [columns 0] at rows
  exact ⟨_, _, rows, by simp⟩

theorem textRows_getElem (sheet : Sheet) (width height row column : Nat) :
    ((sheet.textRows width height)[row]?.bind (·[column]?))
      = if row < height ∧ column < width then some (sheet.textAt? (keyAt row column)) else none := by
  by_cases rowInside : row < height
  · by_cases columnInside : column < width
    · simp [textRows, rowInside, columnInside]
    · simp [textRows, rowInside, columnInside]
  · simp [textRows, rowInside]

theorem OfTexts.lookup_rowsCells (grid : sheet.OfTexts) {width height : Nat} (corner : Corner sheet width height)
    (key : Text) :
    (rowsCells 0 (sheet.textRows width height)).lookup? key
      = (sheet.textAt? key).map fun text => .cell { value := .text text } := by
  refine Option.ext fun entry => ?_
  rw [lookup_eq_some (nodup_rowsCells _ _), mem_rowsCells, Option.map_eq_some_iff]
  simp only [textRows_getElem, Option.ite_none_right_eq_some, Option.some.injEq, Nat.zero_add]
  constructor
  · rintro ⟨row, column, text, ⟨-, found⟩, filled, rfl, rfl⟩
    exact ⟨text, found, by simp [entryOfField, (grid.present found).2.1]⟩
  · rintro ⟨text, found, rfl⟩
    obtain ⟨filled, plain, held⟩ := grid.present found
    obtain ⟨entry, member, rfl⟩ := List.mem_map.mp held
    obtain ⟨row, column, written⟩ := grid.placed entry member
    have named := key_eq_keyAt written
    exact ⟨row, column, text, ⟨corner.inside member written, by simp [← named, found]⟩, filled, named,
      by simp [entryOfField, plain]⟩

theorem OfTexts.textRows_facts (grid : sheet.OfTexts) {width height : Nat} (corner : Corner sheet width height)
    (nonempty : sheet ≠ []) :
    (∀ row ∈ sheet.textRows width height, some [] ∉ row) ∧
      ∃ row ∈ sheet.textRows width height, ∃ text, some text ∈ row := by
  constructor
  · intro row member held
    obtain ⟨_, _, rfl⟩ := List.mem_map.mp member
    obtain ⟨_, _, found⟩ := List.mem_map.mp held
    exact (grid.present found).1 rfl
  · obtain ⟨entry, member⟩ := List.exists_mem_of_ne_nil sheet nonempty
    obtain ⟨row, column, written⟩ := grid.placed entry member
    obtain ⟨rowInside, columnInside⟩ := corner.inside member written
    obtain ⟨absent, _⟩ | ⟨_, _, text, _, _, _, found⟩ := grid.lookup_cases entry.1
    · exact absurd (List.mem_map_of_mem member) (lookup_eq_none.mp absent)
    · rw [key_eq_keyAt written] at found
      exact ⟨_, List.mem_map_of_mem (List.mem_range.mpr rowInside), text,
        List.mem_map.mpr ⟨column, List.mem_range.mpr columnInside, found⟩⟩

/-- With a library that keeps to its documented rules a sheet of texts that spans two columns or more is read back
from its table as it was: the columns of the table have names of their own, every text comes back under its key, and
no other cell is made. -/
theorem ofTableText_toTable {library : Table.Library} (documented : library.Documented ',') (grid : sheet.OfTexts)
    (wide : ∃ entry ∈ sheet, ∃ row column : Nat, 1 ≤ column ∧ Position.key ⟨row, column⟩ = .ok entry.1)
    (unmarked : ∀ text, sheet.textAt? (keyAt 0 0) = some text → text.head? ≠ some Table.byteOrderMark) :
    ∃ table written loaded, sheet.toTable = .ok table ∧ table.names.Nodup ∧
      sheet.toTableText library [','] = .ok written ∧ ofTableText library [','] written = .ok loaded ∧
      (loaded.map (·.1)).Nodup ∧
      ∀ key, loaded.lookup? key = (sheet.textAt? key).map fun text => .cell { value := .text text } := by
  obtain ⟨corner, member, lastRow, lastColumn, far, written⟩ := wide
  have nonempty : sheet ≠ [] := List.ne_nil_of_mem member
  obtain ⟨width, height, table, inside, shown, names, rows⟩ := grid.toTable nonempty
  obtain ⟨tall, wide⟩ := inside.inside member written
  obtain ⟨fields, others, begins, _⟩ := sheet.textRows_begins (show 2 ≤ width by omega) (Nat.zero_lt_of_lt tall)
  obtain ⟨present, filled⟩ := grid.textRows_facts inside nonempty
  have named : table.names ≠ [] := by
    rw [names]
    simpa using Nat.ne_of_gt (Nat.zero_lt_of_lt wide)
  have even : ∀ row ∈ table.rows, row.length = table.names.length := by
    rw [rows, names, List.length_map, List.length_range]
    exact fun row => length_of_mem_textRows
  rw [← rows] at present filled
  obtain ⟨text, wrote, read⟩ := documented.read_write (by decide) (rows.trans begins) named even present filled unmarked
  rw [rows] at read
  refine ⟨table, text, _, shown, ?_, ?_, ?_, nodup_rowsCells 0 _, grid.lookup_rowsCells inside⟩
  · rw [names]
    exact List.Nodup.map (fun _ _ => Address.columnName_inj) List.nodup_range
  · rw [toTableText, shown]
    exact wrote
  · rw [ofTableText, read]
    rfl

theorem ofTableText_toTable_marks :
    let sheet : Sheet := [("0,0".toList, .cell { value := .text "a,\"b".toList }),
      ("1,1".toList, .cell { value := .text " \r".toList })]
    ∃ loaded, ofTableText .standard [','] "\"a,\"\"b\",\n,\" \r\"\n".toList = .ok loaded ∧
      (loaded.map (·.1)).Nodup ∧
      ∀ key, loaded.lookup? key = (sheet.textAt? key).map fun text => .cell { value := .text text } := by
  intro sheet
  have grid : sheet.OfTexts := by
    refine ⟨by decide, ?_, ?_⟩
    · simp only [sheet, List.forall_mem_cons]
      exact ⟨⟨0, 0, by decide⟩, ⟨1, 1, by decide⟩, by simp⟩
    · simp only [sheet, List.forall_mem_cons]
      exact ⟨⟨_, "a,\"b".toList, rfl, ⟨rfl, rfl, rfl, rfl, by decide, by decide⟩⟩,
        ⟨_, " \r".toList, rfl, ⟨rfl, rfl, rfl, rfl, by decide, by decide⟩⟩, by simp⟩
  have wide : ∃ entry ∈ sheet, ∃ row column : Nat, 1 ≤ column ∧ Position.key ⟨row, column⟩ = .ok entry.1 :=
    ⟨_, List.mem_cons_of_mem _ List.mem_cons_self, 1, 1, by decide, by decide⟩
  have unmarked : ∀ text, sheet.textAt? (keyAt 0 0) = some text → text.head? ≠ some Table.byteOrderMark := by
    intro text found
    have held : sheet.textAt? (keyAt 0 0) = some "a,\"b".toList := by rfl
    rw [held] at found
    cases found
    decide
  have documented : Table.Library.standard.Documented ',' := Table.documented_standard ⟨by decide, by decide, by decide⟩
  obtain ⟨table, written, loaded, -, -, wrote, read, distinct, same⟩ :=
    ofTableText_toTable documented grid wide unmarked
  have text : sheet.toTableText .standard [','] = .ok "\"a,\"\"b\",\n,\" \r\"\n".toList := by rfl
  rw [← Except.ok.inj (text.symm.trans wrote)] at read
  exact ⟨loaded, read, distinct, same⟩

end Sheet

end Worksheet
