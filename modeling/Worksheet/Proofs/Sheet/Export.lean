import Worksheet.Proofs.Number.Displayed
import Worksheet.Proofs.Sheet.Texts

/-! Sheets that are exported as they are shown and loaded again. A text shown at a position comes back under the key
of this position, whatever else the sheet shows; only at the start of the table a byte order mark is lost. A number
that a formula gave is a text from then on, and this text stands for the number. -/

namespace Worksheet

namespace Sheet

variable {sheet : Sheet} {table : Table} {row column : Nat} {key text : Text}

/-! ## The table of a sheet -/

theorem mem_of_positionsOf {positions : List Position} (converted : sheet.positionsOf = .ok positions) {position : Position}
    (named : position.key = .ok key) (held : key ∈ sheet.map (·.1)) : position ∈ positions := by
  induction sheet generalizing positions with
  | nil => cases held
  | cons first rest ih =>
    obtain ⟨name, entry⟩ := first
    obtain ⟨own, read, onward⟩ := bind_eq_ok.mp converted
    obtain ⟨others, later, same⟩ := bind_eq_ok.mp onward
    cases same
    rcases List.mem_cons.mp held with rfl | below
    · rw [Position.ofKey_of_key named] at read
      cases read
      exact List.mem_cons_self
    · exact List.mem_cons_of_mem _ (ih later below)

theorem exists_of_mapM_range {β : Type} {read : Nat → Except Failure β} {count : Nat} {values : List β}
    (mapped : (List.range count).mapM read = .ok values) {index : Nat} (inside : index < count) :
    ∃ value, read index = .ok value ∧ values[index]? = some value := by
  have each := mapM_eq_ok.mp mapped
  have within : index < values.length := by rwa [← each.length_eq, List.length_range]
  refine ⟨_, ?_, List.getElem?_eq_getElem within⟩
  simpa using each.get (by simpa using inside) within

theorem shownAt_ne_blank {field : Option Text} (shown : sheet.shownAt row column = .ok field) : field ≠ some [] := by
  obtain ⟨text, _, same⟩ := bind_eq_ok.mp shown
  cases text with
  | nil =>
    cases same
    exact nofun
  | cons char rest =>
    cases same
    exact fun blank => List.cons_ne_nil char rest (Option.some.inj blank)

theorem toTable_present (exported : sheet.toTable = .ok table) : ∀ fields ∈ table.rows, some [] ∉ fields := by
  obtain ⟨positions, _, onward⟩ := bind_eq_ok.mp exported
  obtain ⟨columns, shown, same⟩ := bind_eq_ok.mp onward
  cases same
  intro fields listed held
  obtain ⟨row, _, rfl⟩ := List.mem_map.mp listed
  obtain ⟨column, member, blank⟩ := List.mem_map.mp held
  obtain ⟨number, _, read⟩ := exists_of_mem_mapM shown member
  have inside : some [] ∈ column := by
    rw [List.getD_eq_getElem?_getD] at blank
    cases place : column[row]? with
    | none =>
      rw [place] at blank
      cases blank
    | some field =>
      rw [place] at blank
      exact List.mem_of_getElem? (place.trans (congrArg some blank))
  obtain ⟨index, _, own⟩ := exists_of_mem_mapM read inside
  exact shownAt_ne_blank own rfl

theorem toTable_shows (exported : sheet.toTable = .ok table) (named : Position.key ⟨row, column⟩ = .ok key)
    (held : key ∈ sheet.map (·.1)) :
    (∀ fields ∈ table.rows, fields.length = table.names.length) ∧
      ∃ field, sheet.shownAt row column = .ok field ∧ (table.rows[row]?.bind (·[column]?)) = some field := by
  obtain ⟨positions, converted, onward⟩ := bind_eq_ok.mp exported
  obtain ⟨columns, shown, same⟩ := bind_eq_ok.mp onward
  have member := mem_of_positionsOf converted named held
  have columnInside : column < extent (positions.map (·.column)) :=
    lt_extent.mpr ⟨_, List.mem_map_of_mem member, Int.le_refl _⟩
  have rowInside : row < extent (positions.map (·.row)) := lt_extent.mpr ⟨_, List.mem_map_of_mem member, Int.le_refl _⟩
  rw [if_neg (by omega)] at shown same
  generalize extent (positions.map (·.column)) = width at *
  generalize extent (positions.map (·.row)) = height at *
  cases same
  have lengths : columns.length = width := by rw [← (mapM_eq_ok.mp shown).length_eq, List.length_range]
  refine ⟨fun fields listed => ?_, ?_⟩
  · obtain ⟨_, _, rfl⟩ := List.mem_map.mp listed
    simp [lengths]
  · obtain ⟨fields, inColumn, place⟩ := exists_of_mapM_range shown columnInside
    obtain ⟨field, own, found⟩ := exists_of_mapM_range inColumn rowInside
    exact ⟨field, own, by simp [rowInside, place, found]⟩

/-! ## What is loaded -/

theorem mem_keys_of_display (named : Position.key ⟨row, column⟩ = .ok key) (shown : sheet.display ⟨row, column⟩ = .ok text)
    (present : text ≠ []) : key ∈ sheet.map (·.1) := by
  by_contra absent
  rw [← lookup_eq_none] at absent
  simp only [display, named, absent, bind, Except.bind, pure, Except.pure] at shown
  exact present (Except.ok.inj shown).symm

theorem shownAt_of_display (shown : sheet.display ⟨row, column⟩ = .ok text) (present : text ≠ []) :
    sheet.shownAt row column = .ok (some text) := by
  simp [shownAt, shown, present, bind, Except.bind, pure, Except.pure]

variable {library : Table.Library} {delimiter : Char} {written : Text}

theorem exists_loaded (documented : library.Documented delimiter) (isDelimiter : Table.IsDelimiter delimiter)
    (exported : sheet.toTableText library [delimiter] = .ok written)
    (named : Position.key ⟨row, column⟩ = .ok key) (shown : sheet.display ⟨row, column⟩ = .ok text) (present : text ≠ [])
    (unmarked : text.head? ≠ some Table.byteOrderMark) :
    ∃ loaded, ofTableText library [delimiter] written = .ok loaded ∧ loaded.lookup? key = some (entryOfField text) := by
  obtain ⟨table, drawn, wrote⟩ := bind_eq_ok.mp exported
  obtain ⟨even, field, own, place⟩ := toTable_shows drawn named (mem_keys_of_display named shown present)
  rw [shownAt_of_display shown present] at own
  cases own
  obtain ⟨again, rows, same, read, place⟩ :=
    documented.exists_read_write isDelimiter even (toTable_present drawn) place unmarked
  obtain rfl := Except.ok.inj (same.symm.trans wrote)
  refine ⟨rowsCells 0 rows, ?_, ?_⟩
  · rw [ofTableText, read]
    rfl
  · rw [lookup_eq_some (nodup_rowsCells _ _), mem_rowsCells]
    refine ⟨row, column, text, place, present, ?_, rfl⟩
    rw [key_eq_keyAt named, Nat.zero_add]

/-! ## Numbers -/

theorem display_of_evaluated {cell : Cell} (named : Position.key ⟨row, column⟩ = .ok key)
    (found : sheet.cellAt? key = some cell) (evaluated : cell.Evaluated) {number : Number}
    (value : cell.value = .number number) (written : number.display = .ok text) :
    sheet.display ⟨row, column⟩ = .ok text := by
  obtain ⟨shown, toText, displayed⟩ := evaluated.shown
  rw [value] at toText
  obtain rfl : shown = text := Except.ok.inj (toText.symm.trans written)
  have noError : cell.error? = none := by
    cases erroring : cell.error with
    | none => simp [Cell.error?, erroring]
    | some code =>
      have blank := (evaluated.void (by simp [erroring])).1
      rw [value] at blank
      cases blank
  obtain ⟨entry, held, converted⟩ := cellAt_eq_some.mp found
  have shows : cell.shown = .ok shown := by simp only [Cell.shown, noError, displayed]
  simp only [display, named, held, converted, shows, bind, Except.bind]

structure Recalculated (setting : Setting) (sheet last : Sheet) (row column : Nat) (number : Number) : Prop where
  valid : sheet.Valid
  returned : (recalculate setting sheet).result = .ok last
  cell : ∃ key old source later, Position.key ⟨row, column⟩ = .ok key ∧ sheet.cellAt? key = some old ∧
    old.formula? = some source ∧ last.cellAt? key = some later ∧ later.value = .number number

theorem not_isFormula_of_made (made : Literal.Made text) : isFormula text = false := by
  unfold isFormula
  split
  · exact absurd (made '=' List.mem_cons_self) (by decide)
  · rfl

theorem unmarked_of_made (made : Literal.Made text) : text.head? ≠ some Table.byteOrderMark :=
  fun marked => absurd (made _ (List.mem_of_mem_head? marked)) (by decide +kernel)

theorem exists_view_loaded {setting : Setting} {last : Sheet} {number : Number}
    (recalculated : Recalculated setting sheet last row column number) (display : number.display = .ok text)
    (denotes : number.Denotes text) (documented : library.Documented delimiter) (isDelimiter : Table.IsDelimiter delimiter)
    (exported : last.toTableText library [delimiter] = .ok written) :
    ∃ loaded, ofTableText library [delimiter] written = .ok loaded ∧ loaded.view ⟨row, column⟩ = .ok (.text text) := by
  obtain ⟨key, old, source, later, named, held, formula, found, value⟩ := recalculated.cell
  obtain ⟨cell, own, _, evaluated | ⟨_, never⟩⟩ :=
    (coherent_recalculate recalculated.valid recalculated.returned).stored key old source rfl held formula
  · rw [found] at own
    cases own
    have plain := not_isFormula_of_made denotes.made
    obtain ⟨loaded, read, lookup⟩ := exists_loaded documented isDelimiter exported named
      (display_of_evaluated named found evaluated value display) denotes.ne_nil (unmarked_of_made denotes.made)
    refine ⟨loaded, read, ?_⟩
    simp [view, named, valueAt, lookup, entryOfField, plain, Entry.visibleValue, Cell.error?, bind, Except.bind, pure,
      Except.pure]
  · cases never

/-- The text displayed for an integer of no more digits than can be written, or for a finite double, is a number as a
whole, with no white space around it. The number read from it, alone, in a function or in arithmetic, equals the one
displayed, and so does the text in a comparison if the number is a double or becomes one. When a sheet is
recalculated, exported and loaded again with a library that keeps to its documented rules, the number that a formula
gave comes back as this text. -/
theorem display_reads_back (number : Number) (writable : number.IsWritable) :
    ∃ text read, (Value.number number).toText = .ok text ∧ Text.strip text = text ∧ Text.IsNumeral text ∧
      (Value.text text).isNumeric = .ok true ∧ Number.readWhole text = .ok (some read) ∧
      (Value.text text).toNumber = .ok read ∧ (Value.text text).toOperand = .ok read ∧ number.eq read = true ∧
      (∀ x, number.toDouble = .ok x → (Value.number number).equal (.text text) = .ok true) ∧
      ∀ (setting : Setting) (sheet last : Sheet) (row column : Nat) (library : Table.Library) (delimiter : Char)
        (written : Text), Recalculated setting sheet last row column number → library.Documented delimiter →
        Table.IsDelimiter delimiter → last.toTableText library [delimiter] = .ok written →
        ∃ loaded, ofTableText library [delimiter] written = .ok loaded ∧
          loaded.view ⟨row, column⟩ = .ok (.text text) := by
  obtain ⟨text, display, denotes⟩ := Number.exists_display writable
  obtain ⟨read, whole, alike⟩ := denotes.readWhole
  refine ⟨text, read, display, denotes.strip_eq, denotes.isNumeral, Number.isNumeric_of_readWhole whole, whole,
    Number.toNumber_of_readWhole whole, Number.operand_of_readWhole whole, alike.equal,
    fun x converted => denotes.equal converted, ?_⟩
  intro setting sheet last row column library delimiter written recalculated documented isDelimiter exported
  exact exists_view_loaded recalculated display denotes documented isDelimiter exported

def tenths : Sheet :=
  [("0,0".toList, .cell { formula := some "=0.1+0.2".toList })]

def added : Sheet :=
  [("0,0".toList, .cell
    { value := .number (.double 0.30000000000000004)
      formula := some "=0.1+0.2".toList
      displayValue := some "0.30000000000000004".toList })]

theorem display_reads_back_tenths :
    (Number.double 0.30000000000000004).IsWritable ∧
      Recalculated ⟨64, ⟨0, 0, .utc⟩⟩ tenths added 0 0 (.double 0.30000000000000004) ∧
      (∃ read, Number.readWhole "0.30000000000000004".toList = .ok (some read) ∧
        (Number.double 0.30000000000000004).eq read = true) ∧
      (Value.number (.double 0.30000000000000004)).equal (.text "0.30000000000000004".toList) = .ok true ∧
      ∃ loaded, ofTableText .standard [','] "0.30000000000000004\n".toList = .ok loaded ∧
        loaded.view ⟨0, 0⟩ = .ok (.text "0.30000000000000004".toList) := by
  have writable : (Number.double 0.30000000000000004).IsWritable := by
    change Float.isFinite 0.30000000000000004 = true
    decide +kernel
  have ordered : formulaOrder tenths = .ok ["0,0".toList] :=
    formulaOrder_of_sorted rfl (List.pairwise_singleton _ (⟨0, 0⟩, "0,0".toList))
  have returned : (recalculate ⟨64, ⟨0, 0, .utc⟩⟩ tenths).result = .ok added :=
    (recalculate_eq_ok rfl ordered).mpr ⟨1, by decide +kernel⟩
  have recalculated : Recalculated ⟨64, ⟨0, 0, .utc⟩⟩ tenths added 0 0 (.double 0.30000000000000004) :=
    ⟨⟨by decide, _, rfl⟩, returned, "0,0".toList, _, "=0.1+0.2".toList, _, by decide, rfl, rfl, rfl, rfl⟩
  have exported : added.toTableText .standard [','] = .ok "0.30000000000000004\n".toList := by decide +kernel
  have displayed : (Value.number (.double 0.30000000000000004)).toText = .ok "0.30000000000000004".toList := by
    decide +kernel
  obtain ⟨text, read, shown, -, -, -, whole, -, -, same, equal, loads⟩ :=
    display_reads_back (.double 0.30000000000000004) writable
  obtain rfl : text = "0.30000000000000004".toList := Except.ok.inj (shown.symm.trans displayed)
  have comma : Table.IsDelimiter ',' := ⟨by decide, by decide, by decide⟩
  exact ⟨writable, recalculated, ⟨read, whole, same⟩, equal _ rfl,
    loads _ _ _ _ _ _ ',' _ recalculated (Table.documented_standard comma) comma exported⟩

end Sheet

end Worksheet
