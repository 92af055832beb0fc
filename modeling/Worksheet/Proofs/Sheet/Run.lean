import Worksheet.Proofs.Address
import Worksheet.Proofs.Sheet.Recalculation

/-! Runs of edits. Whatever is typed and recalculated in whatever order, no cell is lost, each keeps its style, and
each shows what was last typed into it. -/

namespace Worksheet

structure Cell.Evaluated (cell : Cell) : Prop where
  shown : ∃ display, cell.value.toText = .ok display ∧ cell.displayValue = some display
  void : cell.error ≠ none → cell.value = .empty ∧ cell.displayValue = some []

namespace Entry

theorem visibleValue_of_toCell {entry : Entry} {cell : Cell} (converted : entry.toCell = .ok cell) :
    (Entry.cell cell).visibleValue = entry.visibleValue := by
  cases entry with
  | cell found =>
    cases converted
    rfl
  | record fields =>
    simp only [toCell, Cell.ofFields, bind_eq_ok, pure, Except.pure, Except.ok.injEq] at converted
    obtain ⟨formula, _, display, _, error, readError, rows, _, columns, _, rfl⟩ := converted
    have erroring : (Option.filter (!·.isEmpty) error).isSome
        = ((Field.lookup? fields "error").getD .empty).isPresent := by
      cases held : (Field.lookup? fields "error").getD .empty with
      | empty =>
        rw [held] at readError
        cases readError
        rfl
      | text shown =>
        rw [held] at readError
        cases readError
        cases shown <;> rfl
      | error code =>
        rw [held] at readError
        cases readError
        cases code <;> rfl
      | _ =>
        rw [held] at readError
        cases readError
    simp only [visibleValue, Cell.error?, erroring]

end Entry

namespace Sheet

/-! ## Sheets of valid cells -/

structure Valid (sheet : Sheet) : Prop where
  distinct : (sheet.map (·.1)).Nodup
  readable : ∃ cells, sheet.toCells = .ok cells

def cellAt? (sheet : Sheet) (key : Text) : Option Cell :=
  (sheet.lookup? key).bind fun entry => entry.toCell.toOption

variable {sheet cells next last : Sheet}

theorem cellAt_eq_some {key : Text} {cell : Cell} :
    sheet.cellAt? key = some cell ↔ ∃ entry, sheet.lookup? key = some entry ∧ entry.toCell = .ok cell := by
  rw [cellAt?, Option.bind_eq_some_iff]
  refine exists_congr fun entry => and_congr_right fun _ => ?_
  cases entry.toCell with
  | error failure => simp [Except.toOption]
  | ok found => simp [Except.toOption]

theorem cellAt_of_lookup {key : Text} {cell : Cell} (found : sheet.lookup? key = some (.cell cell)) :
    sheet.cellAt? key = some cell :=
  cellAt_eq_some.mpr ⟨_, found, rfl⟩

theorem lookup_toCells (converted : sheet.toCells = .ok cells) (key : Text) :
    cells.lookup? key = (sheet.cellAt? key).map Entry.cell := by
  induction sheet generalizing cells with
  | nil =>
    cases converted
    rfl
  | cons first rest ih =>
    obtain ⟨name, entry⟩ := first
    obtain ⟨cell, own, converted⟩ := bind_eq_ok.mp converted
    obtain ⟨others, later, equal⟩ := bind_eq_ok.mp converted
    cases equal
    rw [lookup_cons]
    simp only [cellAt?, lookup_cons]
    split
    · simp [own, Except.toOption]
    · exact ih later

theorem cellAt_toCells (converted : sheet.toCells = .ok cells) (key : Text) :
    cells.cellAt? key = sheet.cellAt? key := by
  have found := lookup_toCells converted key
  cases held : sheet.cellAt? key with
  | none =>
    rw [held] at found
    simp [cellAt?, found]
  | some cell => exact cellAt_of_lookup (by rw [found, held]; rfl)

theorem visible_toCells (converted : sheet.toCells = .ok cells) (key : Text) :
    cells.valueAt key = sheet.valueAt key := by
  induction sheet generalizing cells with
  | nil =>
    cases converted
    rfl
  | cons first rest ih =>
    obtain ⟨name, entry⟩ := first
    obtain ⟨cell, own, converted⟩ := bind_eq_ok.mp converted
    obtain ⟨others, later, equal⟩ := bind_eq_ok.mp converted
    cases equal
    have onward := ih later
    by_cases here : name = key
    · simp [valueAt, lookup_cons, here, Entry.visibleValue_of_toCell own]
    · simpa [valueAt, lookup_cons, here] using onward

theorem toCells_eq_self :
    sheet.toCells = .ok sheet ↔ ∀ entry ∈ sheet, ∃ cell, entry.2 = .cell cell := by
  induction sheet with
  | nil => simp [toCells]
  | cons first rest ih =>
    obtain ⟨name, entry⟩ := first
    rw [List.forall_mem_cons, ← ih]
    constructor
    · intro converted
      obtain ⟨cell, own, converted⟩ := bind_eq_ok.mp converted
      obtain ⟨others, later, equal⟩ := bind_eq_ok.mp converted
      cases equal
      exact ⟨⟨cell, rfl⟩, later⟩
    · rintro ⟨⟨cell, rfl⟩, later⟩
      exact bind_eq_ok.mpr ⟨cell, rfl, bind_eq_ok.mpr ⟨rest, later, rfl⟩⟩

theorem toCells_toCells (converted : sheet.toCells = .ok cells) : cells.toCells = .ok cells := by
  induction sheet generalizing cells with
  | nil =>
    cases converted
    rfl
  | cons first rest ih =>
    obtain ⟨cell, own, converted⟩ := bind_eq_ok.mp converted
    obtain ⟨others, later, equal⟩ := bind_eq_ok.mp converted
    cases equal
    exact bind_eq_ok.mpr ⟨cell, rfl, bind_eq_ok.mpr ⟨others, ih later, rfl⟩⟩

/-! ## One edit -/

inductive Edit where
  | type (setting : Setting) (position : Position) (text : Text)
  | recalculate (setting : Setting)

namespace Edit

def outcome (sheet : Sheet) : Edit → Outcome Sheet
  | type setting position text => sheet.update setting position text
  | recalculate setting => sheet.recalculate setting

/-- The sheet behind an edit; one that fails leaves it as it was. -/
def after (sheet : Sheet) (edit : Edit) : Sheet :=
  match (edit.outcome sheet).result with
  | .ok next => next
  | .error _ => sheet

end Edit

/-- What happened so far: the text last typed under each key, and whether the formulas were recalculated. -/
structure History where
  typed : Text → Option Text
  recalculated : Bool

namespace History

def start : History := ⟨fun _ => none, false⟩

def followedBy (earlier later : History) : History where
  typed key := (later.typed key).or (earlier.typed key)
  recalculated := earlier.recalculated || later.recalculated

def ofEdit (sheet : Sheet) (edit : Edit) : History :=
  match edit, (edit.outcome sheet).result with
  | .type _ position text, .ok _ => ⟨fun key => if position.key = .ok key then some text else none, false⟩
  | .recalculate _, .ok _ => ⟨fun _ => none, true⟩
  | _, .error _ => start

end History

/-- A sheet after a history: what it holds, given the sheet before. -/
structure Coherent (first : Sheet) (history : History) (last : Sheet) : Prop where
  valid : last.Valid
  keys : ∀ key, key ∈ last.map (·.1) ↔ key ∈ first.map (·.1) ∨ (history.typed key).isSome = true
  style : ∀ key, last.styleAt key = first.styleAt key
  kept : ∀ key, history.typed key = none → (∀ cell, first.cellAt? key = some cell → cell.formula? = none) →
    last.cellAt? key = first.cellAt? key
  plain : ∀ key text, history.typed key = some text → isFormula text = false →
    ∃ style, last.cellAt? key = some { value := .text text, style := style }
  formula : ∀ key text, history.typed key = some text → isFormula text = true →
    ∃ cell, last.cellAt? key = some cell ∧ cell.formula = some text ∧ cell.Evaluated
  stored : ∀ key cell source, history.typed key = none → first.cellAt? key = some cell →
    cell.formula? = some source →
    ∃ later, last.cellAt? key = some later ∧ later.formula = some source ∧
      (later.Evaluated ∨ later = cell ∧ history.recalculated = false)

theorem formula_of_isFormula {cell : Cell} {text : Text} (formula : cell.formula = some text)
    (isFormula : isFormula text = true) : cell.formula? = some text := by
  refine Cell.formula_eq_some.mpr ⟨formula, ?_⟩
  cases text with
  | nil => cases isFormula
  | cons first rest => rfl

namespace Coherent

theorem refl (valid : sheet.Valid) : Coherent sheet .start sheet where
  valid := valid
  keys key := by simp [History.start]
  style key := rfl
  kept key _ _ := rfl
  plain key text typed _ := by cases typed
  formula key text typed _ := by cases typed
  stored key cell source _ found formula := ⟨cell, found, (Cell.formula_eq_some.mp formula).1, Or.inr ⟨rfl, rfl⟩⟩

theorem trans {before after : History} (first : Coherent sheet before next) (second : Coherent next after last) :
    Coherent sheet (before.followedBy after) last where
  valid := second.valid
  keys key := by
    rw [second.keys, first.keys]
    simp only [History.followedBy, Option.isSome_or, Bool.or_eq_true]
    tauto
  style key := (second.style key).trans (first.style key)
  kept key typed plain := by
    obtain ⟨laterNone, earlierNone⟩ := Option.or_eq_none_iff.mp typed
    have same := first.kept key earlierNone plain
    rw [second.kept key laterNone fun cell found => plain cell (same ▸ found), same]
  plain key text typed notFormula := by
    rcases Option.or_eq_some_iff.mp typed with later | ⟨laterNone, earlier⟩
    · exact second.plain key text later notFormula
    · obtain ⟨style, found⟩ := first.plain key text earlier notFormula
      refine ⟨style, ?_⟩
      rw [second.kept key laterNone, found]
      intro cell held
      rw [found] at held
      cases held
      rfl
  formula key text typed isFormula := by
    rcases Option.or_eq_some_iff.mp typed with later | ⟨laterNone, earlier⟩
    · exact second.formula key text later isFormula
    · obtain ⟨cell, found, formula, evaluated⟩ := first.formula key text earlier isFormula
      obtain ⟨final, held, kept, how⟩ :=
        second.stored key cell text laterNone found (formula_of_isFormula formula isFormula)
      refine ⟨final, held, kept, ?_⟩
      rcases how with again | ⟨rfl, _⟩
      · exact again
      · exact evaluated
  stored key cell source typed found formula := by
    obtain ⟨laterNone, earlierNone⟩ := Option.or_eq_none_iff.mp typed
    obtain ⟨middle, held, kept, how⟩ := first.stored key cell source earlierNone found formula
    obtain ⟨final, last, same, ending⟩ :=
      second.stored key middle source laterNone held (Cell.formula_congr formula kept)
    refine ⟨final, last, same, ?_⟩
    rcases ending with again | ⟨rfl, still⟩
    · exact Or.inl again
    · rcases how with evaluated | ⟨rfl, never⟩
      · exact Or.inl evaluated
      · exact Or.inr ⟨rfl, by simp [History.followedBy, never, still]⟩

end Coherent

/-! ## Typing -/

theorem mem_keys_put {key : Text} {entry : Entry} {name : Text} :
    name ∈ (put key entry sheet).map (·.1) ↔ name ∈ sheet.map (·.1) ∨ key = name := by
  rw [← not_iff_not, not_or, ← lookup_eq_none, ← lookup_eq_none, lookup_put]
  by_cases own : key = name
  · simp [own]
  · simp [own]

theorem distinct_put {key : Text} {entry : Entry} (distinct : (sheet.map (·.1)).Nodup) :
    ((put key entry sheet).map (·.1)).Nodup := by
  induction sheet with
  | nil => exact List.nodup_singleton key
  | cons first rest ih =>
    obtain ⟨fresh, later⟩ := List.nodup_cons.mp distinct
    rw [put_cons]
    split
    next here => simpa [here] using distinct
    next apart =>
      refine List.nodup_cons.mpr ⟨fun member => ?_, ih later⟩
      rcases mem_keys_put.mp member with old | same
      · exact fresh old
      · exact apart same.symm

theorem mem_put {key : Text} {entry : Entry} {member : Text × Entry} (found : member ∈ put key entry sheet) :
    member = (key, entry) ∨ member ∈ sheet := by
  induction sheet with
  | nil => exact Or.inl (List.mem_singleton.mp found)
  | cons first rest ih =>
    rw [put_cons] at found
    split at found
    · rcases List.mem_cons.mp found with same | later
      · exact Or.inl same
      · exact Or.inr (List.mem_cons_of_mem _ later)
    · rcases List.mem_cons.mp found with same | later
      · exact Or.inr (by simp [same])
      · exact (ih later).imp_right (List.mem_cons_of_mem _)

theorem styleAt_eq (converted : sheet.toCells = .ok cells) (key : Text) :
    sheet.styleAt key = .ok (((sheet.cellAt? key).map Cell.style).getD .empty) := by
  induction sheet generalizing cells with
  | nil => rfl
  | cons first rest ih =>
    obtain ⟨name, entry⟩ := first
    obtain ⟨cell, own, converted⟩ := bind_eq_ok.mp converted
    obtain ⟨others, later, equal⟩ := bind_eq_ok.mp converted
    have onward := ih later
    by_cases here : name = key
    · simp only [styleAt, cellAt?, lookup_cons, here, if_true, own, Option.bind_some, Except.toOption]
      rfl
    · simpa [styleAt, cellAt?, lookup_cons, here] using onward

variable {setting : Setting} {position : Position} {text : Text}

theorem update_eq_ok :
    (update setting sheet position text).result = .ok next ↔
      ∃ key style cell cells, position.key = .ok key ∧ sheet.styleAt key = .ok style ∧
        (typed setting sheet style text).result = .ok cell ∧ sheet.toCells = .ok cells ∧
        next = put key (.cell cell) cells := by
  simp only [update, Outcome.result_bind_eq_ok, Outcome.result_ofExcept, Outcome.result_pure, Except.ok.injEq]
  constructor
  · rintro ⟨key, named, style, styled, cell, made, cells, converted, rfl⟩
    exact ⟨key, style, cell, cells, named, styled, made, converted, rfl⟩
  · rintro ⟨key, style, cell, cells, named, styled, made, converted, rfl⟩
    exact ⟨key, named, style, styled, cell, made, cells, converted, rfl⟩

theorem evaluated_computed {source : Text} {style : Value} {answer : Answer} {display : Text}
    (shown : answer.valueOf.toText = .ok display) : (computed source style answer display).Evaluated where
  shown := ⟨display, shown, rfl⟩
  void erroring := by
    cases answer with
    | value found => exact absurd rfl erroring
    | error code =>
      cases shown
      exact ⟨rfl, rfl⟩

theorem typed_plain {style : Value} {cell : Cell} (notFormula : isFormula text = false)
    (made : (typed setting sheet style text).result = .ok cell) : cell = { value := .text text, style := style } := by
  simp only [typed, notFormula, Bool.false_eq_true, if_false, Outcome.result_succeed, Except.ok.injEq] at made
  exact made.symm

theorem typed_formula {style : Value} {cell : Cell} (isFormula : isFormula text = true)
    (made : (typed setting sheet style text).result = .ok cell) :
    cell.formula = some text ∧ cell.style = style ∧ cell.Evaluated := by
  rw [typed, if_pos isFormula] at made
  obtain ⟨answer, display, _, shown, rfl⟩ := evaluated_eq_ok.mp made
  exact ⟨rfl, rfl, evaluated_computed shown⟩

theorem style_typed {style : Value} {cell : Cell} (made : (typed setting sheet style text).result = .ok cell) :
    cell.style = style := by
  cases formula : isFormula text with
  | false => rw [typed_plain formula made]
  | true => exact (typed_formula formula made).2.1

theorem coherent_put {key : Text} {style : Value} {cell : Cell} (valid : sheet.Valid)
    (styled : sheet.styleAt key = .ok style) (made : (typed setting sheet style text).result = .ok cell)
    (converted : sheet.toCells = .ok cells) :
    Coherent sheet ⟨fun name => if key = name then some text else none, false⟩ (put key (.cell cell) cells) := by
  have keys := keys_toCells converted
  have own : (put key (.cell cell) cells).cellAt? key = some cell :=
    cellAt_of_lookup (by rw [lookup_put, if_pos rfl])
  have others {name : Text} (apart : key ≠ name) :
      (put key (.cell cell) cells).cellAt? name = sheet.cellAt? name := by
    rw [← cellAt_toCells converted]
    simp only [cellAt?, lookup_put, if_neg apart]
  have built : (put key (.cell cell) cells).toCells = .ok (put key (.cell cell) cells) := by
    refine toCells_eq_self.mpr fun entry member => ?_
    rcases mem_put member with rfl | old
    · exact ⟨cell, rfl⟩
    · exact toCells_eq_self.mp (toCells_toCells converted) entry old
  refine ⟨⟨distinct_put (keys ▸ valid.distinct), _, built⟩, ?_, ?_, ?_, ?_, ?_, ?_⟩
  · intro name
    rw [mem_keys_put, keys]
    by_cases same : key = name <;> simp [same]
  · intro name
    by_cases same : key = name
    · subst same
      rw [styled, styleAt_eq built, own]
      exact congrArg Except.ok (style_typed made)
    · rw [styleAt_eq built, styleAt_eq converted, others same]
  · intro name untyped _
    by_cases same : key = name
    · simp [same] at untyped
    · exact others same
  · intro name typed isTyped notFormula
    by_cases same : key = name
    · subst same
      simp only [if_true, Option.some.injEq] at isTyped
      subst isTyped
      exact ⟨style, by rw [own, typed_plain notFormula made]⟩
    · simp [same] at isTyped
  · intro name typed isTyped isFormula
    by_cases same : key = name
    · subst same
      simp only [if_true, Option.some.injEq] at isTyped
      subst isTyped
      obtain ⟨formula, _, evaluated⟩ := typed_formula isFormula made
      exact ⟨cell, own, formula, evaluated⟩
    · simp [same] at isTyped
  · intro name old source untyped found formula
    by_cases same : key = name
    · simp [same] at untyped
    · exact ⟨old, by rw [others same, found], (Cell.formula_eq_some.mp formula).1, Or.inr ⟨rfl, rfl⟩⟩

theorem view_put {key : Text} {entry : Entry} {other : Position} (converted : sheet.toCells = .ok cells)
    (named : position.key = .ok key) (elsewhere : other ≠ position) :
    (put key entry cells).view other = sheet.view other := by
  unfold view
  cases name : other.key with
  | error failure => rfl
  | ok found =>
    have apart : key ≠ found := by
      rintro rfl
      exact elsewhere (Position.key_inj name named)
    change Except.ok (valueAt _ found) = Except.ok (valueAt _ found)
    rw [← visible_toCells converted]
    exact congrArg Except.ok (valueAt_of_lookup (by rw [lookup_put, if_neg apart]))

/-! ## Recalculating -/

theorem formulaAt_toCells (converted : sheet.toCells = .ok cells) (key : Text) :
    cells.formulaAt? key = (sheet.cellAt? key).bind Cell.formula? := by
  unfold formulaAt?
  rw [lookup_toCells converted]
  cases sheet.cellAt? key with
  | none => rfl
  | some cell => rfl

theorem toCells_of_bare {base : Sheet} (built : base.toCells = .ok base) (alike : last.bare = base.bare) :
    last.toCells = .ok last := by
  refine toCells_eq_self.mpr fun entry member => ?_
  have bare : (entry.1, entry.2.bare) ∈ base.bare := alike ▸ List.mem_map_of_mem member
  obtain ⟨other, among, same⟩ := List.mem_map.mp bare
  obtain ⟨cell, isCell⟩ := toCells_eq_self.mp built other among
  obtain ⟨name, found⟩ := entry
  cases found with
  | cell found => exact ⟨found, rfl⟩
  | record fields =>
    have shape := congrArg Prod.snd same
    simp only [isCell, Entry.bare] at shape
    split at shape <;> cases shape

section

variable {keys : List Text} (converted : sheet.toCells = .ok cells) (alike : last.bare = cells.bare)

include converted alike

theorem cellAt_recalculated_plain {key : Text}
    (plain : ∀ cell, sheet.cellAt? key = some cell → cell.formula? = none) :
    last.cellAt? key = sheet.cellAt? key := by
  have none : cells.formulaAt? key = none := by
    rw [formulaAt_toCells converted]
    exact Option.bind_eq_none_iff.mpr plain
  rw [← cellAt_toCells converted]
  simp only [cellAt?, lookup_of_bare alike none]

theorem cellAt_recalculated_formula {key source : Text} {cell : Cell} (covers : Covers keys cells)
    (written : ∀ key ∈ keys, Written last key) (found : sheet.cellAt? key = some cell)
    (formula : cell.formula? = some source) :
    ∃ later, last.cellAt? key = some later ∧ later.formula = some source ∧ later.style = cell.style ∧
      later.Evaluated := by
  have held : cells.lookup? key = some (.cell cell) := by
    rw [lookup_toCells converted, found]
    rfl
  obtain ⟨later, last, formulaLater, style⟩ := cell_of_bare alike.symm held formula
  have member : key ∈ keys := (covers key).mpr ⟨source, formulaAt_eq_some.mpr ⟨cell, held, formula⟩⟩
  obtain ⟨final, _, answer, display, lookup, _, shown, computed⟩ := written key member
  rw [last] at lookup
  cases lookup
  exact ⟨later, cellAt_of_lookup last, (Cell.formula_eq_some.mp formulaLater).1, style,
    computed ▸ evaluated_computed shown⟩

end

theorem coherent_recalculate (valid : sheet.Valid) (returned : (recalculate setting sheet).result = .ok last) :
    Coherent sheet ⟨fun _ => none, true⟩ last := by
  obtain ⟨cells, converted⟩ := valid.readable
  have distinct : (cells.map (·.1)).Nodup := keys_toCells converted ▸ valid.distinct
  obtain ⟨order, ordered⟩ := formulaOrder_of_recalculate converted returned
  have covers := covers_of_formulaOrder distinct ordered
  obtain ⟨_, _, _, alike, written⟩ := sweeps_of_recalculate covers converted ordered returned
  have keys : last.map (·.1) = sheet.map (·.1) := (keys_of_bare alike).trans (keys_toCells converted)
  have built := toCells_of_bare (toCells_toCells converted) alike
  refine ⟨⟨keys ▸ valid.distinct, last, built⟩, ?_, ?_, ?_, ?_, ?_, ?_⟩
  · simp [keys]
  · intro key
    rw [styleAt_eq built, styleAt_eq converted]
    cases found : sheet.cellAt? key with
    | none => rw [cellAt_recalculated_plain converted alike (by simp [found]), found]
    | some cell =>
      cases formula : cell.formula? with
      | none => rw [cellAt_recalculated_plain converted alike (by simp [found, formula]), found]
      | some source =>
        obtain ⟨later, held, _, style, _⟩ := cellAt_recalculated_formula converted alike covers written found formula
        simp [held, style]
  · exact fun key _ plain => cellAt_recalculated_plain converted alike plain
  · exact fun key text typed _ => nomatch typed
  · exact fun key text typed _ => nomatch typed
  · intro key cell source _ found formula
    obtain ⟨later, held, kept, _, evaluated⟩ :=
      cellAt_recalculated_formula converted alike covers written found formula
    exact ⟨later, held, kept, Or.inl evaluated⟩

/-! ## Runs -/

theorem coherent_after (valid : sheet.Valid) (edit : Edit) :
    Coherent sheet (History.ofEdit sheet edit) (edit.after sheet) := by
  unfold History.ofEdit Edit.after
  cases ran : (edit.outcome sheet).result with
  | error failure => cases edit <;> exact Coherent.refl valid
  | ok next =>
    cases edit with
    | recalculate setting => exact coherent_recalculate valid ran
    | type setting position text =>
      obtain ⟨key, style, cell, cells, named, styled, made, converted, rfl⟩ := update_eq_ok.mp ran
      simpa [named] using coherent_put valid styled made converted

def run (sheet : Sheet) (edits : List Edit) : Sheet :=
  edits.foldl Edit.after sheet

def history (sheet : Sheet) : List Edit → History
  | [] => .start
  | edit :: rest => (History.ofEdit sheet edit).followedBy (history (edit.after sheet) rest)

theorem coherent_run (valid : sheet.Valid) (edits : List Edit) :
    Coherent sheet (sheet.history edits) (sheet.run edits) := by
  induction edits generalizing sheet with
  | nil => exact Coherent.refl valid
  | cons edit rest ih =>
    have first := coherent_after valid edit
    exact first.trans (ih first.valid)

/-- Over any run of edits a sheet of valid cells stays coherent. Behind the run, to type at a position does
not change what is seen at any other one, and an edit that fails changes nothing. -/
theorem run_coherent (sheet : Sheet) (valid : sheet.Valid) (edits : List Edit) :
    Coherent sheet (sheet.history edits) (sheet.run edits) ∧
      (∀ setting position text other, other ≠ position →
        (Edit.after (sheet.run edits) (.type setting position text)).view other = (sheet.run edits).view other) ∧
      ∀ (edit : Edit) failure, (edit.outcome (sheet.run edits)).result = .error failure →
        edit.after (sheet.run edits) = sheet.run edits := by
  refine ⟨coherent_run valid edits, fun setting position text other elsewhere => ?_, fun edit failure failed => ?_⟩
  · unfold Edit.after
    cases ran : (Edit.outcome (sheet.run edits) (.type setting position text)).result with
    | error failure => rfl
    | ok next =>
      obtain ⟨key, style, cell, cells, named, styled, made, converted, rfl⟩ := update_eq_ok.mp ran
      exact view_put converted named elsewhere
  · simp only [Edit.after, failed]

def styled : Sheet :=
  [("0,0".toList, .record [("value".toList, .text "7".toList), ("style".toList, .text "bold".toList)]),
   ("1,0".toList, .cell { formula := some "=A1*2".toList })]

def doubled : Sheet :=
  [("0,0".toList, .cell { value := .text "7".toList, style := .text "bold".toList }),
   ("1,0".toList, .cell { value := .integer 14, formula := some "=A1*2".toList, displayValue := some "14".toList })]

def typing : List Edit :=
  [.type ⟨64, ⟨0, 0, .utc⟩⟩ ⟨0, 1⟩ "=MOD(A1,0)".toList, .type ⟨64, ⟨0, 0, .utc⟩⟩ ⟨0, 0⟩ "8".toList]

theorem run_coherent_typing :
    styled.Valid ∧
      (∃ style, (styled.run typing).cellAt? "0,0".toList = some { value := .text "8".toList, style := style }) ∧
      (∃ cell, (styled.run typing).cellAt? "0,1".toList = some cell ∧
        cell.formula = some "=MOD(A1,0)".toList ∧ cell.Evaluated) ∧
      (styled.run typing).styleAt "0,0".toList = .ok (.text "bold".toList) ∧
      (Edit.after (styled.run typing) (.type ⟨64, ⟨0, 0, .utc⟩⟩ ⟨2, 2⟩ "=A1".toList)).view ⟨0, 0⟩
        = (styled.run typing).view ⟨0, 0⟩ ∧
      ∃ cell, (styled.run [.recalculate ⟨64, ⟨0, 0, .utc⟩⟩]).cellAt? "1,0".toList = some cell ∧
        cell.formula = some "=A1*2".toList ∧ cell.Evaluated := by
  have valid : styled.Valid := ⟨by decide, _, rfl⟩
  have facts := run_coherent styled valid typing
  refine ⟨valid, facts.1.plain _ _ (by decide +kernel) rfl, facts.1.formula _ _ (by decide +kernel) rfl,
    facts.1.style _, facts.2.1 _ _ _ _ (by decide), ?_⟩
  have ordered : formulaOrder [doubled[0], ("1,0".toList, .cell { formula := some "=A1*2".toList })]
      = .ok ["1,0".toList] :=
    formulaOrder_of_sorted rfl (List.pairwise_singleton _ (⟨1, 0⟩, "1,0".toList))
  have returned : (recalculate ⟨64, ⟨0, 0, .utc⟩⟩ styled).result = .ok doubled :=
    (recalculate_eq_ok rfl ordered).mpr ⟨1, by decide +kernel⟩
  have past : styled.history [.recalculate ⟨64, ⟨0, 0, .utc⟩⟩] = ⟨fun _ => none, true⟩ := by
    simp [history, History.ofEdit, Edit.outcome, returned, History.followedBy, History.start]
  obtain ⟨later, held, formula, evaluated | ⟨_, never⟩⟩ :=
    (run_coherent styled valid [.recalculate ⟨64, ⟨0, 0, .utc⟩⟩]).1.stored "1,0".toList _ "=A1*2".toList
      (by rw [past]) rfl rfl
  · exact ⟨later, held, formula, evaluated⟩
  · rw [past] at never
    cases never

end Sheet

end Worksheet
