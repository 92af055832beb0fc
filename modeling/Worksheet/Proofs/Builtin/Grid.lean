import Mathlib.Algebra.Order.Ring.Nat
import Worksheet.Proofs.Builtin.Lookup

/-! Ranges as grids. A flat range is cut into rows of the least width whose square holds it, so the entry at a row and
a column is the one at a place of the range, and a lookup down the first column of a square grid is a lookup along the
first row of its transpose. -/

namespace Worksheet.Builtin

/-! ## The width -/

theorem le_widthFrom_mul {count width fuel : Nat} (enough : count ≤ (width + fuel) * (width + fuel)) :
    count ≤ widthFrom count width fuel * widthFrom count width fuel := by
  induction fuel generalizing width with
  | zero => exact enough
  | succ fuel ih =>
    rw [widthFrom]
    split
    · assumption
    · exact ih (by rwa [Nat.add_right_comm])

theorem widthFrom_le {count width fuel other : Nat} (least : width ≤ other) (enough : count ≤ other * other) :
    widthFrom count width fuel ≤ other := by
  induction fuel generalizing width with
  | zero => exact least
  | succ fuel ih =>
    rw [widthFrom]
    split
    · exact least
    · refine ih (Nat.lt_of_le_of_ne least ?_)
      rintro rfl
      contradiction

theorem le_gridWidth_mul (count : Nat) : count ≤ gridWidth count * gridWidth count :=
  le_widthFrom_mul (by simpa using Nat.le_mul_self count)

theorem gridWidth_le {count other : Nat} (enough : count ≤ other * other) : gridWidth count ≤ other :=
  widthFrom_le (Nat.zero_le other) enough

theorem gridWidth_le_self (count : Nat) : gridWidth count ≤ count :=
  gridWidth_le (Nat.le_mul_self count)

theorem gridWidth_pos {count : Nat} (some : 0 < count) : 0 < gridWidth count := by
  have enough := le_gridWidth_mul count
  by_contra zero
  obtain none : gridWidth count = 0 := by omega
  rw [none] at enough
  omega

theorem gridWidth_mul_self (width : Nat) : gridWidth (width * width) = width :=
  Nat.le_antisymm (gridWidth_le (Nat.le_refl _)) (Nat.mul_self_le_mul_self_iff.mp (le_gridWidth_mul _))

/-! ## The rows -/

variable {width : Nat} {values : List Value}

theorem rowsOf_nil (width : Nat) : rowsOf width [] = [] := by
  rw [rowsOf]
  split <;> rfl

theorem rowsOf_of_ne_nil (wide : 0 < width) (some : values ≠ []) :
    rowsOf width values = values.take width :: rowsOf width (values.drop width) := by
  obtain ⟨first, rest, rfl⟩ := List.exists_cons_of_ne_nil some
  rw [rowsOf, if_neg (Nat.ne_of_gt wide)]

theorem flatten_rowsOf (wide : 0 < width) (values : List Value) : (rowsOf width values).flatten = values := by
  induction count : values.length using Nat.strongRecOn generalizing values with
  | ind count ih =>
    by_cases none : values = []
    · rw [none, rowsOf_nil]
      rfl
    · have nonempty := List.length_pos_iff.mpr none
      have shorter := ih (values.drop width).length (by rw [List.length_drop]; omega) (values.drop width) rfl
      rw [rowsOf_of_ne_nil wide none, List.flatten_cons, shorter, List.take_append_drop]

theorem getElem?_rowsOf (wide : 0 < width) (values : List Value) (row : Nat) :
    (rowsOf width values)[row]? =
      if row * width < values.length then some ((values.drop (row * width)).take width) else none := by
  induction row generalizing values with
  | zero =>
    by_cases none : values = []
    · simp [none, rowsOf_nil]
    · simp [rowsOf_of_ne_nil wide none, List.length_pos_iff.mpr none]
  | succ row ih =>
    by_cases none : values = []
    · simp [none, rowsOf_nil]
    · rw [rowsOf_of_ne_nil wide none, List.getElem?_cons_succ, ih, List.length_drop, List.drop_drop, Nat.succ_mul,
        Nat.add_comm width]
      refine if_congr ?_ rfl rfl
      omega

theorem lt_length_rowsOf (wide : 0 < width) {row : Nat} :
    row < (rowsOf width values).length ↔ row * width < values.length := by
  have found := getElem?_rowsOf wide values row
  constructor
  · intro inside
    by_contra beyond
    rw [if_neg beyond, List.getElem?_eq_getElem inside] at found
    cases found
  · intro inside
    rw [if_pos inside] at found
    exact (List.getElem?_eq_some_iff.mp found).1

theorem length_of_getElem?_rowsOf (wide : 0 < width) {row : Nat} {entries : List Value}
    (found : (rowsOf width values)[row]? = some entries) :
    0 < values.length - row * width ∧ entries.length = min width (values.length - row * width) := by
  rw [getElem?_rowsOf wide] at found
  split at found
  · obtain rfl := Option.some.inj found
    refine ⟨by omega, ?_⟩
    rw [List.length_take, List.length_drop]
  · cases found

/-- The rows of a range, of the least width for which there are no more of them than entries in the first. -/
structure IsGrid (values : List Value) (rows : List (List Value)) (width : Nat) : Prop where
  flatten_eq : rows.flatten = values
  full : ∀ row ∈ rows.dropLast, row.length = width
  last : ∀ row ∈ rows.getLast?, 1 ≤ row.length ∧ row.length ≤ width
  holds : values.length ≤ width * width
  least : ∀ other, values.length ≤ other * other → width ≤ other
  few : rows.length ≤ width

theorem isGrid_grid (some : values ≠ []) : IsGrid values (grid values) (gridWidth values.length) := by
  have wide := gridWidth_pos (List.length_pos_iff.mpr some)
  refine ⟨flatten_rowsOf wide values, ?_, ?_, le_gridWidth_mul _, fun other => gridWidth_le, ?_⟩
  · intro row member
    obtain ⟨place, found⟩ := List.mem_iff_getElem?.mp member
    rw [List.getElem?_dropLast] at found
    split at found
    next before =>
      have next : place + 1 < (grid values).length := by omega
      have more := (lt_length_rowsOf wide).mp next
      obtain ⟨_, length⟩ := length_of_getElem?_rowsOf wide found
      rw [Nat.succ_mul] at more
      omega
    next => cases found
  · intro row found
    rw [Option.mem_def, List.getLast?_eq_getElem?] at found
    obtain ⟨some, length⟩ := length_of_getElem?_rowsOf wide found
    omega
  · by_contra many
    have inside := (lt_length_rowsOf wide).mp (Nat.lt_of_not_le many)
    exact absurd (le_gridWidth_mul values.length) (Nat.not_le.mpr inside)

theorem argument_take_drop {start column : Nat} (inside : column < width) :
    argument ((values.drop start).take width) column = argument values (start + column) := by
  simp [argument, List.getD, inside]

theorem argument_row (wide : 0 < width) {row column : Nat} (present : row < (rowsOf width values).length)
    (inside : column < width) :
    argument ((rowsOf width values).getD row []) column = argument values (row * width + column) := by
  have found := getElem?_rowsOf wide values row
  rw [if_pos ((lt_length_rowsOf wide).mp present)] at found
  rw [List.getD, found, Option.getD_some, argument_take_drop inside]

theorem length_headD_rowsOf (wide : 0 < width) (long : width ≤ values.length) :
    ((rowsOf width values).headD []).length = width := by
  have some : values ≠ [] := List.length_pos_iff.mp (wide.trans_le long)
  rw [rowsOf_of_ne_nil wide some, List.headD_cons, List.length_take, Nat.min_eq_left long]

/-! ## Entries by row and column -/

theorem index_three (range : Value) (row column : Int) : index [range, .integer row, .integer column] =
    .ok (if row < 1 ∨ row > (grid range.entries).length ∨ column < 1 ∨
        column > ((grid range.entries).headD []).length then .error .reference
      else argument ((grid range.entries).getD (row.toNat - 1) []) (column.toNat - 1)) := by
  have counted : require "INDEX" [range, .integer row, .integer column] 2 3 = .ok () := rfl
  have opened : index [range, .integer row, .integer column] =
      if row < 1 ∨ row > (grid range.entries).length ∨ column < 1 ∨
          column > ((grid range.entries).headD []).length then .ok (.error .reference)
      else .ok (argument ((grid range.entries).getD (row.toNat - 1) []) (column.toNat - 1)) := by
    simp only [index, counted]
    rfl
  rw [opened]
  split <;> rfl

theorem length_headD_grid (nonempty : values ≠ []) : ((grid values).headD []).length = gridWidth values.length :=
  length_headD_rowsOf (gridWidth_pos (List.length_pos_iff.mpr nonempty)) (gridWidth_le_self _)

theorem index_three_outside {range : Value} (nonempty : range.entries ≠ []) {row column : Int}
    (outside : row < 1 ∨ column < 1 ∨ gridWidth range.entries.length < column ∨ (grid range.entries).length < row) :
    index [range, .integer row, .integer column] = .ok (.error .reference) := by
  have first := length_headD_grid nonempty
  rw [index_three, if_pos (by omega)]

theorem index_three_inside {range : Value} (nonempty : range.entries ≠ []) (row column : Nat)
    (present : row < (grid range.entries).length) (inside : column < gridWidth range.entries.length) :
    index [range, .integer (row + 1 : Nat), .integer (column + 1 : Nat)] =
      .ok (argument range.entries (row * gridWidth range.entries.length + column)) := by
  have wide := gridWidth_pos (List.length_pos_iff.mpr nonempty)
  have first := length_headD_grid nonempty
  rw [index_three, if_neg (by omega)]
  exact congrArg Except.ok (argument_row wide present inside)

theorem argument_ne_error (plain : ∀ value ∈ values, value.isError = false) (place : Nat) (code : ErrorCode) :
    argument values place ≠ .error code := by
  intro same
  rcases Nat.lt_or_ge place values.length with inside | beyond
  · have ordinary := plain values[place] (List.getElem_mem inside)
    rw [argument_of_lt inside] at same
    rw [same] at ordinary
    cases ordinary
  · rw [argument_of_le beyond] at same
    cases same

/-- A range cut into rows, and its entries by row and column. The rows are of the least width whose square holds the
range, all of them full but the last. If the range holds no error code, there is no reference exactly if the row or
the column is none of the grid; otherwise the entry is the one at the place in the range, and empty where the last row
is too short. -/
theorem index_grid (nonempty : values ≠ []) (plain : ∀ value ∈ values, value.isError = false) :
    ∃ width, IsGrid values (grid values) width ∧
      ∀ range : Value, range.entries = values → ∀ row column : Int,
        (index [range, .integer row, .integer column] = .ok (.error .reference) ↔
          row < 1 ∨ column < 1 ∨ width < column ∨ (grid values).length < row) ∧
        (1 ≤ row → 1 ≤ column → column ≤ width → row ≤ (grid values).length →
          ((row - 1) * width + column ≤ values.length →
            ∃ value, values[((row - 1) * width + column - 1).toNat]? = some value ∧
              index [range, .integer ((row - 1) * width + column)] = .ok value ∧
              index [range, .integer row, .integer column] = .ok value) ∧
          (values.length < (row - 1) * width + column →
            index [range, .integer row, .integer column] = .ok .empty)) := by
  refine ⟨gridWidth values.length, isGrid_grid nonempty, ?_⟩
  rintro range rfl row column
  by_cases outside : row < 1 ∨ column < 1 ∨ gridWidth range.entries.length < column ∨ (grid range.entries).length < row
  · refine ⟨iff_of_true (index_three_outside nonempty outside) outside, ?_⟩
    intro rowStart columnStart columnEnd rowEnd
    omega
  · -- Row and column are counted from zero from here on.
    obtain ⟨line, rfl⟩ : ∃ line : Nat, row = (line + 1 : Nat) := ⟨(row - 1).toNat, by omega⟩
    obtain ⟨offset, rfl⟩ : ∃ offset : Nat, column = (offset + 1 : Nat) := ⟨(column - 1).toNat, by omega⟩
    have entry := index_three_inside nonempty line offset (by omega) (by omega)
    have placed : (((line + 1 : Nat) : Int) - 1) * gridWidth range.entries.length + (offset + 1 : Nat) =
        (line * gridWidth range.entries.length + offset + 1 : Nat) := by
      rw [Int.natCast_succ line, Int.add_sub_cancel]
      rfl
    rw [placed, entry]
    generalize line * gridWidth range.entries.length + offset = place
    have before : ((place + 1 : Nat) - 1 : Int).toNat = place := by omega
    rw [before]
    refine ⟨iff_of_false ?_ outside, fun _ _ _ _ => ⟨?_, ?_⟩⟩
    · intro missing
      exact argument_ne_error plain place .reference (Except.ok.inj missing)
    · intro within
      have inside : place < range.entries.length := by omega
      refine ⟨range.entries[place], List.getElem?_eq_getElem inside, index_two_of_lt inside, ?_⟩
      rw [argument_of_lt inside]
    · intro beyond
      rw [argument_of_le (by omega)]

theorem index_grid_short_row :
    (∀ value ∈ [Value.integer 1, .integer 2, .integer 3, .integer 4, .integer 5], value.isError = false) ∧
      index [.list [.integer 1, .integer 2, .integer 3, .integer 4, .integer 5], .integer 2, .integer 3] =
        .ok .empty := by
  have plain : ∀ value ∈ [Value.integer 1, .integer 2, .integer 3, .integer 4, .integer 5],
      value.isError = false := by
    simp [Value.integer, Value.isError]
  obtain ⟨width, isGrid, entries⟩ := index_grid (List.cons_ne_nil _ _) plain
  have three : width = 3 := by
    have upper := isGrid.least 3 (by decide)
    have holds : 5 ≤ width * width := isGrid.holds
    by_contra other
    have small : width ≤ 2 := by omega
    have square := Nat.mul_le_mul small small
    omega
  subst three
  have rows : 1 < (grid [Value.integer 1, .integer 2, .integer 3, .integer 4, .integer 5]).length :=
    (lt_length_rowsOf (by decide)).mpr (by decide)
  have short := (entries (.list [.integer 1, .integer 2, .integer 3, .integer 4, .integer 5]) rfl 2 3).2
    (by decide) (by decide) (by decide) (by exact_mod_cast rows)
  exact ⟨plain, short.2 (by decide)⟩

/-! ## Lookups down a column and along a row -/

def firstHit (key : Value) (sorted : Bool) : List (Value × Value) → Except Failure Value
  | [] => .ok (.error .notAvailable)
  | (lead, entry) :: rest => do
    if ← isHit lead key sorted then return entry else firstHit key sorted rest

theorem findRow_eq_firstHit (key : Value) (sorted : Bool) (column : Nat) (rows : List (List Value)) :
    findRow key sorted column rows =
      firstHit key sorted (rows.map fun row => (argument row 0, argument row column)) := by
  induction rows with
  | nil => rfl
  | cons row rows ih => rw [findRow, List.map_cons, firstHit, ih]

theorem findColumn_eq_firstHit (key : Value) (sorted : Bool) (target : List Value) (index : Nat)
    (leads : List Value) : findColumn key sorted target index leads =
      firstHit key sorted ((leads.zipIdx index).map fun lead => (lead.1, argument target lead.2)) := by
  induction leads generalizing index with
  | nil => rfl
  | cons lead leads ih => rw [findColumn, List.zipIdx_cons, List.map_cons, firstHit, ih]

/-- The search comes to a lead once all before it have turned out to be no hits. -/
theorem firstHit_of_getElem? {key : Value} {sorted : Bool} {pairs : List (Value × Value)} {place : Nat}
    {lead entry : Value} (found : pairs[place]? = some (lead, entry))
    (misses : ∀ earlier < place, ∀ pair, pairs[earlier]? = some pair → isHit pair.1 key sorted = .ok false) :
    firstHit key sorted pairs = isHit lead key sorted >>= fun hit =>
      if hit then .ok entry else firstHit key sorted (pairs.drop (place + 1)) := by
  induction pairs generalizing place with
  | nil => cases found
  | cons pair pairs ih =>
    cases place with
    | zero =>
      obtain rfl := Option.some.inj found
      rfl
    | succ place =>
      have missed := misses 0 (Nat.succ_pos place) pair rfl
      have later := ih found fun earlier less => misses (earlier + 1) (Nat.succ_lt_succ less)
      rw [firstHit, missed, List.drop_succ_cons, ← later]
      rfl

theorem firstHit_of_misses {key : Value} {sorted : Bool} {pairs : List (Value × Value)}
    (misses : ∀ pair ∈ pairs, isHit pair.1 key sorted = .ok false) :
    firstHit key sorted pairs = .ok (.error .notAvailable) := by
  induction pairs with
  | nil => rfl
  | cons pair pairs ih =>
    rw [firstHit, misses pair List.mem_cons_self]
    exact ih fun other member => misses other (List.mem_cons_of_mem _ member)

def leadsOf (width column : Nat) (values : List Value) : List (Value × Value) :=
  (List.range width).map fun row => (argument values (row * width), argument values (row * width + column))

theorem firstHit_leadsOf {key : Value} {sorted : Bool} {line column : Nat} (inside : line < width)
    (misses : ∀ before < line, isHit (argument values (before * width)) key sorted = .ok false) :
    firstHit key sorted (leadsOf width column values) =
      isHit (argument values (line * width)) key sorted >>= fun hit =>
        if hit then .ok (argument values (line * width + column))
        else firstHit key sorted ((leadsOf width column values).drop (line + 1)) := by
  apply firstHit_of_getElem?
  · simp [leadsOf, inside]
  · intro before less pair present
    have within : before < width := less.trans inside
    obtain rfl : (argument values (before * width), argument values (before * width + column)) = pair := by
      simpa [leadsOf, within] using present
    exact misses before less

theorem findRow_square {key : Value} {sorted : Bool} {column : Nat} (square : values.length = width * width)
    (inside : column < width) :
    findRow key sorted column (rowsOf width values) = firstHit key sorted (leadsOf width column values) := by
  have wide : 0 < width := by omega
  rw [findRow_eq_firstHit]
  refine congrArg _ (List.ext_getElem? fun row => ?_)
  rw [List.getElem?_map, getElem?_rowsOf wide, square]
  by_cases present : row < width
  · rw [if_pos (Nat.mul_lt_mul_of_pos_right present wide), Option.map_some, argument_take_drop wide,
      argument_take_drop inside]
    simp [leadsOf, present]
  · rw [if_neg (by simpa using Nat.mul_le_mul_right width (Nat.le_of_not_lt present))]
    simp [leadsOf, present]

def Transposed (width : Nat) (values others : List Value) : Prop :=
  others.length = values.length ∧
    ∀ row < width, ∀ column < width, others[column * width + row]? = values[row * width + column]?

theorem Transposed.argument_eq {others : List Value} {row column : Nat} (transposed : Transposed width values others)
    (rowInside : row < width) (columnInside : column < width) :
    argument others (column * width + row) = argument values (row * width + column) := by
  simp only [argument, List.getD, transposed.2 row rowInside column columnInside]

theorem findColumn_square {key : Value} {sorted : Bool} {others : List Value} {row : Nat}
    (square : values.length = width * width) (transposed : Transposed width values others) (inside : row < width) :
    findColumn key sorted ((rowsOf width others).getD row []) 0 ((rowsOf width others).headD []) =
      firstHit key sorted (leadsOf width row values) := by
  have wide : 0 < width := by omega
  have otherSquare : others.length = width * width := transposed.1.trans square
  have long : width ≤ others.length := by
    rw [otherSquare]
    exact Nat.le_mul_self width
  have present : row < (rowsOf width others).length := by
    rw [lt_length_rowsOf wide, otherSquare]
    exact Nat.mul_lt_mul_of_pos_right inside wide
  have some : others ≠ [] := List.length_pos_iff.mp (wide.trans_le long)
  have first : (rowsOf width others).headD [] = others.take width := by rw [rowsOf_of_ne_nil wide some, List.headD_cons]
  rw [findColumn_eq_firstHit, first]
  refine congrArg _ (List.ext_getElem? fun column => ?_)
  rw [List.getElem?_map, List.getElem?_zipIdx, List.getElem?_take]
  by_cases within : column < width
  · have lead := transposed.argument_eq within wide
    have entry := transposed.argument_eq within inside
    rw [Nat.zero_mul, Nat.zero_add, Nat.add_zero] at lead
    rw [if_pos within, getElem?_eq_argument (within.trans_le long)]
    simp only [Option.map_some, Nat.zero_add, argument_row wide present within, lead, entry]
    simp [leadsOf, within]
  · rw [if_neg within]
    simp [leadsOf, within]

theorem flatten_of_flat (flat : ∀ value ∈ values, ∀ parts, value ≠ .list parts) : Value.flatten values = values := by
  induction values with
  | nil => rfl
  | cons value values ih =>
    have single : value.leaves = [value] := by
      cases value with
      | list parts => exact absurd rfl (flat _ List.mem_cons_self parts)
      | _ => rfl
    rw [Value.flatten, single, ih fun other member => flat other (List.mem_cons_of_mem _ member)]
    rfl

theorem Transposed.flat {others : List Value} (transposed : Transposed width values others)
    (square : values.length = width * width) (flat : ∀ value ∈ values, ∀ parts, value ≠ .list parts) :
    ∀ value ∈ others, ∀ parts, value ≠ .list parts := by
  intro value member
  obtain ⟨place, present⟩ := List.mem_iff_getElem?.mp member
  have inside : place < width * width := by
    rw [← square, ← transposed.1]
    exact (List.getElem?_eq_some_iff.mp present).1
  have wide : 0 < width := Nat.pos_of_mul_pos_right (Nat.zero_lt_of_lt inside)
  have found := transposed.2 (place % width) (Nat.mod_lt _ wide) (place / width) (Nat.div_lt_of_lt_mul inside)
  rw [Nat.div_add_mod' place width, present] at found
  exact flat value (List.mem_of_getElem? found.symm)

theorem lookupVertical_eq (key range column : Value) (flag : Option Value) :
    lookupVertical (key :: range :: column :: flag.toList) = column.toInteger >>= fun number =>
      if number < 1 ∨ number > ((grid range.entries).headD []).length then .ok (.error .reference)
      else findRow key (flag.all isSortedFlag) (number.toNat - 1) (grid range.entries) := by
  cases flag <;> rfl

theorem lookupHorizontal_eq (key range row : Value) (flag : Option Value) :
    lookupHorizontal (key :: range :: row :: flag.toList) = row.toInteger >>= fun number =>
      if number < 1 ∨ number > (grid range.entries).length then .ok (.error .reference)
      else findColumn key (flag.all isSortedFlag) ((grid range.entries).getD (number.toNat - 1) []) 0
        ((grid range.entries).headD []) := by
  cases flag <;> rfl

theorem grid_square (square : values.length = width * width) : grid values = rowsOf width values := by
  rw [grid, square, gridWidth_mul_self]

theorem length_headD_square (square : values.length = width * width) :
    ((rowsOf width values).headD []).length = width := by
  rcases Nat.eq_zero_or_pos width with rfl | wide
  · rw [List.eq_nil_of_length_eq_zero square, rowsOf_nil]
    rfl
  · exact length_headD_rowsOf wide (square ▸ Nat.le_mul_self width)

theorem length_square (square : values.length = width * width) : (rowsOf width values).length = width := by
  rcases Nat.eq_zero_or_pos width with rfl | wide
  · rw [List.eq_nil_of_length_eq_zero square, rowsOf_nil]
    rfl
  · refine Nat.eq_of_le_of_lt_succ ?_ ?_
    · by_contra few
      have inside : (rowsOf width values).length * width < values.length := by
        rw [square]
        exact Nat.mul_lt_mul_of_pos_right (Nat.lt_of_not_le few) wide
      exact Nat.lt_irrefl _ ((lt_length_rowsOf wide).mpr inside)
    · by_contra many
      have present := (lt_length_rowsOf wide).mp (Nat.lt_of_succ_le (Nat.le_of_not_lt many))
      rw [square] at present
      exact Nat.lt_irrefl _ present

def lookupLeads (width : Nat) (values : List Value) (key index : Value) (sorted : Bool) : Except Failure Value := do
  let number ← index.toInteger
  if number < 1 ∨ number > width then .ok (.error .reference)
  else firstHit key sorted (leadsOf width (number.toNat - 1) values)

theorem lookupVertical_square (square : values.length = width * width)
    (flat : ∀ value ∈ values, ∀ parts, value ≠ .list parts) (key index : Value) (flag : Option Value) :
    lookupVertical (key :: .list values :: index :: flag.toList) =
      lookupLeads width values key index (flag.all isSortedFlag) := by
  have entries : (Value.list values).entries = values := flatten_of_flat flat
  rw [lookupVertical_eq, entries, grid_square square, length_headD_square square, lookupLeads]
  refine congrArg _ (funext fun number => ?_)
  by_cases outside : number < 1 ∨ number > (width : Int)
  · rw [if_pos outside, if_pos outside]
  · rw [if_neg outside, if_neg outside, findRow_square square (by omega)]

theorem lookupHorizontal_square {others : List Value} (square : values.length = width * width)
    (flat : ∀ value ∈ values, ∀ parts, value ≠ .list parts) (transposed : Transposed width values others)
    (key index : Value) (flag : Option Value) :
    lookupHorizontal (key :: .list others :: index :: flag.toList) =
      lookupLeads width values key index (flag.all isSortedFlag) := by
  have entries : (Value.list others).entries = others := flatten_of_flat (transposed.flat square flat)
  have otherSquare : others.length = width * width := transposed.1.trans square
  rw [lookupHorizontal_eq, entries, grid_square otherSquare, length_square otherSquare, lookupLeads]
  refine congrArg _ (funext fun number => ?_)
  by_cases outside : number < 1 ∨ number > (width : Int)
  · rw [if_pos outside, if_pos outside]
  · rw [if_neg outside, if_neg outside, findColumn_square square transposed (by omega)]

/-- Looking a key up down the first column of a square grid and along the first row of its transpose have the same
answer or the same failure. There is no reference if the index is none of the grid's. Otherwise the leading entries are
tried in order: the first hit gives the entry with the index in its line, a failed comparison before it fails the
lookup, and without a hit none is available. -/
theorem lookups_transposed {others : List Value} (square : values.length = width * width)
    (flat : ∀ value ∈ values, ∀ parts, value ≠ .list parts) (transposed : Transposed width values others)
    (key index : Value) (flag : Option Value) :
    ∃ answer, lookupVertical (key :: .list values :: index :: flag.toList) = answer ∧
      lookupHorizontal (key :: .list others :: index :: flag.toList) = answer ∧
      (∀ failure, index.toInteger = .error failure → answer = .error failure) ∧
      ∀ number, index.toInteger = .ok number →
        (number < 1 ∨ width < number → answer = .ok (.error .reference)) ∧
        (1 ≤ number → number ≤ width →
          ((∀ line < width, isHit (argument values (line * width)) key (flag.all isSortedFlag) = .ok false) →
            answer = .ok (.error .notAvailable)) ∧
          ∀ line < width,
            (∀ before < line, isHit (argument values (before * width)) key (flag.all isSortedFlag) = .ok false) →
            (isHit (argument values (line * width)) key (flag.all isSortedFlag) = .ok true →
              answer = .ok (argument values (line * width + (number.toNat - 1)))) ∧
            ∀ failure, isHit (argument values (line * width)) key (flag.all isSortedFlag) = .error failure →
              answer = .error failure) := by
  refine ⟨_, lookupVertical_square square flat key index flag,
    lookupHorizontal_square square flat transposed key index flag, ?_, ?_⟩
  · intro failure unread
    rw [lookupLeads, unread]
    rfl
  · intro number read
    have opened : lookupLeads width values key index (flag.all isSortedFlag) =
        if number < 1 ∨ number > (width : Int) then .ok (.error .reference)
        else firstHit key (flag.all isSortedFlag) (leadsOf width (number.toNat - 1) values) := by
      rw [lookupLeads, read]
      rfl
    rw [opened]
    refine ⟨fun outside => if_pos outside, ?_⟩
    intro start stop
    rw [if_neg (by omega)]
    constructor
    · intro misses
      refine firstHit_of_misses fun pair member => ?_
      obtain ⟨line, inside, rfl⟩ := List.mem_map.mp member
      exact misses line (List.mem_range.mp inside)
    · intro line inside misses
      rw [firstHit_leadsOf inside misses]
      constructor
      · intro hit
        rw [hit]
        rfl
      · intro failure failed
        rw [failed]
        rfl

theorem lookups_transposed_of_two :
    Transposed 2 [.text ['a'], .integer 1, .text ['b'], .integer 2] [.text ['a'], .text ['b'], .integer 1, .integer 2] ∧
      lookupVertical [.text ['B'], .list [.text ['a'], .integer 1, .text ['b'], .integer 2], .integer 2] =
        .ok (.integer 2) ∧
      lookupHorizontal [.text ['B'], .list [.text ['a'], .text ['b'], .integer 1, .integer 2], .integer 2] =
        .ok (.integer 2) := by
  have flat : ∀ value ∈ [Value.text ['a'], .integer 1, .text ['b'], .integer 2], ∀ parts, value ≠ .list parts := by
    simp [Value.integer]
  have transposed : Transposed 2 [.text ['a'], .integer 1, .text ['b'], .integer 2]
      [.text ['a'], .text ['b'], .integer 1, .integer 2] := ⟨rfl, by decide⟩
  have square : [Value.text ['a'], .integer 1, .text ['b'], .integer 2].length = 2 * 2 := rfl
  have miss : isHit (.text ['a']) (.text ['B']) true = .ok false := by decide +kernel
  have hit : isHit (.text ['b']) (.text ['B']) true = .ok true := by decide +kernel
  obtain ⟨answer, vertical, horizontal, _, answers⟩ :=
    lookups_transposed square flat transposed (.text ['B']) (.integer 2) none
  have found : answer = .ok (.integer 2) := by
    refine (((answers 2 rfl).2 (by decide) (by decide)).2 1 (by decide) ?_).1 hit
    intro before less
    obtain rfl : before = 0 := by omega
    exact miss
  exact ⟨transposed, vertical.trans found, horizontal.trans found⟩

end Worksheet.Builtin
