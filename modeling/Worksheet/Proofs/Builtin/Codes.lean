import Worksheet.Formula.Evaluation
import Worksheet.Proofs.Outcome
import Worksheet.Proofs.Value.Codes

/-! Where the error codes in the result of a function come from: it passes them on from its arguments, or gives one of
the three codes that say what is wrong with these. -/

namespace Worksheet

variable {zone : Zone}

namespace Builtin

variable {permitted : ErrorCode → Prop} {arguments : List Value}

def Traced (builtin : Builtin) : Prop :=
  ∀ permitted : ErrorCode → Prop, (∀ code, code.isOrdinary = true → permitted code) →
    ∀ ambient arguments, Value.AllWithin permitted arguments → Returns permitted (builtin.run ambient arguments)

/-! ## Results without codes -/

theorem returns_numeric (compute : List Number → Except Failure Number) :
    Returns permitted (numeric compute arguments) :=
  .bind fun _ => .bind fun _ => .bare rfl

theorem returns_sumIf : Returns permitted (sumIf arguments) :=
  .bind fun _ => .bind fun _ => .bind fun _ => .bare rfl

theorem returns_sumIfs : Returns permitted (sumIfs arguments) :=
  .ite (.error _) (.bind fun _ => .bind fun _ => .bind fun _ => .bare rfl)

theorem returns_averageIf : Returns permitted (averageIf arguments) :=
  .bind fun _ => .bind fun _ => .ite (.bare rfl) (.bind fun _ => .bind fun _ => .bare rfl)

theorem returns_round : Returns permitted (round arguments) :=
  .bind fun _ => .bind fun _ => .bind fun _ => .bind fun _ => .bind fun _ => .bind fun _ => .bind fun _ => .bare rfl

theorem returns_roundMagnitude (whole : Number → Except Failure Int) :
    Returns permitted (roundMagnitude whole arguments) :=
  .bind fun _ => .bind fun _ => .bind fun _ => .bind fun _ => .bind fun _ => .bind fun _ => .bind fun _ => .bare rfl

theorem returns_roundMultiple (whole : Number → Except Failure Int) :
    Returns permitted (roundMultiple whole arguments) :=
  .bind fun _ => .ite (.bind fun _ => .bare rfl)
    (.bind fun _ => .ite (.bare rfl) (.bind fun _ => .bind fun _ => .bind fun _ => .bare rfl))

theorem returns_root : Returns permitted (root arguments) :=
  .bind fun _ => .bind fun _ => .ite (.bare rfl) (.bind fun _ => .bare rfl)

theorem returns_powerOfValues (base exponent : Value) : Returns permitted (powerOfValues base exponent) :=
  .bind fun _ => .bind fun _ => .bind fun _ => .bind fun _ => .bare rfl

theorem returns_power : Returns permitted (power arguments) := by
  refine .bind fun _ => ?_
  split
  · exact .bare rfl
  · exact .bare rfl
  · exact returns_powerOfValues _ _

theorem returns_remainder : Returns permitted (remainder arguments) :=
  .bind fun _ => .bind fun _ => .ite (.error _) (.bind fun _ => .bind fun _ => .bare rfl)

theorem returns_logarithm : Returns permitted (logarithm arguments) := by
  have later (base : Number) : Returns permitted (do
      let number ← numberAt arguments 0
      let top ← logNumber number
      let bottom ← logNumber base
      return .number (← (Number.double top).div (.double bottom))) :=
    .bind fun _ => .bind fun _ => .bind fun _ => .bind fun _ => .bare rfl
  exact .bind fun _ => .ite (.bind later) (.bind later)

theorem returns_exponential : Returns permitted (exponential arguments) :=
  .bind fun _ => .bind fun _ => .bind fun _ => .ite (.error _) (.bare rfl)

theorem returns_randomBetween (ambient : Ambient) : Returns permitted (randomBetween ambient arguments) :=
  .bind fun _ => .bind fun _ => .bind fun _ => .bind fun _ => .bind fun _ => .ite (.error _) (.bare rfl)

theorem returns_today (ambient : Ambient) : Returns permitted (today ambient arguments) := by
  refine .bind fun _ => ?_
  split
  · exact .bare rfl
  · exact .error _

theorem returns_textJoin : Returns permitted (textJoin arguments) :=
  .bind fun _ => .bind fun _ => .bind fun _ => .bind fun _ => .bare rfl

theorem returns_leftPart : Returns permitted (leftPart arguments) :=
  .bind fun _ => .bind fun _ => .bind fun _ => .bare rfl

theorem returns_rightPart : Returns permitted (rightPart arguments) :=
  .bind fun _ => .bind fun _ => .bind fun _ => .bare rfl

theorem returns_partValue (part : Text) : Returns permitted (partValue part) := by
  refine .bind fun found => ?_
  cases found with
  | some number => exact .bare rfl
  | none => exact .bare rfl

theorem returns_split : Returns permitted (split arguments) := by
  refine .bind fun _ => .bind fun text => .bind fun delimiter => ?_
  have parts (pieces : List Text) :
      ∀ values, pieces.mapM partValue = .ok values → Value.AllWithin permitted values := by
    induction pieces with
    | nil =>
      rintro _ ⟨⟩
      exact .nil
    | cons piece rest ih =>
      intro values mapped
      rw [List.mapM_cons] at mapped
      obtain ⟨value, first, onward⟩ := bind_eq_ok.mp mapped
      obtain ⟨others, later, equal⟩ := bind_eq_ok.mp onward
      cases equal
      exact .cons (returns_partValue piece value first) (ih others later)
  cases mapped : (Text.splitOn delimiter text).mapM partValue with
  | error failure => exact .error failure
  | ok values => exact .ok (Value.within_list.mpr (parts _ values mapped))

theorem returns_formatNumber (value : Value) (picture : Text) : Returns permitted (formatNumber value picture) :=
  .bind fun _ => .ite (.bind fun _ => .bind fun _ => .bare rfl) (.bind fun _ => .bare rfl)

theorem returns_ask (name : String) (question : Value → Except Failure Bool) :
    Returns permitted (ask name question arguments) :=
  .bind fun _ => .bind fun _ => .bare rfl

/-! ## Codes for wrong arguments -/

section Ordinary

variable (ordinary : ∀ code : ErrorCode, code.isOrdinary = true → permitted code)

include ordinary

omit ordinary in
theorem returns_onText (name : String) {compute : Text → Value}
    (results : ∀ text, Returns permitted (.ok (compute text))) : Returns permitted (onText name compute arguments) :=
  .bind fun _ => .bind fun text => results text

theorem returns_characterCode (text : Text) : Returns permitted (.ok (characterCode text)) := by
  cases text with
  | nil => exact .code ordinary rfl
  | cons char rest => exact .bare rfl

theorem returns_middlePart : Returns permitted (middlePart arguments) :=
  .bind fun _ => .bind fun _ => .bind fun _ => .bind fun _ => .ite (.code ordinary rfl) (.bare rfl)

theorem returns_replacePart : Returns permitted (replacePart arguments) :=
  .bind fun _ => .bind fun _ => .bind fun _ => .bind fun _ =>
    .ite (.code ordinary rfl) (.bind fun _ => .bare rfl)

theorem returns_substitute : Returns permitted (substitute arguments) := by
  refine .bind fun _ => .bind fun text => .bind fun old => .bind fun new => .ite (.bare rfl) (.ite (.bare rfl) ?_)
  refine .bind fun wanted => .ite (.code ordinary rfl) ?_
  split
  · exact .bare rfl
  · exact .bare rfl

theorem returns_foundAt (found : Option Nat) : Returns permitted (.ok (foundAt found)) := by
  cases found with
  | some position => exact .bare rfl
  | none => exact .code ordinary rfl

theorem returns_findText : Returns permitted (findText arguments) := by
  refine .bind fun _ => .bind fun needle => .bind fun text => .bind fun start => ?_
  cases start with
  | some start => exact returns_foundAt ordinary _
  | none => exact .code ordinary rfl

theorem returns_searchText : Returns permitted (searchText arguments) := by
  refine .bind fun _ => .bind fun needle => .bind fun text => .bind fun start => ?_
  cases start with
  | some start => exact returns_foundAt ordinary _
  | none => exact .code ordinary rfl

theorem returns_repeatText : Returns permitted (repeatText arguments) :=
  .bind fun _ => .bind fun _ => .ite (.code ordinary rfl)
    (.bind fun _ => .ite (.error _) (.ite (.error _) (.bare rfl)))

theorem returns_character : Returns permitted (character arguments) :=
  .bind fun _ => .bind fun _ => .ite (.code ordinary rfl) (.bare rfl)

theorem returns_numberOfText : Returns permitted (numberOfText arguments) := by
  refine .bind fun _ => ?_
  split
  · exact .bare rfl
  · refine .bind fun text => .bind fun found => ?_
    cases found with
    | none => exact .code ordinary rfl
    | some number => exact .ite (.bind fun _ => .bare rfl) (.bind fun _ => .bare rfl)

theorem returns_formatMoment (value : Value) (picture : Text) :
    Returns permitted (formatMoment zone value picture) := by
  refine .bind fun moment => ?_
  cases moment with
  | some moment => exact .bind fun _ => .bare rfl
  | none => exact .code ordinary rfl

theorem returns_format : Returns permitted (format zone arguments) :=
  .bind fun _ => .bind fun _ => .ite (returns_formatNumber _ _)
    (.ite (returns_formatMoment ordinary _ _) (.bind fun _ => .bare rfl))

theorem returns_dateValue (date : Option Date) : Returns permitted (.ok (dateValue date)) := by
  cases date with
  | some date => exact .bare rfl
  | none => exact .code ordinary rfl

theorem returns_dateOfParts : Returns permitted (dateOfParts arguments) :=
  .bind fun _ => .bind fun _ => .bind fun _ => .bind fun _ => returns_dateValue ordinary _

theorem returns_timeOfParts : Returns permitted (timeOfParts arguments) :=
  .bind fun _ => .bind fun _ => .bind fun _ => .bind fun _ => .ite (.code ordinary rfl) (.bare rfl)

theorem returns_momentPart (name : String) (part : DateTime → Nat) :
    Returns permitted (momentPart name part zone arguments) := by
  refine .bind fun _ => .bind fun moment => ?_
  cases moment with
  | some moment => exact .bare rfl
  | none => exact .code ordinary rfl

theorem returns_weekdayNumber : Returns permitted (weekdayNumber zone arguments) := by
  refine .bind fun _ => .bind fun moment => ?_
  cases moment with
  | none => exact .code ordinary rfl
  | some moment =>
    exact .bind fun _ => .ite (.bare rfl) (.ite (.bare rfl) (.ite (.bare rfl) (.code ordinary rfl)))

theorem returns_weekNumber : Returns permitted (weekNumber zone arguments) := by
  refine .bind fun _ => .bind fun moment => ?_
  cases moment with
  | none => exact .code ordinary rfl
  | some moment => exact .bind fun _ => .ite (.bare rfl) (.ite (.bare rfl) (.code ordinary rfl))

theorem returns_distance (start stop : Date) (unit : Text) : Returns permitted (distance start stop unit) :=
  .ite (.bare rfl) (.ite (.bare rfl) (.ite (.bare rfl) (.ite (.bare rfl) (.ite (.bare rfl)
    (.ite (.bind fun _ => .bare rfl) (.code ordinary rfl))))))

theorem returns_dateDifference : Returns permitted (dateDifference zone arguments) := by
  refine .bind fun _ => .bind fun dates => ?_
  split
  · exact .ite (.code ordinary rfl) (.bind fun _ => returns_distance ordinary _ _ _)
  · exact .code ordinary rfl

theorem returns_shiftMonths : Returns permitted (shiftMonths zone arguments) := by
  refine .bind fun _ => .bind fun dates => ?_
  split
  · exact .bind fun _ => returns_dateValue ordinary _
  · exact .code ordinary rfl

theorem returns_endOfMonth : Returns permitted (endOfMonth zone arguments) := by
  refine .bind fun _ => .bind fun dates => ?_
  split
  · exact .bind fun _ => returns_dateValue ordinary _
  · exact .code ordinary rfl

theorem returns_networkDays : Returns permitted (networkDays zone arguments) := by
  refine .bind fun _ => .bind fun dates => ?_
  split
  · refine .bind fun holidays => ?_
    cases holidays with
    | none => exact .code ordinary rfl
    | some holidays => exact .ite (.error _) (.bare rfl)
  · exact .code ordinary rfl

theorem returns_combine (name : String) (decide : List Bool → Bool) :
    Returns permitted (combine name decide arguments) :=
  .bind fun _ => .ite (.code ordinary rfl) (.bind fun _ => .bare rfl)

theorem returns_positionValue (found : Option Nat) : Returns permitted (.ok (positionValue found)) := by
  cases found with
  | some index => exact .bare rfl
  | none => exact .code ordinary rfl

theorem returns_position : Returns permitted (position arguments) := by
  have found {search : Except Failure (Option Nat)} :
      Returns permitted (search >>= fun found => pure (positionValue found)) :=
    .bind fun found => returns_positionValue ordinary found
  refine .bind fun _ => .ite (.bind fun kind => .ite ?_ found) (.bind fun kind => .ite ?_ found)
  · split
    · exact found
    · exact found
  · split
    · exact found
    · exact found

/-! ## Codes passed on -/

theorem returns_findRow {rows : List (List Value)} (rowsWithin : ∀ row ∈ rows, Value.AllWithin permitted row)
    (key : Value) (sorted : Bool) (column : Nat) : Returns permitted (findRow key sorted column rows) := by
  induction rows with
  | nil => exact .code ordinary rfl
  | cons row rest ih =>
    have first := rowsWithin row List.mem_cons_self
    have later := ih fun other member => rowsWithin other (List.mem_cons_of_mem row member)
    exact .bind fun _ => .ite (.ok (first.argument column)) later

theorem returns_findColumn {target : List Value} (targetWithin : Value.AllWithin permitted target)
    (key : Value) (sorted : Bool) (index : Nat) (candidates : List Value) :
    Returns permitted (findColumn key sorted target index candidates) := by
  induction candidates generalizing index with
  | nil => exact .code ordinary rfl
  | cons candidate rest ih => exact .bind fun _ => .ite (.ok (targetWithin.argument index)) (ih (index + 1))

theorem returns_firstHolding {values : List Value} (within : Value.AllWithin permitted values) :
    Returns permitted (firstHolding values) := by
  fun_induction firstHolding values with
  | case1 code value rest => exact .ok (within _ List.mem_cons_self)
  | case2 condition value rest notError ih =>
    have result := within value (by simp)
    have later := ih (within.subset (by simp))
    exact .bind fun _ => .ite (.ok result) later
  | case3 values other others => exact .code ordinary rfl

theorem returns_firstCase {values : List Value} (within : Value.AllWithin permitted values) (value : Value) :
    Returns permitted (firstCase value values) := by
  fun_induction firstCase value values with
  | case1 candidate result rest ih =>
    have chosen := within result (by simp)
    have later := ih (within.subset (by simp))
    exact .bind fun _ => .ite (.ok chosen) later
  | case2 default => exact .ok (within default List.mem_cons_self)
  | case3 => exact .code ordinary rfl

omit ordinary in
theorem subset_of_mem_rowsOf {width : Nat} {values row : List Value} (member : row ∈ rowsOf width values) :
    row ⊆ values := by
  fun_induction rowsOf width values with
  | case1 => cases member
  | case2 => cases member
  | case3 narrow first rest ih =>
    rcases List.mem_cons.mp member with rfl | later
    · exact List.take_subset _ _
    · exact List.Subset.trans (ih later) (List.drop_subset _ _)

section Passing

variable (within : Value.AllWithin permitted arguments)

include within

omit ordinary in
theorem within_grid (index : Nat) :
    ∀ row ∈ grid (argument arguments index).entries, Value.AllWithin permitted row :=
  fun _ member => (within.argument index).entries.subset (subset_of_mem_rowsOf member)

omit ordinary in
theorem within_row (index row : Nat) :
    Value.AllWithin permitted ((grid (argument arguments index).entries).getD row []) := by
  rw [List.getD_eq_getElem?_getD]
  cases found : (grid (argument arguments index).entries)[row]? with
  | none => exact .nil
  | some values => exact within_grid within index values (List.mem_of_getElem? found)

theorem returns_lookupVertical : Returns permitted (lookupVertical arguments) :=
  .bind fun _ => .bind fun _ => .ite (.code ordinary rfl)
    (returns_findRow ordinary (within_grid within 1) _ _ _)

theorem returns_lookupHorizontal : Returns permitted (lookupHorizontal arguments) :=
  .bind fun _ => .bind fun _ => .ite (.code ordinary rfl)
    (returns_findColumn ordinary (within_row within 1 _) _ _ _ _)

theorem returns_index : Returns permitted (index arguments) := by
  refine .bind fun _ => .ite ?_ ?_
  · exact .bind fun _ => .ite (.code ordinary rfl) (.ok ((within.argument 0).entries.argument _))
  · exact .bind fun _ => .bind fun _ => .ite (.code ordinary rfl) (.ok ((within_row within 0 _).argument _))

theorem returns_lookup : Returns permitted (lookup arguments) := by
  refine .bind fun _ => .bind fun found => ?_
  cases found with
  | none => exact .code ordinary rfl
  | some found =>
    have otherwise : (Value.error .notAvailable).Within permitted :=
      Value.within_error.mpr (ordinary .notAvailable rfl)
    refine .ok (Value.AllWithin.getD ?_ otherwise found)
    split
    · exact (within.argument 2).entries
    · exact (within.argument 1).entries

omit ordinary in
theorem returns_zeroIfMissing (index : Nat) : Returns permitted (.ok (zeroIfMissing (argument arguments index))) := by
  unfold zeroIfMissing
  split
  · exact .bare rfl
  · exact .ok (within.argument index)

omit ordinary in
theorem returns_choose : Returns permitted (choose arguments) := by
  refine .bind fun _ => ?_
  split
  next code condition =>
    have passed := within.argument 0
    rw [condition] at passed
    exact .ok passed
  next => exact .bind fun _ => .ite (returns_zeroIfMissing within 1) (returns_zeroIfMissing within 2)

theorem returns_chooseFirst : Returns permitted (chooseFirst arguments) :=
  .ite (.error _) (returns_firstHolding ordinary within)

theorem returns_switch : Returns permitted (switch arguments) := by
  refine .bind fun _ => ?_
  split
  · exact .ok (within _ List.mem_cons_self)
  · exact returns_firstCase ordinary (within.subset (by simp)) _
  · exact .code ordinary rfl

omit ordinary in
theorem returns_ifError : Returns permitted (ifError arguments) := by
  refine .bind fun _ => .ok ?_
  split
  · exact within.argument 1
  · exact within.argument 0

omit ordinary in
theorem returns_ifNotAvailable : Returns permitted (ifNotAvailable arguments) := by
  refine .bind fun _ => .ok ?_
  split
  · exact within.argument 1
  · exact within.argument 0

end Passing

end Ordinary

/-! ## The table -/

theorem traced_aggregates : ∀ builtin ∈ aggregates, builtin.Traced := by
  have sums (compute : List Number → Except Failure Number) (name : String) :
      (plain name (numeric compute)).Traced := fun _ _ _ _ _ => returns_numeric compute
  have counts (name : String) (counted : Value → Bool) : (plain name (counting counted)).Traced :=
    fun _ _ _ _ _ => .bare rfl
  simp only [aggregates, List.forall_mem_cons, sums, counts, true_and]
  exact ⟨fun _ _ _ _ _ => returns_sumIf, fun _ _ _ _ _ => returns_sumIfs, fun _ _ _ _ _ => returns_averageIf,
    fun _ _ _ _ _ => .bind fun _ => .bind fun _ => .bare rfl,
    fun _ _ _ _ _ => .bind fun _ => .bind fun _ => .bare rfl, nofun⟩

theorem traced_arithmetic : ∀ builtin ∈ arithmetic, builtin.Traced := by
  have magnitudes (name : String) (whole : Number → Except Failure Int) :
      (plain name fun arguments => do require name arguments 1 2; roundMagnitude whole arguments).Traced :=
    fun _ _ _ _ _ => .bind fun _ => returns_roundMagnitude whole
  have multiples (name : String) (whole : Number → Except Failure Int) :
      (plain name fun arguments => do require name arguments 1 2; roundMultiple whole arguments).Traced :=
    fun _ _ _ _ _ => .bind fun _ => returns_roundMultiple whole
  simp only [arithmetic, List.forall_mem_cons]
  exact ⟨fun _ _ _ _ _ => returns_round, magnitudes _ _, magnitudes _ _, magnitudes _ _, multiples _ _,
    multiples _ _, fun _ _ _ _ _ => .bind fun _ => .bind fun _ => .bare rfl, fun _ _ _ _ _ => returns_root,
    fun _ _ _ _ _ => returns_power, fun _ _ _ _ _ => returns_remainder, fun _ _ _ _ _ => returns_logarithm,
    fun _ _ _ _ _ => .bind fun _ => .bind fun _ => .bind fun _ => .bare rfl,
    fun _ _ _ _ _ => returns_exponential, fun _ _ _ _ _ => .bind fun _ => .bare rfl,
    fun _ _ _ _ _ => .bind fun _ => .bare rfl, fun _ _ ambient _ _ => returns_randomBetween ambient, nofun⟩

theorem traced_lookups : ∀ builtin ∈ lookups, builtin.Traced := by
  simp only [lookups, List.forall_mem_cons]
  exact ⟨fun _ ordinary _ _ within => returns_lookupVertical ordinary within,
    fun _ ordinary _ _ within => returns_lookupHorizontal ordinary within,
    fun _ ordinary _ _ within => returns_index ordinary within,
    fun _ ordinary _ _ _ => returns_position ordinary,
    fun _ ordinary _ _ within => returns_lookup ordinary within, nofun⟩

theorem traced_logic : ∀ builtin ∈ logic, builtin.Traced := by
  have combines (name : String) (decide : List Bool → Bool) : (plain name (combine name decide)).Traced :=
    fun _ ordinary _ _ _ => returns_combine ordinary name decide
  have asks (name : String) (question : Value → Except Failure Bool) :
      (errorAware name (ask name question)).Traced := fun _ _ _ _ _ => returns_ask name question
  simp only [logic, List.forall_mem_cons, combines, asks, true_and]
  exact ⟨fun _ _ _ _ within => returns_choose within,
    fun _ ordinary _ _ within => returns_chooseFirst ordinary within,
    fun _ _ _ _ _ => .bind fun _ => .bind fun _ => .bare rfl,
    fun _ ordinary _ _ within => returns_switch ordinary within,
    fun _ _ _ _ within => returns_ifError within,
    fun _ _ _ _ within => returns_ifNotAvailable within, nofun⟩

theorem traced_texts : ∀ builtin ∈ texts, builtin.Traced := by
  have changed (name : String) (change : Text → Text) :
      (plain name (onText name fun text => .text (change text))).Traced :=
    fun _ _ _ _ _ => returns_onText name fun _ => .bare rfl
  simp only [texts, List.forall_mem_cons]
  exact ⟨fun _ _ _ _ _ => .bind fun _ => .bare rfl, fun _ _ _ _ _ => .bind fun _ => .bare rfl,
    fun _ _ _ _ _ => returns_textJoin, fun _ _ _ _ _ => returns_onText _ fun _ => .bare rfl,
    changed _ _, changed _ _, changed _ _, changed _ _, changed _ _,
    fun _ _ _ _ _ => returns_leftPart, fun _ _ _ _ _ => returns_rightPart,
    fun _ ordinary _ _ _ => returns_middlePart ordinary, fun _ ordinary _ _ _ => returns_replacePart ordinary,
    fun _ ordinary _ _ _ => returns_substitute ordinary, fun _ ordinary _ _ _ => returns_findText ordinary,
    fun _ ordinary _ _ _ => returns_searchText ordinary, fun _ ordinary _ _ _ => returns_repeatText ordinary,
    fun _ ordinary _ _ _ => returns_character ordinary,
    fun _ ordinary _ _ _ => returns_onText _ (returns_characterCode ordinary),
    fun _ ordinary _ _ _ => returns_numberOfText ordinary, fun _ _ _ _ _ => returns_split,
    fun _ ordinary _ _ _ => returns_format ordinary, nofun⟩

theorem traced_dates : ∀ builtin ∈ dates, builtin.Traced := by
  have parts (name : String) (part : DateTime → Nat) : (ofDates name (momentPart name part)).Traced :=
    fun _ ordinary _ _ _ => returns_momentPart ordinary name part
  simp only [dates, List.forall_mem_cons, parts, true_and]
  exact ⟨fun _ _ _ _ _ => .bind fun _ => .bare rfl, fun _ _ ambient _ _ => returns_today ambient,
    fun _ ordinary _ _ _ => returns_dateOfParts ordinary, fun _ ordinary _ _ _ => returns_timeOfParts ordinary,
    fun _ ordinary _ _ _ => returns_weekdayNumber ordinary, fun _ ordinary _ _ _ => returns_weekNumber ordinary,
    fun _ ordinary _ _ _ => returns_dateDifference ordinary, fun _ ordinary _ _ _ => returns_shiftMonths ordinary,
    fun _ ordinary _ _ _ => returns_endOfMonth ordinary, fun _ ordinary _ _ _ => returns_networkDays ordinary,
    nofun⟩

theorem traced_of_mem {builtin : Builtin} (member : builtin ∈ all) : builtin.Traced := by
  simp only [all, List.mem_append] at member
  rcases member with ((((sum | number) | range) | truth) | text) | date
  · exact traced_aggregates builtin sum
  · exact traced_arithmetic builtin number
  · exact traced_lookups builtin range
  · exact traced_logic builtin truth
  · exact traced_texts builtin text
  · exact traced_dates builtin date

end Builtin

end Worksheet
