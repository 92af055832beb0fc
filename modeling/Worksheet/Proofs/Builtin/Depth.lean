import Worksheet.Proofs.Builtin.Codes
import Worksheet.Proofs.Value.Limits

/-! No function fails in the way in which a formula fails that is nested too deep. What its steps fail with is
collected along the way; `grind` follows the steps of a function by the lemmas tagged here. -/

namespace Worksheet

variable {zone : Zone}

variable {α β : Type}

def Failure.isDepth : Failure → Bool
  | tooDeep _ _ => true
  | _ => false

attribute [grind =] Failure.isDepth

def Shallow (result : Except Failure α) : Prop :=
  ∀ failure, result = .error failure → failure.isDepth = false

namespace Shallow

@[grind .] theorem ok (value : α) : Shallow (.ok value) :=
  nofun

@[grind .] theorem pure (value : α) : Shallow (Pure.pure value : Except Failure α) :=
  nofun

@[grind ←] theorem error {failure : Failure} (other : failure.isDepth = false) :
    Shallow (.error failure : Except Failure α) := by
  rintro _ ⟨⟩
  exact other

@[grind ←] theorem throw {failure : Failure} (other : failure.isDepth = false) :
    Shallow (throw failure : Except Failure α) :=
  error other

@[grind ←] theorem bind {first : Except Failure α} {next : α → Except Failure β} (before : Shallow first)
    (after : ∀ value, Shallow (next value)) : Shallow (first >>= next) := by
  cases first with
  | error failure =>
    rintro _ ⟨⟩
    exact before failure rfl
  | ok value => exact after value

@[grind ←] theorem map {result : Except Failure α} (inside : Shallow result) (onto : α → β) :
    Shallow (result.map onto) := by
  cases result with
  | error failure =>
    rintro _ ⟨⟩
    exact inside failure rfl
  | ok value => exact ok (onto value)

theorem of_onlyFails {causes : List Failure} {result : Except Failure α} (only : OnlyFails causes result)
    (others : ∀ cause ∈ causes, cause.isDepth = false) : Shallow result :=
  fun failure failed => others failure (only failure failed)

@[grind ←] theorem mapM {read : α → Except Failure β} (each : ∀ element, Shallow (read element))
    (elements : List α) : Shallow (elements.mapM read) := by
  induction elements with
  | nil => exact .ok []
  | cons element rest ih =>
    rw [List.mapM_cons]
    exact (each element).bind fun _ => ih.bind fun _ => .ok _

@[grind ←] theorem foldlM {step : β → α → Except Failure β} (each : ∀ state element, Shallow (step state element))
    (state : β) (elements : List α) : Shallow (elements.foldlM step state) := by
  induction elements generalizing state with
  | nil => exact .ok state
  | cons element rest ih =>
    rw [List.foldlM_cons]
    exact (each state element).bind fun next => ih next

end Shallow

/-! ## Numbers -/

namespace Number

@[grind .] theorem shallow_toDouble (number : Number) : Shallow number.toDouble :=
  .of_onlyFails number.toDouble_onlyFails (by decide)

@[grind .] theorem shallow_isNaN (number : Number) : Shallow number.isNaN :=
  .of_onlyFails number.isNaN_onlyFails (by decide)

@[grind .] theorem shallow_isFinite (number : Number) : Shallow number.isFinite := by
  unfold isFinite
  grind

@[grind .] theorem shallow_add (left right : Number) : Shallow (left.add right) :=
  .of_onlyFails (mixed_onlyFails _ _ left right) (by decide)

@[grind .] theorem shallow_mul (left right : Number) : Shallow (left.mul right) :=
  .of_onlyFails (mixed_onlyFails _ _ left right) (by decide)

@[grind .] theorem shallow_div (left right : Number) : Shallow (left.div right) := by
  unfold div
  grind

@[grind .] theorem shallow_mod (left right : Number) : Shallow (left.mod right) := by
  unfold mod
  grind

@[grind .] theorem shallow_floor (number : Number) : Shallow number.floor := by
  unfold floor toWhole
  grind

@[grind .] theorem shallow_ceiling (number : Number) : Shallow number.ceiling := by
  unfold ceiling toWhole
  grind

@[grind .] theorem shallow_tenToThe (exponent : Int) : Shallow (tenToThe exponent) := by
  unfold tenToThe
  grind

@[grind .] theorem shallow_sum (numbers : List Number) : Shallow (sum numbers) := by
  unfold sum
  grind

@[grind .] theorem shallow_product (numbers : List Number) : Shallow (product numbers) := by
  unfold product
  grind

@[grind .] theorem shallow_median (numbers : List Number) : Shallow (median numbers) := by
  unfold median
  grind

@[grind .] theorem shallow_variance (numbers : List Number) : Shallow (variance numbers) := by
  unfold variance
  grind

@[grind .] theorem shallow_deviation (numbers : List Number) : Shallow (deviation numbers) := by
  unfold deviation rootOfFraction
  grind

@[grind .] theorem shallow_readPrefix (text : Text) : Shallow (readPrefix text) :=
  .of_onlyFails (readPrefix_onlyFails text) (by decide)

@[grind .] theorem shallow_readWhole (text : Text) : Shallow (readWhole text) :=
  .of_onlyFails (readWhole_onlyFails text) (by decide)

end Number

/-! ## Values -/

namespace Value

@[grind .] theorem shallow_toNumber (value : Value) : Shallow value.toNumber :=
  .of_onlyFails value.toNumber_onlyFails (by decide)

@[grind .] theorem shallow_toInteger (value : Value) : Shallow value.toInteger := by
  unfold toInteger
  grind

@[grind .] theorem shallow_toText (value : Value) : Shallow value.toText :=
  .of_onlyFails value.toText_onlyFails (by decide)

@[grind .] theorem shallow_toTexts (values : List Value) : Shallow (toTexts values) :=
  .of_onlyFails (toTexts_onlyFails values) (by decide)

@[grind .] theorem shallow_isNumeric (value : Value) : Shallow value.isNumeric :=
  .of_onlyFails value.isNumeric_onlyFails (by decide)

@[grind .] theorem shallow_equal (left right : Value) : Shallow (left.equal right) :=
  .of_onlyFails (left.equal_onlyFails right) (by decide)

@[grind .] theorem shallow_compare (left right : Value) : Shallow (left.compare right) :=
  .of_onlyFails (left.compare_onlyFails right) (by decide)

@[grind .] theorem shallow_toTruth (value : Value) : Shallow value.toTruth := by
  unfold toTruth
  grind

@[grind .] theorem shallow_read (text : Text) : Shallow (Iso.read zone text) := by
  have shift (moment : DateTime) (offset : Int) : Shallow (Iso.shift zone moment offset) := by
    unfold Iso.shift
    grind
  unfold Iso.read
  simp only
  split
  · exact .ok _
  split
  · exact .ok _
  split
  · exact .ok _
  split
  · exact .ok _
  split
  · exact .ok _
  grind

@[grind .] theorem shallow_toMoment (value : Value) : Shallow (value.toMoment zone) := by
  have ofMilliseconds (number : Number) : Shallow (momentOfMilliseconds zone number) := by
    unfold momentOfMilliseconds
    grind
  unfold toMoment momentOfText
  grind

end Value

@[grind .] theorem Number.shallow_display (number : Number) : Shallow number.display :=
  .of_onlyFails number.display_onlyFails (by decide)

namespace NumberPicture

@[grind .] theorem shallow_units (picture : NumberPicture) (decimal : Double.Decimal) :
    Shallow (picture.units decimal) := by
  unfold units
  grind

@[grind .] theorem shallow_writeWhole (picture : NumberPicture) (digits : Text) :
    Shallow (picture.writeWhole digits) := by
  have readNat (text : Text) : Shallow (Text.readNat text) :=
    .of_onlyFails (Text.readNat_onlyFails text) (by decide)
  unfold writeWhole
  grind

@[grind .] theorem shallow_write (picture : NumberPicture) (number : Number) : Shallow (picture.write number) := by
  unfold write
  grind

end NumberPicture

namespace Criterion

@[grind .] theorem shallow_ofValue (value : Value) : Shallow (ofValue value) := by
  unfold ofValue ofText ordering
  grind

@[grind .] theorem shallow_holds (criterion : Criterion) (value : Value) : Shallow (criterion.holds value) := by
  unfold holds
  grind

end Criterion

namespace Builtin

@[grind .] theorem shallow_checkCount (name : Text) (count : Nat) (least : Int) (greatest : Option Int) :
    Shallow (checkCount name count least greatest) := by
  unfold checkCount bad
  grind

@[grind .] theorem shallow_require (name : String) (arguments : List Value) (least greatest : Nat) :
    Shallow (require name arguments least greatest) :=
  shallow_checkCount _ _ _ _

@[grind .] theorem shallow_requireAtLeast (name : String) (arguments : List Value) (least : Nat) :
    Shallow (requireAtLeast name arguments least) :=
  shallow_checkCount _ _ _ _

/-! ## Aggregates -/

@[grind .] theorem shallow_contribution (value : Value) : Shallow (contribution value) := by
  unfold contribution
  grind

@[grind .] theorem shallow_numbersOf (values : List Value) : Shallow (numbersOf values) := by
  induction values with
  | nil => exact .ok []
  | cons value rest ih =>
    unfold numbersOf
    grind

@[grind ←] theorem shallow_numeric {compute : List Number → Except Failure Number}
    (computes : ∀ numbers, Shallow (compute numbers)) (arguments : List Value) :
    Shallow (numeric compute arguments) := by
  unfold numeric
  grind

@[grind .] theorem shallow_meets (index : Nat) (conditions : List Condition) : Shallow (meets index conditions) := by
  induction conditions with
  | nil => exact .ok true
  | cons condition rest ih =>
    unfold meets
    grind

@[grind .] theorem shallow_matchingFrom (conditions : List Condition) (index count : Nat) :
    Shallow (matchingFrom conditions index count) := by
  induction count generalizing index with
  | zero => exact .ok []
  | succ count ih =>
    unfold matchingFrom
    grind

@[grind .] theorem shallow_matching (conditions : List Condition) : Shallow (matching conditions) := by
  unfold matching
  grind

@[grind .] theorem shallow_ofValues (range criterion : Value) : Shallow (Condition.ofValues range criterion) := by
  unfold Condition.ofValues
  grind

@[grind .] theorem shallow_conditionsOf (values : List Value) : Shallow (conditionsOf values) := by
  fun_induction conditionsOf values with
  | case1 range criterion rest ih => grind
  | case2 => exact .ok []

@[grind .] theorem shallow_sumAt (targets : List Value) (indices : List Nat) : Shallow (sumAt targets indices) := by
  unfold sumAt
  grind

@[grind .] theorem shallow_singleMatching (arguments : List Value) : Shallow (singleMatching arguments) := by
  unfold singleMatching
  grind

theorem shallow_aggregates :
    ∀ builtin ∈ aggregates, ∀ ambient arguments, Shallow (builtin.run ambient arguments) := by
  simp only [aggregates, List.forall_mem_cons, plain, overRanges]
  and_intros
  all_goals intro ambient arguments
  all_goals grind [average, orZero, productOf, sampled, bad, counting, sumIf, sumIfs, averageIf, countIf, countIfs,
    pairConditions]

/-! ## Arithmetic -/

@[grind .] theorem shallow_numberAt (arguments : List Value) (index : Nat) : Shallow (numberAt arguments index) := by
  unfold numberAt
  grind

@[grind .] theorem shallow_digitFactor (arguments : List Value) : Shallow (digitFactor arguments) := by
  unfold digitFactor
  grind

@[grind ←] theorem shallow_roundMagnitude {whole : Number → Except Failure Int}
    (wholes : ∀ number, Shallow (whole number)) (arguments : List Value) :
    Shallow (roundMagnitude whole arguments) := by
  unfold roundMagnitude
  grind

@[grind ←] theorem shallow_roundMultiple {whole : Number → Except Failure Int}
    (wholes : ∀ number, Shallow (whole number)) (arguments : List Value) :
    Shallow (roundMultiple whole arguments) := by
  unfold roundMultiple
  grind

@[grind .] theorem shallow_powerOfValues (base exponent : Value) : Shallow (powerOfValues base exponent) := by
  unfold powerOfValues
  grind

@[grind .] theorem shallow_logNumber (number : Number) : Shallow (logNumber number) := by
  unfold logNumber logDouble
  grind

@[grind .] theorem shallow_round (arguments : List Value) : Shallow (round arguments) := by
  refine (shallow_require _ _ _ _).bind fun _ => (shallow_digitFactor arguments).bind fun factor => ?_
  refine (shallow_numberAt arguments 0).bind fun number => ?_
  grind

@[grind .] theorem shallow_randomBetween (ambient : Ambient) (arguments : List Value) :
    Shallow (randomBetween ambient arguments) := by
  refine (shallow_require _ _ _ _).bind fun _ => (shallow_numberAt arguments 0).bind fun first => ?_
  refine first.shallow_ceiling.bind fun low => (shallow_numberAt arguments 1).bind fun second => ?_
  grind

theorem shallow_arithmetic :
    ∀ builtin ∈ arithmetic, ∀ ambient arguments, Shallow (builtin.run ambient arguments) := by
  simp only [arithmetic, List.forall_mem_cons, plain, changing]
  and_intros
  all_goals intro ambient arguments
  all_goals grind [roundUp, roundDown, truncated, floorTo, ceilingTo, absolute, root, power, remainder, logarithm,
    naturalLogarithm, exponential, pi, random]

/-! ## Lookups -/

@[grind .] theorem shallow_isHit (candidate key : Value) (sorted : Bool) : Shallow (isHit candidate key sorted) := by
  unfold isHit
  grind

@[grind .] theorem shallow_findRow (key : Value) (sorted : Bool) (column : Nat) (rows : List (List Value)) :
    Shallow (findRow key sorted column rows) := by
  induction rows with
  | nil => exact .ok _
  | cons row rest ih =>
    unfold findRow
    grind

@[grind .] theorem shallow_findColumn (key : Value) (sorted : Bool) (target : List Value) (index : Nat)
    (candidates : List Value) : Shallow (findColumn key sorted target index candidates) := by
  induction candidates generalizing index with
  | nil => exact .ok _
  | cons candidate rest ih =>
    unfold findColumn
    grind

@[grind .] theorem shallow_lastBefore (key : Value) (beyond : Ordering) (found : Option Nat) (index : Nat)
    (values : List Value) : Shallow (lastBefore key beyond found index values) := by
  fun_induction lastBefore key beyond found index values with
  | case1 => exact .ok _
  | case2 found index rest ih => exact ih
  | case3 found index value rest visible ih => grind

@[grind ←] theorem shallow_firstPassing {passes : Value → Except Failure Bool}
    (each : ∀ value, Shallow (passes value)) (index : Nat) (values : List Value) :
    Shallow (firstPassing passes index values) := by
  induction values generalizing index with
  | nil => exact .ok none
  | cons value rest ih =>
    unfold firstPassing
    grind

@[grind .] theorem shallow_position (arguments : List Value) : Shallow (position arguments) := by
  refine (shallow_require _ _ _ _).bind fun _ => ?_
  split
  · refine (Value.shallow_toInteger _).bind fun kind => ?_
    grind
  · refine (Shallow.ok 1).bind fun kind => ?_
    grind

theorem shallow_lookups :
    ∀ builtin ∈ lookups, ∀ ambient arguments, Shallow (builtin.run ambient arguments) := by
  simp only [lookups, List.forall_mem_cons, overRanges]
  and_intros
  all_goals intro ambient arguments
  all_goals grind [lookupVertical, lookupHorizontal, Builtin.index, lookup]

/-! ## Logic -/

@[grind .] theorem shallow_firstHolding (values : List Value) : Shallow (firstHolding values) := by
  fun_induction firstHolding values with
  | case1 => exact .ok _
  | case2 condition value rest plain ih => grind
  | case3 => exact .ok _

@[grind .] theorem shallow_firstCase (value : Value) (cases : List Value) : Shallow (firstCase value cases) := by
  fun_induction firstCase value cases with
  | case1 candidate result rest ih => grind
  | case2 => exact .ok _
  | case3 => exact .ok _

@[grind ←] theorem shallow_ask (name : String) {question : Value → Except Failure Bool}
    (answers : ∀ value, Shallow (question value)) (arguments : List Value) :
    Shallow (ask name question arguments) := by
  unfold ask
  grind

@[grind .] theorem shallow_switch (arguments : List Value) : Shallow (switch arguments) := by
  refine (shallow_requireAtLeast _ _ _).bind fun _ => ?_
  split
  · exact .ok _
  · exact shallow_firstCase _ _
  · exact .ok _

@[grind .] theorem shallow_isPlainText (value : Value) : Shallow (isPlainText value) := by
  unfold isPlainText
  split
  · exact (Value.shallow_isNumeric _).bind fun _ => .ok _
  · exact .ok _

theorem shallow_logic :
    ∀ builtin ∈ logic, ∀ ambient arguments, Shallow (builtin.run ambient arguments) := by
  simp only [logic, List.forall_mem_cons, plain, errorAware]
  and_intros
  all_goals intro ambient arguments
  all_goals grind [choose, chooseFirst, bad, combine, negation, ifError, ifNotAvailable]

/-! ## Texts -/

@[grind .] theorem shallow_textAt (arguments : List Value) (index : Nat) : Shallow (textAt arguments index) := by
  unfold textAt
  grind

@[grind .] theorem shallow_integerAt (arguments : List Value) (index : Nat) :
    Shallow (integerAt arguments index) := by
  unfold integerAt
  grind

@[grind .] theorem shallow_onText (name : String) (compute : Text → Value) (arguments : List Value) :
    Shallow (onText name compute arguments) := by
  unfold onText
  grind

@[grind .] theorem shallow_wantedCount (arguments : List Value) : Shallow (wantedCount arguments) := by
  unfold wantedCount
  grind

@[grind .] theorem shallow_searchStart (arguments : List Value) (text : Text) :
    Shallow (searchStart arguments text) := by
  unfold searchStart
  grind

@[grind .] theorem shallow_partValue (part : Text) : Shallow (partValue part) := by
  unfold partValue
  grind

@[grind .] theorem shallow_writeFrom (moment : DateTime) (twelveHours : Bool) (previous : Option DatePart)
    (picture : DatePicture) : Shallow (DatePicture.writeFrom moment twelveHours previous picture) := by
  have writePart (part : DatePart) : Shallow (DatePicture.writePart moment twelveHours part) := by
    unfold DatePicture.writePart
    grind
  fun_induction DatePicture.writeFrom moment twelveHours previous picture with
  | case1 => exact .ok _
  | case2 previous char rest ih => grind
  | case3 previous part rest minutes ih => grind
  | case4 previous part rest minutes ih => grind
  | case5 previous part rest minutes ih => grind

@[grind .] theorem shallow_formatNumber (value : Value) (picture : Text) : Shallow (formatNumber value picture) := by
  unfold formatNumber
  grind

@[grind .] theorem shallow_formatMoment (value : Value) (picture : Text) : Shallow (formatMoment zone value picture) := by
  unfold formatMoment DatePicture.write
  grind

@[grind .] theorem shallow_substitute (arguments : List Value) : Shallow (substitute arguments) := by
  refine (shallow_require _ _ _ _).bind fun _ => (shallow_textAt arguments 0).bind fun text => ?_
  refine (shallow_textAt arguments 1).bind fun old => (shallow_textAt arguments 2).bind fun new => ?_
  grind

@[grind .] theorem shallow_numberOfText (arguments : List Value) : Shallow (numberOfText arguments) := by
  refine (shallow_require _ _ _ _).bind fun _ => ?_
  split
  · exact .ok _
  · refine (Value.shallow_toText _).bind fun text => (Number.shallow_readWhole _).bind fun found => ?_
    grind

theorem shallow_texts :
    ∀ builtin ∈ texts, ∀ ambient arguments, Shallow (builtin.run ambient arguments) := by
  simp only [texts, List.forall_mem_cons, plain, overRanges, ofDates]
  and_intros
  all_goals intro ambient arguments
  all_goals grind [concatenate, textJoin, leftPart, rightPart, middlePart, replacePart, findText, searchText,
    repeatText, character, split, format]

/-! ## Dates -/

@[grind .] theorem shallow_momentAt (arguments : List Value) (index : Nat) : Shallow (momentAt zone arguments index) := by
  unfold momentAt
  grind

@[grind .] theorem shallow_datesOf (values : List Value) : Shallow (datesOf zone values) := by
  induction values with
  | nil => exact .ok _
  | cons value rest ih =>
    unfold datesOf
    grind

@[grind .] theorem shallow_addMonths (date : Date) (months : Int) : Shallow (addMonths date months) := by
  unfold addMonths
  grind

@[grind .] theorem shallow_numbering (arguments : List Value) : Shallow (numbering arguments) := by
  unfold numbering
  grind

@[grind .] theorem shallow_daysPastYears (start stop : Date) : Shallow (daysPastYears start stop) := by
  unfold daysPastYears
  grind

@[grind .] theorem shallow_distance (start stop : Date) (unit : Text) : Shallow (distance start stop unit) := by
  unfold distance
  grind

@[grind .] theorem shallow_shifted (date : Date) (months : Value) : Shallow (shifted date months) := by
  have read := months.shallow_toInteger
  unfold shifted
  grind [Shallow]

@[grind .] theorem shallow_networkDays (arguments : List Value) : Shallow (networkDays zone arguments) := by
  refine (shallow_requireAtLeast _ _ _).bind fun _ => (shallow_datesOf _).bind fun dates => ?_
  split
  · refine (shallow_datesOf _).bind fun holidays => ?_
    grind
  · exact .ok _

theorem shallow_dates :
    ∀ builtin ∈ dates, ∀ ambient arguments, Shallow (builtin.run ambient arguments) := by
  simp only [dates, List.forall_mem_cons, plain, changing, ofDates]
  and_intros
  all_goals intro ambient arguments
  all_goals grind [now, today, dateOfParts, timeOfParts, momentPart, weekdayNumber, weekNumber, dateDifference,
    shiftMonths, endOfMonth]

theorem shallow_of_mem {builtin : Builtin} (member : builtin ∈ all) (ambient : Ambient) (arguments : List Value) :
    Shallow (builtin.run ambient arguments) := by
  simp only [all, List.mem_append] at member
  rcases member with ((((sum | number) | range) | truth) | text) | date
  · exact shallow_aggregates builtin sum ambient arguments
  · exact shallow_arithmetic builtin number ambient arguments
  · exact shallow_lookups builtin range ambient arguments
  · exact shallow_logic builtin truth ambient arguments
  · exact shallow_texts builtin text ambient arguments
  · exact shallow_dates builtin date ambient arguments

end Builtin

end Worksheet
