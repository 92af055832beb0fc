import Worksheet.Builtin.Aggregate
import Worksheet.Proofs.Builtin.Grid
import Worksheet.Proofs.Value.Order

/-! Conditional counts and sums. Where every criterion can be asked of every entry of its range, the rows that count
are those at which all of them hold. Counts and sums of rows neither depend on the order of the criteria nor on where
the ranges are cut in two, and a criterion and its opposite share the rows out between them. -/

namespace Worksheet

namespace Builtin

/-! ## Asking a criterion -/

def asked (criterion value : Value) : Except Failure Bool := do
  (← Criterion.ofValue criterion).holds value

/-- The criterion can be read, and asking it of an entry of the range never fails. -/
def Answers (range criterion : Value) : Prop :=
  ∃ parsed, Criterion.ofValue criterion = .ok parsed ∧ ∀ value ∈ range.entries, ∃ met, parsed.holds value = .ok met

def isMet (criterion value : Value) : Bool :=
  match asked criterion value with
  | .ok met => met
  | .error _ => false

variable {range criterion value : Value} {pairs : List (Value × Value)} {count : Nat}

theorem isMet_of_holds {parsed : Criterion} {met : Bool} (read : Criterion.ofValue criterion = .ok parsed)
    (holds : parsed.holds value = .ok met) : isMet criterion value = met := by
  have answer : asked criterion value = .ok met := bind_eq_ok.mpr ⟨parsed, read, holds⟩
  rw [isMet, answer]

/-! ## Rows -/

def asArguments (pairs : List (Value × Value)) : List Value :=
  pairs.flatMap fun pair => [pair.1, pair.2]

@[simp] theorem length_asArguments (pairs : List (Value × Value)) :
    (asArguments pairs).length = 2 * pairs.length := by
  simp [asArguments, List.length_flatMap, Nat.mul_comm]

def counts (pairs : List (Value × Value)) (index : Nat) : Bool :=
  pairs.all fun pair => isMet pair.2 (argument pair.1.entries index)

/-- Ranges of `count` entries, each with a criterion that can be asked of all of them. -/
structure Decided (count : Nat) (pairs : List (Value × Value)) : Prop where
  nonempty : pairs ≠ []
  length_eq : ∀ pair ∈ pairs, pair.1.entries.length = count
  answers : ∀ pair ∈ pairs, Answers pair.1 pair.2

theorem Decided.perm {others : List (Value × Value)} (decided : Decided count pairs) (reordered : others.Perm pairs) :
    Decided count others where
  nonempty := fun none => decided.nonempty (List.perm_nil.mp (none ▸ reordered.symm))
  length_eq := fun pair member => decided.length_eq pair (reordered.mem_iff.mp member)
  answers := fun pair member => decided.answers pair (reordered.mem_iff.mp member)

theorem counts_perm {others : List (Value × Value)} (reordered : others.Perm pairs) :
    counts others = counts pairs := by
  funext index
  rw [counts, counts, Bool.eq_iff_iff, List.all_eq_true, List.all_eq_true]
  exact forall_congr' fun pair => by rw [reordered.mem_iff]

theorem conditionsOf_asArguments (read : ∀ pair ∈ pairs, Answers pair.1 pair.2) :
    ∃ conditions, conditionsOf (asArguments pairs) = .ok conditions ∧
      List.Forall₂ (fun pair condition => Condition.ofValues pair.1 pair.2 = .ok condition) pairs conditions := by
  induction pairs with
  | nil => exact ⟨[], rfl, .nil⟩
  | cons pair rest ih =>
    obtain ⟨⟨parsed, parses, _⟩, later⟩ := List.forall_mem_cons.mp read
    obtain ⟨conditions, converted, related⟩ := ih later
    have first : Condition.ofValues pair.1 pair.2 = .ok ⟨pair.1.entries, parsed⟩ :=
      bind_eq_ok.mpr ⟨parsed, parses, rfl⟩
    exact ⟨_, bind_eq_ok.mpr ⟨_, first, bind_eq_ok.mpr ⟨conditions, converted, rfl⟩⟩, .cons first related⟩

theorem meets_eq_counts {conditions : List Condition} {index : Nat}
    (related : List.Forall₂ (fun pair condition => Condition.ofValues pair.1 pair.2 = .ok condition) pairs conditions)
    (answers : ∀ pair ∈ pairs, index < pair.1.entries.length ∧ Answers pair.1 pair.2) :
    meets index conditions = .ok (counts pairs index) := by
  induction related with
  | nil => rfl
  | cons made _ ih =>
    obtain ⟨⟨inside, parsed, parses, answered⟩, later⟩ := List.forall_mem_cons.mp answers
    obtain ⟨own, owns, same⟩ := bind_eq_ok.mp made
    cases same
    obtain rfl : parsed = own := Except.ok.inj (parses.symm.trans owns)
    obtain ⟨met, holds⟩ := answered _ (List.getElem_mem inside)
    rw [← argument_of_lt inside] at holds
    have first := isMet_of_holds parses holds
    rw [meets, holds, counts, List.all_cons, first]
    cases met with
    | true => exact ih later
    | false => rfl

theorem matchingFrom_eq_filter {conditions : List Condition} {index rows : Nat} {counted : Nat → Bool}
    (met : ∀ row, index ≤ row → row < index + rows → meets row conditions = .ok (counted row)) :
    matchingFrom conditions index rows = .ok ((List.range' index rows).filter counted) := by
  induction rows generalizing index with
  | zero => rfl
  | succ rows ih =>
    have first := met index (Nat.le_refl index) (by omega)
    have later := ih fun row (least : index + 1 ≤ row) most => met row (by omega) (by omega)
    rw [matchingFrom, first, later, List.range'_succ, List.filter_cons]
    cases counted index <;> rfl

theorem matching_of_decided (decided : Decided count pairs) (name : String) :
    (pairConditions name (asArguments pairs) >>= matching) = .ok ((List.range count).filter (counts pairs)) := by
  obtain ⟨conditions, converted, related⟩ := conditionsOf_asArguments decided.answers
  have length := length_asArguments pairs
  have some := List.length_pos_iff.mpr decided.nonempty
  have paired : pairConditions name (asArguments pairs) = .ok conditions := by
    rw [pairConditions, if_neg (by omega), converted]
  rw [paired]
  change matching conditions = _
  cases related with
  | nil => exact absurd rfl decided.nonempty
  | @cons pair condition rest others made later =>
    obtain ⟨parsed, _, same⟩ := bind_eq_ok.mp made
    have entries : condition.entries.length = count := by
      cases same
      exact decided.length_eq pair List.mem_cons_self
    rw [matching, entries, List.range_eq_range']
    refine matchingFrom_eq_filter fun row _ most => ?_
    refine meets_eq_counts (.cons made later) fun other member => ⟨?_, decided.answers other member⟩
    rw [decided.length_eq other member]
    omega

theorem countIfs_of_decided (decided : Decided count pairs) :
    countIfs (asArguments pairs) = .ok (.ofNat ((List.range count).countP (counts pairs))) := by
  have found := matching_of_decided decided "COUNTIFS"
  obtain ⟨conditions, paired, matched⟩ := bind_eq_ok.mp found
  rw [countIfs, List.countP_eq_length_filter]
  exact bind_eq_ok.mpr ⟨conditions, paired, bind_eq_ok.mpr ⟨_, matched, rfl⟩⟩

/-! ## Sums of integers -/

/-- Every entry of the range is an integer or counts as one. -/
def IsWhole (targets : Value) : Prop :=
  ∀ value ∈ targets.entries, ∃ whole : Int, value.toNumber = .ok (.integer whole)

def wholeAt (targets : List Value) (index : Nat) : Int :=
  match (argument targets index).toNumber with
  | .ok (.integer whole) => whole
  | _ => 0

def wholeSum (targets : List Value) (rows : List Nat) : Int :=
  (rows.map (wholeAt targets)).sum

theorem foldlM_add_of_whole {targets : Value} (whole : IsWhole targets) {rows : List Nat}
    (inside : ∀ row ∈ rows, row < targets.entries.length) (total : Int) :
    rows.foldlM (fun sum index => do sum.add (← (argument targets.entries index).toNumber)) (Number.integer total) =
      .ok (.integer (total + wholeSum targets.entries rows)) := by
  induction rows generalizing total with
  | nil => simp [wholeSum, pure, Except.pure]
  | cons row rows ih =>
    obtain ⟨first, later⟩ := List.forall_mem_cons.mp inside
    obtain ⟨number, read⟩ := whole _ (List.getElem_mem first)
    rw [← argument_of_lt first] at read
    have own : wholeAt targets.entries row = number := by rw [wholeAt, read]
    rw [List.foldlM_cons, read]
    refine (ih later (total + number)).trans ?_
    rw [wholeSum, wholeSum, List.map_cons, List.sum_cons, own, Int.add_assoc]

theorem sumAt_of_whole {targets : Value} (whole : IsWhole targets) (rows : List Nat)
    (inside : ∀ row ∈ rows, row < targets.entries.length) :
    sumAt targets.entries rows = .ok (.integer (wholeSum targets.entries rows)) := by
  rw [sumAt, Number.zero, foldlM_add_of_whole whole inside, Int.zero_add]

theorem sumIfs_of_decided {targets : Value} (decided : Decided count pairs)
    (sameLength : targets.entries.length = count) (whole : IsWhole targets) :
    sumIfs (targets :: asArguments pairs) =
      .ok (.integer (wholeSum targets.entries ((List.range count).filter (counts pairs)))) := by
  have found := matching_of_decided decided "SUMIFS"
  obtain ⟨conditions, paired, matched⟩ := bind_eq_ok.mp found
  have enough : ¬(targets :: asArguments pairs).length < 3 := by
    have some := List.length_pos_iff.mpr decided.nonempty
    rw [List.length_cons, length_asArguments]
    omega
  have summed := sumAt_of_whole whole ((List.range count).filter (counts pairs)) fun row member => by
    rw [sameLength]
    exact List.mem_range.mp (List.mem_filter.mp member).1
  rw [sumIfs, if_neg enough]
  refine bind_eq_ok.mpr ⟨conditions, paired, ?_⟩
  exact bind_eq_ok.mpr ⟨_, matched, bind_eq_ok.mpr ⟨_, summed, rfl⟩⟩

/-! ## Ranges cut in two -/

def rowsAbove (cut : Nat) (range : Value) : Value :=
  .list (range.entries.take cut)

def rowsBelow (cut : Nat) (range : Value) : Value :=
  .list (range.entries.drop cut)

mutual

theorem ne_list_of_mem_leaves : (value : Value) → ∀ leaf ∈ value.leaves, ∀ parts, leaf ≠ .list parts
  | .list values => ne_list_of_mem_flatten values
  | .empty | .bool _ | .number _ | .text _ | .error _ | .record _ | .date _ | .moment _ => by
    simp [Value.leaves]

theorem ne_list_of_mem_flatten : (values : List Value) → ∀ leaf ∈ Value.flatten values, ∀ parts, leaf ≠ .list parts
  | [] => by simp [Value.flatten]
  | value :: rest => by
    intro leaf member
    rcases List.mem_append.mp member with own | later
    · exact ne_list_of_mem_leaves value leaf own
    · exact ne_list_of_mem_flatten rest leaf later

end

theorem ne_list_of_mem_entries {leaf : Value} (member : leaf ∈ range.entries) (parts : List Value) :
    leaf ≠ .list parts := by
  cases range with
  | list values => exact ne_list_of_mem_flatten values leaf member parts
  | _ =>
    obtain rfl := List.mem_singleton.mp member
    nofun

@[simp] theorem entries_rowsAbove (cut : Nat) (range : Value) :
    (rowsAbove cut range).entries = range.entries.take cut :=
  flatten_of_flat fun _ member => ne_list_of_mem_entries (List.mem_of_mem_take member)

@[simp] theorem entries_rowsBelow (cut : Nat) (range : Value) :
    (rowsBelow cut range).entries = range.entries.drop cut :=
  flatten_of_flat fun _ member => ne_list_of_mem_entries (List.mem_of_mem_drop member)

def onRanges (part : Value → Value) (pairs : List (Value × Value)) : List (Value × Value) :=
  pairs.map fun pair => (part pair.1, pair.2)

theorem Decided.onRanges {part : Value → Value} {rows : Nat} (decided : Decided count pairs)
    (length : ∀ range : Value, range.entries.length = count → (part range).entries.length = rows)
    (within : ∀ range : Value, (part range).entries ⊆ range.entries) : Decided rows (Builtin.onRanges part pairs) where
  nonempty := fun none => decided.nonempty (List.map_eq_nil_iff.mp none)
  length_eq := by
    refine List.forall_mem_map.mpr fun pair member => ?_
    exact length pair.1 (decided.length_eq pair member)
  answers := by
    refine List.forall_mem_map.mpr fun pair member => ?_
    obtain ⟨parsed, read, answered⟩ := decided.answers pair member
    exact ⟨parsed, read, fun value inside => answered value (within pair.1 inside)⟩

theorem Decided.above (decided : Decided count pairs) (cut : Nat) :
    Decided (min cut count) (Builtin.onRanges (rowsAbove cut) pairs) :=
  decided.onRanges (fun range length => by simp [length]) fun range => by simpa using List.take_subset _ _

theorem Decided.below (decided : Decided count pairs) (cut : Nat) :
    Decided (count - cut) (Builtin.onRanges (rowsBelow cut) pairs) :=
  decided.onRanges (fun range length => by simp [length]) fun range => by simpa using List.drop_subset _ _

theorem argument_take {values : List Value} {cut index : Nat} (inside : index < cut) :
    argument (values.take cut) index = argument values index := by
  simp [argument, List.getD, inside]

theorem argument_drop (values : List Value) (cut index : Nat) :
    argument (values.drop cut) index = argument values (cut + index) := by
  simp [argument, List.getD]

theorem counts_above {cut index : Nat} (inside : index < cut) :
    counts (onRanges (rowsAbove cut) pairs) index = counts pairs index := by
  simp [counts, onRanges, List.all_map, Function.comp_def, argument_take inside]

theorem counts_below (cut index : Nat) :
    counts (onRanges (rowsBelow cut) pairs) index = counts pairs (cut + index) := by
  simp [counts, onRanges, List.all_map, Function.comp_def, argument_drop]

theorem filter_counts_cut (pairs : List (Value × Value)) (count cut : Nat) :
    (List.range count).filter (counts pairs) =
      (List.range (min cut count)).filter (counts (onRanges (rowsAbove cut) pairs)) ++
        ((List.range (count - cut)).filter (counts (onRanges (rowsBelow cut) pairs))).map (cut + ·) := by
  have above : (List.range (min cut count)).filter (counts (onRanges (rowsAbove cut) pairs)) =
      (List.range (min cut count)).filter (counts pairs) := by
    refine List.filter_congr fun index member => counts_above ?_
    exact (List.mem_range.mp member).trans_le (Nat.min_le_left _ _)
  have below : ((List.range (count - cut)).filter (counts (onRanges (rowsBelow cut) pairs))).map (cut + ·) =
      ((List.range (count - cut)).map (cut + ·)).filter (counts pairs) := by
    rw [List.filter_map]
    exact congrArg _ (List.filter_congr fun index _ => counts_below cut index)
  rw [above, below, ← List.filter_append]
  congr 1
  rcases Nat.le_total cut count with within | beyond
  · conv_lhs => rw [← Nat.add_sub_of_le within, List.range_add]
    rw [Nat.min_eq_left within]
  · rw [Nat.sub_eq_zero_of_le beyond, Nat.min_eq_right beyond]
    simp

theorem IsWhole.mono {part targets : Value} (whole : IsWhole targets) (within : part.entries ⊆ targets.entries) :
    IsWhole part :=
  fun value member => whole value (within member)

theorem wholeSum_cut {targets : Value} (cut : Nat) {above below : List Nat}
    (inside : ∀ row ∈ above, row < cut) :
    wholeSum targets.entries (above ++ below.map (cut + ·)) =
      wholeSum (rowsAbove cut targets).entries above + wholeSum (rowsBelow cut targets).entries below := by
  have first : ∀ row ∈ above, wholeAt targets.entries row = wholeAt (rowsAbove cut targets).entries row := by
    intro row member
    rw [wholeAt, wholeAt, entries_rowsAbove, argument_take (inside row member)]
  have second : ∀ row, wholeAt targets.entries (cut + row) = wholeAt (rowsBelow cut targets).entries row := by
    intro row
    rw [wholeAt, wholeAt, entries_rowsBelow, argument_drop]
  simp only [wholeSum, List.map_append, List.sum_append, List.map_map, Function.comp_def, second]
  rw [List.map_congr_left first]

/-! ## A criterion and its opposite -/

theorem matching_pair (name : String) (range criterion : Value) :
    (pairConditions name [range, criterion] >>= matching) =
      Condition.ofValues range criterion >>= fun condition => matching [condition] := by
  rw [pairConditions, if_neg (by simp)]
  change ((Condition.ofValues range criterion >>= fun first => pure [first]) >>= matching) = _
  cases Condition.ofValues range criterion <;> rfl

theorem sumIf_eq_sumIfs (range criterion targets : Value) :
    sumIf [range, criterion, targets] = sumIfs [targets, range, criterion] := by
  have single : sumIf [range, criterion, targets] =
      (Condition.ofValues range criterion >>= fun condition => matching [condition]) >>= fun rows =>
        sumAt targets.entries rows >>= fun total => pure (Value.number total) := rfl
  have paired : sumIfs [targets, range, criterion] =
      (pairConditions "SUMIFS" [range, criterion] >>= fun conditions => matching conditions >>= fun rows =>
        sumAt targets.entries rows >>= fun total => pure (Value.number total)) := rfl
  rw [single, paired, ← matching_pair "SUMIFS", bind_assoc]

theorem countIf_eq_countIfs (range criterion : Value) :
    countIf [range, criterion] = countIfs [range, criterion] := by
  have single : countIf [range, criterion] =
      (Condition.ofValues range criterion >>= fun condition => matching [condition]) >>= fun rows =>
        pure (Value.ofNat rows.length) := rfl
  have paired : countIfs [range, criterion] =
      (pairConditions "COUNTIFS" [range, criterion] >>= fun conditions => matching conditions >>= fun rows =>
        pure (Value.ofNat rows.length)) := rfl
  rw [single, paired, ← matching_pair "COUNTIFS", bind_assoc]

theorem countP_range_argument (values : List Value) (holds : Value → Bool) :
    ((List.range values.length).countP fun index => holds (argument values index)) = values.countP holds := by
  induction values with
  | nil => rfl
  | cons value rest ih =>
    rw [List.length_cons, List.range_succ_eq_map, List.countP_cons, List.countP_map, List.countP_cons]
    exact congrArg₂ _ ih rfl

theorem countIf_of_answers (answers : Answers range criterion) :
    countIf [range, criterion] = .ok (.ofNat (range.entries.countP (isMet criterion))) := by
  have decided : Decided range.entries.length [(range, criterion)] :=
    ⟨List.cons_ne_nil _ _, by simp, by simpa using answers⟩
  have single : counts [(range, criterion)] = fun index => isMet criterion (argument range.entries index) :=
    funext fun index => by simp [counts]
  rw [countIf_eq_countIfs, ← countP_range_argument, ← single]
  exact countIfs_of_decided decided

theorem countIf_opposite {first second : Value} {criterion opposite : Criterion}
    (readFirst : Criterion.ofValue first = .ok criterion) (readSecond : Criterion.ofValue second = .ok opposite)
    (answers : ∀ value ∈ range.entries, ∃ met, criterion.holds value = .ok met ∧ opposite.holds value = .ok (!met)) :
    countIf [range, first] = .ok (.ofNat (range.entries.countP (isMet first))) ∧
      countIf [range, second] = .ok (.ofNat (range.entries.countP (isMet second))) ∧
      range.entries.countP (isMet first) + range.entries.countP (isMet second) = range.entries.length := by
  have answersFirst : Answers range first := by
    refine ⟨criterion, readFirst, fun value member => ?_⟩
    obtain ⟨met, holds, _⟩ := answers value member
    exact ⟨met, holds⟩
  have answersSecond : Answers range second := by
    refine ⟨opposite, readSecond, fun value member => ?_⟩
    obtain ⟨met, _, holds⟩ := answers value member
    exact ⟨!met, holds⟩
  refine ⟨countIf_of_answers answersFirst, countIf_of_answers answersSecond, ?_⟩
  have turned : range.entries.countP (isMet second) = range.entries.countP fun value => ¬isMet first value := by
    refine List.countP_congr fun value member => ?_
    obtain ⟨met, holds, reversed⟩ := answers value member
    rw [isMet_of_holds readFirst holds, isMet_of_holds readSecond reversed]
    simp
  rw [turned, ← List.length_eq_countP_add_countP]

theorem opposite_of_equals {operand : Text} {value : Value} {met : Bool}
    (holds : (Criterion.equals operand).holds value = .ok met) :
    (Criterion.differs operand).holds value = .ok (!met) := by
  obtain ⟨text, written, same⟩ := bind_eq_ok.mp holds
  cases same
  exact bind_eq_ok.mpr ⟨text, written, rfl⟩

theorem opposite_of_greater {threshold : Number} {value : Value} {met : Bool} (known : threshold.isOrdered = true)
    (ordered : value.isUnordered = false) (holds : (Criterion.ordered .greater threshold).holds value = .ok met) :
    (Criterion.ordered .lessOrEqual threshold).holds value = .ok (!met) := by
  obtain ⟨number, read, same⟩ := bind_eq_ok.mp holds
  cases same
  refine bind_eq_ok.mpr ⟨number, read, congrArg Except.ok ?_⟩
  exact Number.le_eq_not_gt (Value.isOrdered_of_toNumber ordered read) known

theorem ofText_greater {operand : Text} (plain : ¬['='] <+: operand) :
    Criterion.ofText ('>' :: operand) = Criterion.ordering .greater operand := by
  cases operand with
  | nil => rfl
  | cons first rest =>
    have other : first ≠ '=' := fun same => plain ⟨rest, congrArg (· :: rest) same.symm⟩
    rw [Criterion.ofText]
    rintro operand same
    exact other (List.cons.inj same).1

/-- Counting and adding up by criteria. Where every criterion can be asked of every entry of its range, counts and sums
of integers neither depend on the order of the pairs of a range and a criterion, nor on a cut of all ranges at one row:
the parts add up to the whole. A single pair gives the same in the functions for one pair as in those for many. The
entries equal to a text and those that differ from it, in either way to say so, are all entries; so are those greater
than a number and those that are not, unless an entry is no number or the operand goes on with the relation. -/
theorem conditional_aggregates :
    (∀ (count : Nat) (pairs : List (Value × Value)), Decided count pairs →
      ∃ total : Nat, (∀ others, others.Perm pairs → countIfs (asArguments others) = .ok (.ofNat total)) ∧
        ∀ cut, ∃ above below : Nat,
          countIfs (asArguments (onRanges (rowsAbove cut) pairs)) = .ok (.ofNat above) ∧
          countIfs (asArguments (onRanges (rowsBelow cut) pairs)) = .ok (.ofNat below) ∧ total = above + below) ∧
    (∀ (count : Nat) (pairs : List (Value × Value)) (targets : Value), Decided count pairs →
      targets.entries.length = count → IsWhole targets →
      ∃ total : Int, (∀ others, others.Perm pairs → sumIfs (targets :: asArguments others) = .ok (.integer total)) ∧
        ∀ cut, ∃ above below : Int,
          sumIfs (rowsAbove cut targets :: asArguments (onRanges (rowsAbove cut) pairs)) = .ok (.integer above) ∧
          sumIfs (rowsBelow cut targets :: asArguments (onRanges (rowsBelow cut) pairs)) = .ok (.integer below) ∧
          total = above + below) ∧
    (∀ range criterion targets : Value, sumIf [range, criterion, targets] = sumIfs [targets, range, criterion] ∧
      countIf [range, criterion] = countIfs [range, criterion]) ∧
    ∀ (range : Value) (operand : Text),
      (Answers range (.text ('=' :: operand)) →
        ∃ equal other : Nat, countIf [range, .text ('=' :: operand)] = .ok (.ofNat equal) ∧
          countIf [range, .text ('<' :: '>' :: operand)] = .ok (.ofNat other) ∧
          countIf [range, .text ('!' :: '=' :: operand)] = .ok (.ofNat other) ∧
          equal + other = range.entries.length) ∧
      (¬['='] <+: operand → (∀ value ∈ range.entries, value.isUnordered = false) →
        Answers range (.text ('>' :: operand)) →
        ∃ more other : Nat, countIf [range, .text ('>' :: operand)] = .ok (.ofNat more) ∧
          countIf [range, .text ('<' :: '=' :: operand)] = .ok (.ofNat other) ∧
          more + other = range.entries.length) := by
  refine ⟨?_, ?_, ?_, ?_⟩
  · intro count pairs decided
    refine ⟨(List.range count).countP (counts pairs), ?_, ?_⟩
    · intro others reordered
      rw [countIfs_of_decided (decided.perm reordered), counts_perm reordered]
    · intro cut
      refine ⟨_, _, countIfs_of_decided (decided.above cut), countIfs_of_decided (decided.below cut), ?_⟩
      rw [List.countP_eq_length_filter, filter_counts_cut pairs count cut, List.length_append, List.length_map,
        List.countP_eq_length_filter, List.countP_eq_length_filter]
  · intro count pairs targets decided sameLength whole
    refine ⟨wholeSum targets.entries ((List.range count).filter (counts pairs)), ?_, ?_⟩
    · intro others reordered
      rw [sumIfs_of_decided (decided.perm reordered) sameLength whole, counts_perm reordered]
    · intro cut
      have wholeAbove : IsWhole (rowsAbove cut targets) := whole.mono (by simpa using List.take_subset _ _)
      have wholeBelow : IsWhole (rowsBelow cut targets) := whole.mono (by simpa using List.drop_subset _ _)
      refine ⟨_, _, sumIfs_of_decided (decided.above cut) (by simp [sameLength]) wholeAbove,
        sumIfs_of_decided (decided.below cut) (by simp [sameLength]) wholeBelow, ?_⟩
      rw [filter_counts_cut pairs count cut]
      refine wholeSum_cut cut fun row member => ?_
      exact (List.mem_range.mp (List.mem_filter.mp member).1).trans_le (Nat.min_le_left _ _)
  · intro range criterion targets
    exact ⟨sumIf_eq_sumIfs range criterion targets, countIf_eq_countIfs range criterion⟩
  · intro range operand
    constructor
    · rintro ⟨parsed, read, answered⟩
      obtain rfl : Criterion.equals operand = parsed := Except.ok.inj read
      have answers : ∀ value ∈ range.entries, ∃ met, (Criterion.equals operand).holds value = .ok met ∧
          (Criterion.differs operand).holds value = .ok (!met) := by
        intro value member
        obtain ⟨met, holds⟩ := answered value member
        exact ⟨met, holds, opposite_of_equals holds⟩
      have unequal : Criterion.ofValue (.text ('<' :: '>' :: operand)) = .ok (.differs operand) := rfl
      obtain ⟨equal, other, whole⟩ := countIf_opposite read unequal answers
      exact ⟨_, _, equal, other, other, whole⟩
    · rintro plain ordered ⟨parsed, read, answered⟩
      obtain ⟨threshold, number, same⟩ := bind_eq_ok.mp ((ofText_greater plain).symm.trans read)
      cases same
      have known : threshold.isOrdered = true := Value.isOrdered_of_toNumber rfl number
      have opposite : Criterion.ofValue (.text ('<' :: '=' :: operand)) = .ok (.ordered .lessOrEqual threshold) :=
        bind_eq_ok.mpr ⟨_, rfl, bind_eq_ok.mpr ⟨threshold, number, rfl⟩⟩
      obtain ⟨more, other, whole⟩ := countIf_opposite read opposite fun value member => by
        obtain ⟨met, holds⟩ := answered value member
        exact ⟨met, holds, opposite_of_greater known (ordered value member) holds⟩
      exact ⟨_, _, more, other, whole⟩

theorem conditional_aggregates_three_rows :
    Decided 3 [(.list [.text ['a'], .text ['a'], .text ['b']], .text ['=', 'a']),
        (.list [.integer 1, .integer 2, .text ['x']], .text ['>', '1'])] ∧
      countIfs [.list [.integer 1, .integer 2, .text ['x']], .text ['>', '1'],
        .list [.text ['a'], .text ['a'], .text ['b']], .text ['=', 'a']] = .ok (.ofNat 1) ∧
      IsWhole (.list [.integer 10, .text ['2', '0'], .empty]) ∧
      sumIfs [.list [.integer 10, .text ['2', '0'], .empty], .list [.integer 1, .integer 2, .text ['x']],
        .text ['>', '1'], .list [.text ['a'], .text ['a'], .text ['b']], .text ['=', 'a']] = .ok (.integer 20) ∧
      ∃ more other : Nat, more + other = 3 ∧
        countIf [.list [.integer 1, .integer 2, .text ['x']], .text ['>', '1']] = .ok (.ofNat more) ∧
        countIf [.list [.integer 1, .integer 2, .text ['x']], .text ['<', '=', '1']] = .ok (.ofNat other) := by
  have words : Answers (.list [.text ['a'], .text ['a'], .text ['b']]) (.text ['=', 'a']) := by
    refine ⟨.equals ['a'], rfl, ?_⟩
    change ∀ value ∈ [Value.text ['a'], .text ['a'], .text ['b']], _
    simp only [List.forall_mem_cons]
    exact ⟨⟨_, rfl⟩, ⟨_, rfl⟩, ⟨_, rfl⟩, List.forall_mem_nil _⟩
  have numbers : Answers (.list [.integer 1, .integer 2, .text ['x']]) (.text ['>', '1']) := by
    refine ⟨.ordered .greater (.integer 1), rfl, ?_⟩
    change ∀ value ∈ [Value.integer 1, .integer 2, .text ['x']], _
    simp only [List.forall_mem_cons]
    exact ⟨⟨_, rfl⟩, ⟨_, rfl⟩, ⟨_, rfl⟩, List.forall_mem_nil _⟩
  have decided : Decided 3 [(.list [.text ['a'], .text ['a'], .text ['b']], .text ['=', 'a']),
      (.list [.integer 1, .integer 2, .text ['x']], .text ['>', '1'])] := by
    refine ⟨List.cons_ne_nil _ _, ?_, ?_⟩
    · exact List.forall_mem_cons.mpr ⟨rfl, List.forall_mem_singleton.mpr rfl⟩
    · exact List.forall_mem_cons.mpr ⟨words, List.forall_mem_singleton.mpr numbers⟩
  have whole : IsWhole (.list [.integer 10, .text ['2', '0'], .empty]) := by
    change ∀ value ∈ [Value.integer 10, .text ['2', '0'], .empty], _
    simp only [List.forall_mem_cons]
    exact ⟨⟨10, rfl⟩, ⟨20, rfl⟩, ⟨0, rfl⟩, List.forall_mem_nil _⟩
  have ordered : ∀ value ∈ [Value.integer 1, .integer 2, .text ['x']], value.isUnordered = false := by
    simp only [List.forall_mem_cons]
    exact ⟨rfl, rfl, rfl, List.forall_mem_nil _⟩
  obtain ⟨counted, summed, _, opposite⟩ := conditional_aggregates
  obtain ⟨rows, anyOrder, _⟩ := counted 3 _ decided
  obtain ⟨total, anyOrderOfSum, _⟩ := summed 3 _ (.list [.integer 10, .text ['2', '0'], .empty]) decided rfl whole
  obtain ⟨more, other, countMore, countOther, all⟩ :=
    (opposite (.list [.integer 1, .integer 2, .text ['x']]) ['1']).2 (by decide) ordered numbers
  refine ⟨decided, ?_, whole, ?_, more, other, all, countMore, countOther⟩
  · exact (anyOrder _ (List.Perm.swap _ _ _)).trans (anyOrder _ (List.Perm.refl _)).symm
  · exact (anyOrderOfSum _ (List.Perm.swap _ _ _)).trans (anyOrderOfSum _ (List.Perm.refl _)).symm

end Builtin

end Worksheet
