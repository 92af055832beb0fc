import Mathlib.Data.Finset.Card
import Mathlib.Data.Finset.Dedup
import Worksheet.Proofs.Formula.Reads
import Worksheet.Proofs.Formula.Volatile
import Worksheet.Proofs.Sheet.Pass
import Worksheet.Proofs.Value.Decidable

/-! As many passes as there are formula cells settle a sheet without circular formulas. Recalculation may stop before:
it compares values by an equality that takes truth values for numbers, and then the sheet that it gives need not be
settled. -/

namespace Worksheet.Sheet

variable {setting : Setting} {sheet last : Sheet} {keys : List Text} {flag : Bool}

/-! ## As many passes as formula cells -/

def place (keys : List Text) (rank : Text → Nat) (key : Text) : Nat :=
  (keys.toFinset.filter (rank · < rank key)).card

theorem place_lt_length {rank : Text → Nat} {key : Text} (member : key ∈ keys) :
    place keys rank key < keys.length := by
  refine lt_of_lt_of_le (Finset.card_lt_card ?_) (List.toFinset_card_le keys)
  refine Finset.filter_ssubset.mpr ⟨key, List.mem_toFinset.mpr member, ?_⟩
  omega

theorem place_lt_place {rank : Text → Nat} {other key : Text} (member : other ∈ keys)
    (smaller : rank other < rank key) : place keys rank other < place keys rank key := by
  refine Finset.card_lt_card (Finset.ssubset_iff_of_subset ?_ |>.mpr ⟨other, ?_, ?_⟩)
  · intro name among
    obtain ⟨inside, below⟩ := Finset.mem_filter.mp among
    exact Finset.mem_filter.mpr ⟨inside, Nat.lt_trans below smaller⟩
  · exact Finset.mem_filter.mpr ⟨List.mem_toFinset.mpr member, smaller⟩
  · intro among
    exact Nat.lt_irrefl _ (Finset.mem_filter.mp among).2

theorem AnswersRanked.place {base : Sheet} {rank : Text → Nat} (ranked : AnswersRanked setting base rank)
    (covers : Covers keys base) : AnswersRanked setting base (place keys rank) := by
  intro key source held first second agree
  refine ranked key source held first second fun other below => agree other ?_
  rcases below with none | smaller
  · exact Or.inl none
  · cases formula : base.formulaAt? other with
    | none => exact Or.inl rfl
    | some written => exact Or.inr (place_lt_place ((covers other).mpr ⟨written, formula⟩) smaller)

/-- Ranks can be taken below the number of the keys, so that many passes reach all of them. -/
theorem kept_of_enough {base : Sheet} {rank : Text → Nat} {count : Nat} (covers : Covers keys base)
    (ranked : AnswersRanked setting base rank) (enough : keys.length ≤ count)
    (ok : sweeps setting keys base count = .ok last) : ∀ key ∈ keys, Kept setting last key := by
  have none : KeptBelow setting base (place keys rank) 0 := fun _ _ _ small => absurd small (by omega)
  have below := keptBelow_sweeps covers (ranked.place covers) rfl none ok
  intro key member
  obtain ⟨source, held⟩ := covers.holds (bare_sweeps covers rfl ok) member
  have inside := @place_lt_length keys rank key member
  exact below key source held (by omega)

theorem kept_of_sweeps {base : Sheet} (covers : Covers keys base) (acyclic : Acyclic setting base)
    (ok : sweeps setting keys base keys.length = .ok last) : ∀ key ∈ keys, Kept setting last key := by
  obtain ⟨rank, ranked⟩ := acyclic
  exact kept_of_enough covers ranked.answers (Nat.le_refl _) ok

/-- Every formula cell holds what its formula gives over the sheet, in value and error. -/
def Settled (setting : Setting) (sheet : Sheet) : Prop :=
  ∀ key cell source, sheet.lookup? key = some (.cell cell) → cell.formula? = some source →
    ∃ answer, (evaluate setting sheet.view source).result = .ok answer ∧
      cell.value = answer.valueOf ∧ cell.error = answer.errorOf.map ErrorCode.text

theorem settled_of_kept (covers : Covers keys sheet) (kept : ∀ key ∈ keys, Kept setting sheet key) :
    Settled setting sheet := by
  intro key cell source found formula
  have member : key ∈ keys := (covers key).mpr ⟨source, formulaAt_eq_some.mpr ⟨cell, found, formula⟩⟩
  obtain ⟨own, name, foundOwn, formulaOwn, evaluation⟩ := kept key member
  rw [found] at foundOwn
  cases foundOwn
  rw [formula] at formulaOwn
  cases formulaOwn
  obtain ⟨answer, display, evaluated, _, equal⟩ := evaluated_eq_ok.mp evaluation
  refine ⟨answer, evaluated, ?_, ?_⟩
  · rw [equal]
    rfl
  · rw [equal]
    rfl

theorem kept_of_settled {key : Text} (settled : Settled setting sheet) (written : Written sheet key) :
    Kept setting sheet key := by
  obtain ⟨cell, source, answer, display, found, formula, shown, equal⟩ := written
  obtain ⟨final, evaluation, value, error⟩ := settled key cell source found formula
  have sameValue : answer.valueOf = final.valueOf := by rw [← value, equal]; rfl
  have sameError : answer.errorOf.map ErrorCode.text = final.errorOf.map ErrorCode.text := by
    rw [← error, equal]
    rfl
  refine ⟨cell, source, found, formula, evaluated_eq_ok.mpr ⟨final, display, evaluation, ?_, ?_⟩⟩
  · rw [← sameValue]
    exact shown
  · simpa only [computed, sameValue, sameError] using equal

/-! ## The sheet that recalculation gives -/

theorem lookup_eq_of_kept {first second : Sheet} {rank : Text → Nat} {key : Text}
    (alike : first.bare = second.bare) (ranked : AnswersRanked setting first rank)
    (kept : Kept setting first key) (keptSecond : Kept setting second key)
    (below : ∀ other, first.formulaAt? other = none ∨ rank other < rank key →
      first.lookup? other = second.lookup? other) : first.lookup? key = second.lookup? key := by
  obtain ⟨cell, source, found, formula, evaluation⟩ := kept
  obtain ⟨other, name, foundOther, formulaOther, evaluationOther⟩ := keptSecond
  obtain ⟨again, foundAgain, formulaAgain, style⟩ := cell_of_bare alike found formula
  rw [foundOther] at foundAgain
  cases foundAgain
  rw [formulaOther] at formulaAgain
  cases formulaAgain
  have held : first.formulaAt? key = some source := formulaAt_eq_some.mpr ⟨cell, found, formula⟩
  have answers := ranked key source held first second below
  rw [style, ← evaluated_congr _ answers, evaluation] at evaluationOther
  cases evaluationOther
  rw [found, foundOther]

theorem eq_of_kept {first second : Sheet} (alike : first.bare = second.bare)
    (distinct : (first.map (·.1)).Nodup) (covers : Covers keys first) (acyclic : Acyclic setting first)
    (kept : ∀ key ∈ keys, Kept setting first key) (keptSecond : ∀ key ∈ keys, Kept setting second key) :
    first = second := by
  obtain ⟨rank, ranked⟩ := acyclic
  have plain (key : Text) (none : first.formulaAt? key = none) : first.lookup? key = second.lookup? key :=
    lookup_of_bare alike (by rw [← formulaAt_of_bare alike, none])
  -- Cells of equal rank do not depend on one another, so the ranks follow in turn.
  have same (level : Nat) : ∀ key, first.formulaAt? key = none ∨ rank key < level →
      first.lookup? key = second.lookup? key := by
    induction level with
    | zero =>
      rintro key (none | small)
      · exact plain key none
      · omega
    | succ level ih =>
      rintro key (none | small)
      · exact plain key none
      · cases held : first.formulaAt? key with
        | none => exact plain key held
        | some source =>
          have member : key ∈ keys := (covers key).mpr ⟨source, held⟩
          refine lookup_eq_of_kept alike ranked.answers (kept key member) (keptSecond key member) ?_
          rintro other (none | smaller)
          · exact plain other none
          · exact ih other (Or.inr (by omega))
  exact eq_of_lookup distinct (keys_of_bare alike) fun key => same (rank key + 1) key (Or.inr (by omega))

theorem formulaOrder_of_recalculate {cells : Sheet} (converted : sheet.toCells = .ok cells)
    (returned : (recalculate setting sheet).result = .ok last) : ∃ keys, cells.formulaOrder = .ok keys := by
  obtain ⟨found, equal, later⟩ := Outcome.result_bind_eq_ok.mp returned
  obtain ⟨keys, ordered, _⟩ := Outcome.result_bind_eq_ok.mp later
  have same : cells = found := Except.ok.inj (converted.symm.trans equal)
  exact ⟨keys, by rw [same]; exact ordered⟩

theorem sweeps_of_recalculate {cells : Sheet} (covers : Covers keys cells)
    (converted : sheet.toCells = .ok cells) (ordered : cells.formulaOrder = .ok keys)
    (returned : (recalculate setting sheet).result = .ok last) :
    ∃ count, count ≤ max keys.length 1 ∧ sweeps setting keys cells count = .ok last ∧
      last.bare = cells.bare ∧ ∀ key ∈ keys, Written last key := by
  obtain ⟨count, run⟩ := (recalculate_eq_ok converted ordered).mp returned
  obtain ⟨made, bound, positive⟩ := sweeps_of_passes run
  exact ⟨count, bound, made, bare_sweeps covers rfl made,
    fun key member => written_sweeps covers member (positive (by omega)) rfl made⟩

theorem sweeps_of_settled {cells : Sheet} {count : Nat} (bound : count ≤ max keys.length 1)
    (made : sweeps setting keys cells count = .ok last) (kept : ∀ key ∈ keys, Kept setting last key) :
    sweeps setting keys cells keys.length = .ok last := by
  cases keys with
  | nil =>
    have none : ∀ key ∈ ([] : List Text), Kept setting cells key := fun _ member => nomatch member
    rw [sweeps_of_kept none] at made
    exact made
  | cons key rest =>
    have le : count ≤ (key :: rest).length := by
      simp only [List.length_cons] at bound ⊢
      omega
    obtain ⟨more, total⟩ := Nat.exists_eq_add_of_le le
    rw [total, sweeps_add made]
    exact sweeps_of_kept kept more

theorem kept_of_pass {base : Sheet} (covers : Covers keys base) (acyclic : Acyclic setting base)
    (alike : last.bare = base.bare) (ok : (pass setting last keys).result = .ok (last, flag)) :
    ∀ key ∈ keys, Kept setting last key := by
  obtain ⟨rank, ranked⟩ := acyclic
  have below (level : Nat) : KeptBelow setting last rank level := by
    induction level with
    | zero => exact fun _ _ _ small => absurd small (by omega)
    | succ level ih => exact keptBelow_pass_succ covers ranked.answers alike ih ok
  intro key member
  obtain ⟨source, held⟩ := covers.holds alike member
  exact below (rank key + 1) key source held (by omega)

theorem kept_of_recalculate {cells : Sheet} (covers : Covers keys cells)
    (distinct : (cells.map (·.1)).Nodup) (converted : sheet.toCells = .ok cells)
    (returned : (recalculate setting sheet).result = .ok last) (settled : Settled setting last) :
    last.bare = cells.bare ∧ ∀ key ∈ keys, Kept setting last key := by
  obtain ⟨names, ordered⟩ := formulaOrder_of_recalculate converted returned
  have named := covers_of_formulaOrder distinct ordered
  obtain ⟨_, _, _, alike, written⟩ := sweeps_of_recalculate named converted ordered returned
  refine ⟨alike, fun key member => kept_of_settled settled (written key ?_)⟩
  exact (named key).mpr ((covers key).mp member)

/-- As many passes as there are formula cells settle a sheet without circular formulas, and the settled
sheet does not depend on what stood in the formula cells before. Recalculation gives that sheet exactly when
one more pass would leave what it gives in every part as it is. -/
theorem recalculate_settled_iff (setting : Setting) (sheet cells last : Sheet) (keys : List Text)
    (distinct : (sheet.map (·.1)).Nodup) (converted : sheet.toCells = .ok cells)
    (ordered : cells.formulaOrder = .ok keys) (acyclic : Acyclic setting cells)
    (returned : (recalculate setting sheet).result = .ok last) :
    (Settled setting last ↔ sweeps setting keys cells keys.length = .ok last) ∧
      (Settled setting last ↔ ∃ flag, (pass setting last keys).result = .ok (last, flag)) ∧
      (∀ final, sweeps setting keys cells keys.length = .ok final → Settled setting final) ∧
      ∀ stale staleCells staleLast, stale.toCells = .ok staleCells → staleCells.bare = cells.bare →
        (recalculate setting stale).result = .ok staleLast →
        Settled setting last → Settled setting staleLast → staleLast = last := by
  have distinctCells : (cells.map (·.1)).Nodup := by rwa [keys_toCells converted]
  have covers := covers_of_formulaOrder distinctCells ordered
  obtain ⟨count, bound, made, alike, written⟩ := sweeps_of_recalculate covers converted ordered returned
  have lastCovers : Covers keys last := covers.of_bare alike.symm
  have keeps (settled : Settled setting last) : ∀ key ∈ keys, Kept setting last key :=
    fun key member => kept_of_settled settled (written key member)
  have settles (final : Sheet) (full : sweeps setting keys cells keys.length = .ok final) :
      Settled setting final :=
    settled_of_kept (covers.of_bare (bare_sweeps covers rfl full).symm) (kept_of_sweeps covers acyclic full)
  refine ⟨⟨fun settled => ?_, settles last⟩, ⟨fun settled => ?_, ?_⟩, settles, ?_⟩
  · exact sweeps_of_settled bound made (keeps settled)
  · exact pass_of_kept (keeps settled)
  · rintro ⟨flag, again⟩
    exact settled_of_kept lastCovers (kept_of_pass covers acyclic alike again)
  · intro stale staleCells staleLast staleConverted staleAlike staleReturned settled staleSettled
    have staleDistinct : (staleCells.map (·.1)).Nodup := by rwa [keys_of_bare staleAlike]
    obtain ⟨staleLastAlike, staleKeeps⟩ := kept_of_recalculate (covers.of_bare staleAlike.symm)
      staleDistinct staleConverted staleReturned staleSettled
    have sameBare : staleLast.bare = last.bare := staleLastAlike.trans (staleAlike.trans alike.symm)
    have lastDistinct : (staleLast.map (·.1)).Nodup := by rwa [keys_of_bare staleLastAlike]
    exact eq_of_kept sameBare lastDistinct (lastCovers.of_bare sameBare.symm)
      (acyclic.of_bare (alike.symm.trans sameBare.symm)) staleKeeps (keeps settled)

/-! ## Sheets without circular formulas -/

/-- Every formula reads only entries without a formula and formula cells of smaller rank. -/
def readsBelow (rank : Text → Nat) (sheet : Sheet) : Bool :=
  sheet.all fun entry =>
    ((sheet.formulaAt? entry.1).map Formula.ofText).all fun formula =>
      formula.reads.all fun position =>
        match position.key with
        | .ok name => (sheet.formulaAt? name).isNone || decide (rank name < rank entry.1)
        | .error _ => true

theorem ranked_of_readsBelow (setting : Setting) {rank : Text → Nat}
    (below : readsBelow rank sheet = true) : Ranked setting sheet rank := by
  intro key source held first second agree
  refine evaluateAt_congr setting 0 source fun position member => view_of_lookup fun name read => ?_
  obtain ⟨cell, found, _⟩ := formulaAt_eq_some.mp held
  have own := List.all_eq_true.mp below (key, .cell cell) (mem_of_lookup found)
  simp only [held, Option.map_some, Option.all_some] at own
  have smaller := List.all_eq_true.mp own position member
  simp only [read, Bool.or_eq_true, Option.isNone_iff_eq_none, decide_eq_true_eq] at smaller
  exact agree name smaller

theorem acyclic_of_readsBelow (setting : Setting) {rank : Text → Nat}
    (below : readsBelow rank sheet = true) : Acyclic setting sheet :=
  ⟨rank, ranked_of_readsBelow setting below⟩

def row (first second third : Cell) : Sheet :=
  [("0,0".toList, .cell first), ("0,1".toList, .cell second), ("0,2".toList, .cell third)]

def rowKeys : List Text :=
  ["0,0".toList, "0,1".toList, "0,2".toList]

def rowRank (key : Text) : Nat :=
  if key = "0,0".toList then 2 else if key = "0,1".toList then 1 else 0

theorem formulaOrder_row {first second third : Cell} (heads : first.formula?.isSome = true)
    (follows : second.formula?.isSome = true) (ends : third.formula?.isSome = true) :
    (row first second third).formulaOrder = .ok rowKeys := by
  obtain ⟨_, firstFormula⟩ := Option.isSome_iff_exists.mp heads
  obtain ⟨_, secondFormula⟩ := Option.isSome_iff_exists.mp follows
  obtain ⟨_, thirdFormula⟩ := Option.isSome_iff_exists.mp ends
  have read : (row first second third).formulaKeys
      = .ok [(⟨0, 0⟩, "0,0".toList), (⟨0, 1⟩, "0,1".toList), (⟨0, 2⟩, "0,2".toList)] := by
    simp only [row, formulaKeys, firstFormula, secondFormula, thirdFormula]
    rfl
  exact formulaOrder_of_sorted read (by decide)

/-- A chain of formulas that points to later cells, over whatever stood in its first cell. -/
def chain (stored : Value) : Sheet :=
  row { value := stored, formula := some "=B1".toList } { formula := some "=C1".toList }
    { formula := some "=5".toList }

def chainEnd : Sheet :=
  row { value := .integer 5, formula := some "=B1".toList, displayValue := some "5".toList }
    { value := .integer 5, formula := some "=C1".toList, displayValue := some "5".toList }
    { value := .integer 5, formula := some "=5".toList, displayValue := some "5".toList }

theorem recalculate_settled_iff_chain :
    Settled ⟨64, ⟨0, 0, .utc⟩⟩ chainEnd ∧
      ∀ last, (recalculate ⟨64, ⟨0, 0, .utc⟩⟩ (chain (.bool true))).result = .ok last →
        Settled ⟨64, ⟨0, 0, .utc⟩⟩ last → last = chainEnd := by
  have ordered : (chain .empty).formulaOrder = .ok rowKeys := formulaOrder_row rfl rfl rfl
  have below : readsBelow rowRank (chain .empty) = true := by decide +kernel
  have run : (passes ⟨64, ⟨0, 0, .utc⟩⟩ rowKeys (chain .empty) 3).result = .ok (chainEnd, 3) := by
    decide +kernel
  have facts := recalculate_settled_iff ⟨64, ⟨0, 0, .utc⟩⟩ (chain .empty) (chain .empty) chainEnd rowKeys
    (by decide) rfl ordered (acyclic_of_readsBelow _ below)
    ((recalculate_eq_ok rfl ordered).mpr ⟨3, run⟩)
  have settled : Settled ⟨64, ⟨0, 0, .utc⟩⟩ chainEnd := facts.1.mpr (by decide +kernel)
  refine ⟨settled, fun last returned => ?_⟩
  exact facts.2.2.2 (chain (.bool true)) _ last rfl (by decide) returned settled

/-- The second pass turns B1 from a truth value into the number that it counts as, after A1 was evaluated,
and recalculation stops there. -/
def unsettling : Sheet :=
  row { formula := some "=ISNUMBER(B1)".toList } { formula := some "=IF(C1,1,1=1)".toList }
    { formula := some "=5".toList }

def unsettled : Sheet :=
  row { value := .bool false, formula := some "=ISNUMBER(B1)".toList, displayValue := some "FALSE".toList }
    { value := .integer 1, formula := some "=IF(C1,1,1=1)".toList, displayValue := some "1".toList }
    { value := .integer 5, formula := some "=5".toList, displayValue := some "5".toList }

theorem recalculate_unsettling :
    (∀ entry ∈ unsettling, (Position.ofKey entry.1 >>= Position.key) = .ok entry.1) ∧
      (unsettling.map (·.1)).Nodup ∧
      (∀ entry ∈ unsettling, ∀ source ∈ unsettling.formulaAt? entry.1,
        (Formula.ofText source).isVolatile = false) ∧
      Acyclic ⟨64, ⟨0, 0, .utc⟩⟩ unsettling ∧
      (recalculate ⟨64, ⟨0, 0, .utc⟩⟩ unsettling).result = .ok unsettled ∧
      ¬Settled ⟨64, ⟨0, 0, .utc⟩⟩ unsettled := by
  have below : readsBelow rowRank unsettling = true := by decide +kernel
  have run : (passes ⟨64, ⟨0, 0, .utc⟩⟩ rowKeys unsettling 3).result = .ok (unsettled, 2) := by decide +kernel
  refine ⟨by decide +kernel, by decide, by decide +kernel, acyclic_of_readsBelow _ below, ?_,
    fun settled => ?_⟩
  · exact (recalculate_eq_ok rfl (formulaOrder_row rfl rfl rfl)).mpr ⟨2, run⟩
  · obtain ⟨answer, evaluation, value, _⟩ := settled "0,0".toList _ _ rfl rfl
    have truth : (evaluate ⟨64, ⟨0, 0, .utc⟩⟩ unsettled.view "=ISNUMBER(B1)".toList).result
        = .ok (.value (.bool true)) := by decide +kernel
    rw [truth] at evaluation
    cases evaluation
    cases value

end Worksheet.Sheet
