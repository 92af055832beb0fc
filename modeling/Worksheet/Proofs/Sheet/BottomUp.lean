import Worksheet.Proofs.Address
import Worksheet.Proofs.Formula.Reporting
import Worksheet.Proofs.Sheet.Recalculation
import Worksheet.Proofs.Value.Limits

/-! What passes over a sheet without circular formulas come to: the answers of its formulas taken from the bottom up,
rank by rank. Where the cells stand does not matter, and neither does what was in them before. A pass only fails over
a value that has no text, and recalculation makes no more passes than there are formula cells. -/

namespace Worksheet.Sheet

variable {setting : Setting} {sheet last : Sheet} {keys : List Text} {flag : Bool}

/-! ## The order of a pass -/

def Canonical (sheet : Sheet) : Prop :=
  ∀ key ∈ sheet.map (·.1), ∃ position : Position, position.key = .ok key

def RowMajor (keys : List Text) : Prop :=
  keys.Pairwise fun left right =>
    ∀ first second : Position, first.key = .ok left → second.key = .ok right → first.Precedes second

theorem exists_formulaKeys (canonical : Canonical sheet) :
    ∃ found, sheet.formulaKeys = .ok found ∧ (found.map (·.2)).Sublist (sheet.map (·.1)) ∧
      ∀ pair ∈ found, pair.1.key = .ok pair.2 := by
  induction sheet with
  | nil => exact ⟨[], rfl, List.Sublist.refl _, List.forall_mem_nil _⟩
  | cons first rest ih =>
    obtain ⟨key, entry⟩ := first
    obtain ⟨found, read, part, named⟩ := ih fun other member => canonical other (List.mem_cons_of_mem _ member)
    cases entry with
    | record fields => exact ⟨found, read, part.cons key, named⟩
    | cell cell =>
      cases formula : cell.formula? with
      | none =>
        refine ⟨found, ?_, part.cons key, named⟩
        rw [formulaKeys, formula]
        exact read
      | some source =>
        obtain ⟨position, written⟩ := canonical key List.mem_cons_self
        refine ⟨(position, key) :: found, ?_, part.cons_cons key, List.forall_mem_cons.mpr ⟨written, named⟩⟩
        simp only [formulaKeys, formula, Position.ofKey_of_key written, read]
        rfl

theorem exists_formulaOrder (canonical : Canonical sheet) (distinct : (sheet.map (·.1)).Nodup) :
    ∃ keys, sheet.formulaOrder = .ok keys ∧ keys.Nodup ∧ RowMajor keys := by
  obtain ⟨found, read, part, named⟩ := exists_formulaKeys canonical
  have sorted := @List.pairwise_mergeSort _ (fun left right : Position × Text => left.1.before right.1)
    (fun _ _ _ => Position.before_trans) (fun _ _ => Position.before_total _ _) found
  have rearranged := List.mergeSort_perm found fun left right => left.1.before right.1
  have nodup := (rearranged.map (·.2)).nodup_iff.mpr (distinct.sublist part)
  refine ⟨_, by rw [formulaOrder, read]; rfl, nodup, List.pairwise_map.mpr ?_⟩
  refine (sorted.and (List.pairwise_map.mp nodup)).imp_of_mem ?_
  rintro left right isLeft isRight ⟨before, apart⟩ first second firstKey secondKey
  have leftKey := named left (rearranged.mem_iff.mp isLeft)
  have rightKey := named right (rearranged.mem_iff.mp isRight)
  rw [Position.key_inj firstKey leftKey, Position.key_inj secondKey rightKey]
  refine Position.precedes_of_before before fun same => apart ?_
  rw [same, rightKey] at leftKey
  exact (Except.ok.inj leftKey).symm

/-! ## Answers from the bottom up -/

def shownText (answer : Answer) : Text :=
  match answer.valueOf.toText with
  | .ok text => text
  | .error _ => []

/-- The entry with the answer in it, as an evaluation writes it into a formula cell. -/
def fill (answer : Answer) : Entry → Entry
  | .cell found =>
    match found.formula? with
    | some source => .cell (computed source found.style answer (shownText answer))
    | none => .cell found
  | other => other

def filled (answers : Text → Answer) (sheet : Sheet) : Sheet :=
  sheet.map fun entry => (entry.1, fill (answers entry.1) entry.2)

def answerAt (setting : Setting) (sheet : Sheet) (key : Text) : Answer :=
  match sheet.formulaAt? key with
  | some source =>
    match (evaluate setting sheet.view source).result with
    | .ok answer => answer
    | .error _ => .error .failure
  | none => .value .empty

/-- The answers of the ranks below the level: those of one rank after the other, each over a sheet filled with
the answers before. -/
def answersBelow (setting : Setting) (sheet : Sheet) (rank : Text → Nat) : Nat → Text → Answer
  | 0, _ => .value .empty
  | level + 1, key =>
    if rank key = level then answerAt setting (sheet.filled (answersBelow setting sheet rank level)) key
    else answersBelow setting sheet rank level key

def bottomUp (setting : Setting) (sheet : Sheet) (rank : Text → Nat) (key : Text) : Answer :=
  answersBelow setting sheet rank (rank key + 1) key

/-- The cell under the key holds the answer, in value and error. -/
def Holds (sheet : Sheet) (key : Text) (answer : Answer) : Prop :=
  ∃ cell, sheet.lookup? key = some (.cell cell) ∧ cell.value = answer.valueOf ∧
    cell.error = answer.errorOf.map ErrorCode.text

theorem lookup_filled (answers : Text → Answer) (sheet : Sheet) (key : Text) :
    (sheet.filled answers).lookup? key = (sheet.lookup? key).map (fill (answers key)) := by
  induction sheet with
  | nil => rfl
  | cons first rest ih =>
    change lookup? ((first.1, fill (answers first.1) first.2) :: filled answers rest) key = _
    rw [lookup_cons, lookup_cons, ih]
    by_cases here : first.1 = key
    · rw [if_pos here, if_pos here, here]
      rfl
    · rw [if_neg here, if_neg here]

theorem lookup_filled_of_no_formula {answers : Text → Answer} {key : Text} (none : sheet.formulaAt? key = none) :
    (sheet.filled answers).lookup? key = sheet.lookup? key := by
  rw [lookup_filled]
  unfold formulaAt? at none
  cases found : sheet.lookup? key with
  | none => rfl
  | some entry =>
    cases entry with
    | record fields => rfl
    | cell cell =>
      rw [found] at none
      simp [fill, none]

theorem lookup_filled_of_formula {answers : Text → Answer} {key source : Text} {cell : Cell}
    (found : sheet.lookup? key = some (.cell cell)) (formula : cell.formula? = some source) :
    (sheet.filled answers).lookup? key =
      some (.cell (computed source cell.style (answers key) (shownText (answers key)))) := by
  simp [lookup_filled, found, fill, formula]

theorem formulaAt_filled (answers : Text → Answer) (sheet : Sheet) (key : Text) :
    (sheet.filled answers).formulaAt? key = sheet.formulaAt? key := by
  cases held : sheet.formulaAt? key with
  | none =>
    rw [formulaAt?, lookup_filled_of_no_formula held]
    exact held
  | some source =>
    obtain ⟨cell, found, formula⟩ := formulaAt_eq_some.mp held
    exact formulaAt_eq_some.mpr ⟨_, lookup_filled_of_formula found formula, Cell.formula_congr formula rfl⟩

theorem filled_of_bare {first second : Sheet} (alike : first.bare = second.bare) (answers : Text → Answer) :
    first.filled answers = second.filled answers := by
  have own (sheet : Sheet) : sheet.bare.filled answers = sheet.filled answers := by
    simp only [bare, filled, List.map_map]
    refine List.map_congr_left fun entry _ => ?_
    obtain ⟨key, held⟩ := entry
    cases held with
    | record fields => rfl
    | cell cell =>
      cases formula : cell.formula? with
      | none => simp [bare_of_no_formula formula]
      | some source =>
        have same : Cell.formula? { formula := some source, style := cell.style } = some source :=
          Cell.formula_congr formula rfl
        simp [bare_of_formula formula, fill, formula, same]
  rw [← own first, alike, own]

theorem answerAt_eq {key source : Text} {answer : Answer} (held : sheet.formulaAt? key = some source)
    (evaluation : (evaluate setting sheet.view source).result = .ok answer) : answerAt setting sheet key = answer := by
  simp only [answerAt, held, evaluation]

theorem answersBelow_eq_bottomUp {rank : Text → Nat} {level : Nat} {key : Text} (below : rank key < level) :
    answersBelow setting sheet rank level key = bottomUp setting sheet rank key := by
  induction level with
  | zero => omega
  | succ level ih =>
    by_cases own : rank key = level
    · rw [bottomUp, own]
    · rw [answersBelow, if_neg own]
      exact ih (by omega)

theorem bottomUp_of_bare {first second : Sheet} (alike : first.bare = second.bare) (rank : Text → Nat) :
    bottomUp setting first rank = bottomUp setting second rank := by
  have same (level : Nat) : answersBelow setting first rank level = answersBelow setting second rank level := by
    induction level with
    | zero => rfl
    | succ level ih =>
      funext key
      rw [answersBelow, answersBelow, ih, filled_of_bare alike]
  funext key
  rw [bottomUp, same, bottomUp]

theorem exists_answer (setting : Setting) (sheet : Sheet) (source : Text) :
    ∃ answer, (evaluate setting sheet.view source).result = .ok answer :=
  Formula.result_answer setting sheet.view source (Formula.ofText source)

/-! ## Passes -/

theorem lookup_of_kept {base : Sheet} {answers : Text → Answer} {key source : Text} (alike : last.bare = base.bare)
    (held : base.formulaAt? key = some source) (kept : Kept setting last key)
    (answered : (evaluate setting last.view source).result = .ok (answers key)) :
    last.lookup? key = (base.filled answers).lookup? key := by
  obtain ⟨cell, name, found, formula, evaluation⟩ := kept
  have heldLast : last.formulaAt? key = some source := (formulaAt_of_bare alike key).trans held
  have same : name = source :=
    Option.some.inj ((formulaAt_eq_some.mpr ⟨cell, found, formula⟩).symm.trans heldLast)
  subst same
  obtain ⟨answer, display, own, shown, equal⟩ := evaluated_eq_ok.mp evaluation
  obtain ⟨other, foundOther, formulaOther, style⟩ := cell_of_bare alike found formula
  rw [answered] at own
  cases own
  rw [lookup_filled_of_formula foundOther formulaOther, found, equal, style, shownText, shown]

/-- Where the smaller ranks stay under evaluation they hold their answers from the bottom up. -/
theorem lookup_eq_filled {base : Sheet} {rank : Text → Nat} {level : Nat} (ranked : AnswersRanked setting base rank)
    (alike : last.bare = base.bare) (kept : KeptBelow setting last rank level) :
    ∀ key, base.formulaAt? key = none ∨ rank key < level →
      last.lookup? key = (base.filled (answersBelow setting base rank level)).lookup? key := by
  have plain (level : Nat) (key : Text) (none : base.formulaAt? key = none) :
      last.lookup? key = (base.filled (answersBelow setting base rank level)).lookup? key := by
    rw [lookup_filled_of_no_formula none, lookup_of_bare alike none]
  induction level with
  | zero =>
    rintro key (none | small)
    · exact plain 0 key none
    · omega
  | succ level ih =>
    have before := ih fun key source held small => kept key source held (by omega)
    intro key below
    by_cases done : rank key < level
    · rw [before key (Or.inr done), lookup_filled, lookup_filled, answersBelow, if_neg (by omega)]
    · cases held : base.formulaAt? key with
      | none => exact plain (level + 1) key held
      | some source =>
        have own : rank key = level := by
          rcases below with none | small
          · rw [held] at none
            cases none
          · omega
        obtain ⟨answer, answered⟩ := exists_answer setting last source
        have same : (evaluate setting (base.filled (answersBelow setting base rank level)).view source).result =
            .ok answer := by
          rw [← answered]
          exact ranked key source held _ _ fun name smaller => (before name (own ▸ smaller)).symm
        have found : answersBelow setting base rank (level + 1) key = answer := by
          rw [answersBelow, if_pos own]
          exact answerAt_eq ((formulaAt_filled _ _ _).trans held) same
        have heldLast : last.formulaAt? key = some source := (formulaAt_of_bare alike key).trans held
        exact lookup_of_kept alike held (kept key source heldLast (by omega)) (by rw [found, answered])

theorem holds_of_keptBelow {base : Sheet} {rank : Text → Nat} {level : Nat} {key source : Text}
    (ranked : AnswersRanked setting base rank) (alike : last.bare = base.bare)
    (kept : KeptBelow setting last rank level) (held : base.formulaAt? key = some source) (below : rank key < level) :
    last.Holds key (bottomUp setting base rank key) := by
  obtain ⟨cell, found, formula⟩ := formulaAt_eq_some.mp held
  have same := lookup_eq_filled ranked alike kept key (Or.inr below)
  rw [lookup_filled_of_formula found formula, answersBelow_eq_bottomUp below] at same
  exact ⟨_, same, rfl, rfl⟩

theorem evaluate_filled {rank : Text → Nat} (ranked : AnswersRanked setting sheet rank) {key source : Text}
    (held : sheet.formulaAt? key = some source) :
    (evaluate setting (sheet.filled (bottomUp setting sheet rank)).view source).result =
      .ok (bottomUp setting sheet rank key) := by
  obtain ⟨answer, answered⟩ :=
    exists_answer setting (sheet.filled (answersBelow setting sheet rank (rank key))) source
  have found : bottomUp setting sheet rank key = answer := by
    rw [bottomUp, answersBelow, if_pos rfl]
    exact answerAt_eq ((formulaAt_filled _ _ _).trans held) answered
  rw [found, ← answered]
  refine ranked key source held _ _ ?_
  rintro other (none | smaller)
  · rw [lookup_filled_of_no_formula none, lookup_filled_of_no_formula none]
  · rw [lookup_filled, lookup_filled, answersBelow_eq_bottomUp smaller]

/-- After more passes than its rank, and after as many passes as there are formula cells, a formula cell holds
its answer from the bottom up. -/
theorem holds_of_sweeps {base : Sheet} {rank : Text → Nat} {count : Nat} {key : Text} (covers : Covers keys base)
    (ranked : AnswersRanked setting base rank) (ok : sweeps setting keys base count = .ok last) (member : key ∈ keys)
    (enough : rank key < count ∨ keys.length ≤ count) : last.Holds key (bottomUp setting base rank key) := by
  have alike := bare_sweeps covers rfl ok
  obtain ⟨source, held⟩ := (covers key).mp member
  rcases enough with below | full
  · have none : KeptBelow setting base rank 0 := fun _ _ _ small => absurd small (by omega)
    have kept := keptBelow_sweeps covers ranked rfl none ok
    exact holds_of_keptBelow ranked alike kept held (by omega)
  · have all := kept_of_enough covers ranked full ok
    have kept : KeptBelow setting last rank (rank key + 1) := by
      intro other name heldOther _
      exact all other ((covers.of_bare alike.symm other).mpr ⟨name, heldOther⟩)
    exact holds_of_keptBelow ranked alike kept held (Nat.lt_succ_self _)

/-! ## Passes that cannot be made -/

theorem toText_of_long {number : Nat} (long : ¬Text.Short number) :
    (Value.ofNat number).toText = .error .unreadable := by
  rw [Value.ofNat, Value.toText, Number.display, Text.writeInt, Int.natAbs_natCast]
  exact if_pos (Nat.lt_of_not_le long)

def Unwritable (setting : Setting) (sheet : Sheet) (key : Text) : Prop :=
  ∃ cell answer, sheet.lookup? key = some (.cell cell) ∧
    (evaluate setting sheet.view (cell.formula.getD [])).result = .ok answer ∧
    answer.valueOf.toText = .error .unreadable

def Blocked (setting : Setting) (sheet : Sheet) (keys : List Text) : Prop :=
  ∃ before key after reached flag, keys = before ++ key :: after ∧
    (pass setting sheet before).result = .ok (reached, flag) ∧ Unwritable setting reached key

theorem evaluated_eq_error {style : Value} {source : Text} {answer : Answer} {failure : Failure}
    (answered : (evaluate setting sheet.view source).result = .ok answer)
    (failed : answer.valueOf.toText = .error failure) :
    (evaluated setting sheet style source).result = .error failure := by
  rw [evaluated, Outcome.result_bind, answered]
  change (Outcome.ofExcept answer.valueOf.toText >>= _).result = _
  rw [failed]
  rfl

theorem refresh_of_unwritable {key : Text} (unwritable : Unwritable setting sheet key) :
    (refresh setting sheet key).result = .error .unreadable := by
  obtain ⟨cell, answer, found, answered, failed⟩ := unwritable
  rw [refresh, found]
  change (evaluated setting sheet cell.style (cell.formula.getD []) >>= _).result = _
  rw [Outcome.result_bind, evaluated_eq_error answered failed]
  rfl

theorem refresh_cases (setting : Setting) (sheet : Sheet) (key : Text) :
    (∃ next flag, (refresh setting sheet key).result = .ok (next, flag)) ∨
      Unwritable setting sheet key ∧ (refresh setting sheet key).result = .error .unreadable := by
  cases found : sheet.lookup? key with
  | none => exact Or.inl ⟨sheet, false, by rw [refresh, found]; rfl⟩
  | some entry =>
    cases entry with
    | record fields => exact Or.inl ⟨sheet, false, by rw [refresh, found]; rfl⟩
    | cell cell =>
      obtain ⟨answer, answered⟩ := exists_answer setting sheet (cell.formula.getD [])
      cases shown : answer.valueOf.toText with
      | ok display =>
        have new := evaluated_eq_ok.mpr
          ⟨answer, display, answered, shown, @rfl _ (computed _ cell.style answer display)⟩
        have run : ∃ next, (refresh setting sheet key).result = .ok next := by
          rw [refresh, found]
          change ∃ next, (evaluated setting sheet cell.style (cell.formula.getD []) >>= _).result = .ok next
          rw [Outcome.result_bind, new]
          exact ⟨_, rfl⟩
        obtain ⟨⟨next, flag⟩, run⟩ := run
        exact Or.inl ⟨next, flag, run⟩
      | error failure =>
        obtain rfl := List.mem_singleton.mp (answer.valueOf.toText_onlyFails failure shown)
        have unwritable : Unwritable setting sheet key := ⟨cell, answer, found, answered, shown⟩
        exact Or.inr ⟨unwritable, refresh_of_unwritable unwritable⟩

theorem pass_cases (setting : Setting) (sheet : Sheet) (keys : List Text) :
    (∃ next flag, (pass setting sheet keys).result = .ok (next, flag)) ∨
      Blocked setting sheet keys ∧ (pass setting sheet keys).result = .error .unreadable := by
  induction keys generalizing sheet with
  | nil => exact Or.inl ⟨sheet, false, rfl⟩
  | cons key rest ih =>
    rcases refresh_cases setting sheet key with ⟨next, changed, first⟩ | ⟨unwritable, failed⟩
    · rcases ih next with ⟨final, later, onward⟩ | ⟨⟨before, other, after, reached, flag, cut, run, stop⟩, failed⟩
      · exact Or.inl ⟨final, _, pass_cons_eq_ok.mpr ⟨next, changed, later, first, onward, rfl⟩⟩
      · refine Or.inr ⟨⟨key :: before, other, after, reached, _, by rw [cut]; rfl,
          pass_cons_eq_ok.mpr ⟨next, changed, flag, first, run, rfl⟩, stop⟩, ?_⟩
        rw [pass, Outcome.result_bind, first]
        change (pass setting next rest >>= _).result = _
        rw [Outcome.result_bind, failed]
        rfl
    · refine Or.inr ⟨⟨[], key, rest, sheet, false, rfl, rfl, unwritable⟩, ?_⟩
      rw [pass, Outcome.result_bind, failed]
      rfl

theorem sweeps_cases (setting : Setting) (sheet : Sheet) (keys : List Text) (count : Nat) :
    (∃ last, sweeps setting keys sheet count = .ok last) ∨
      ∃ made reached, made < count ∧ sweeps setting keys sheet made = .ok reached ∧
        Blocked setting reached keys ∧ sweeps setting keys sheet count = .error .unreadable := by
  induction count generalizing sheet with
  | zero => exact Or.inl ⟨sheet, rfl⟩
  | succ count ih =>
    rcases pass_cases setting sheet keys with ⟨next, flag, run⟩ | ⟨blocked, failed⟩
    · rcases ih next with ⟨last, onward⟩ | ⟨made, reached, bound, onward, blocked, failed⟩
      · exact Or.inl ⟨last, sweeps_succ_eq_ok.mpr ⟨next, flag, run, onward⟩⟩
      · refine Or.inr ⟨made + 1, reached, by omega, sweeps_succ_eq_ok.mpr ⟨next, flag, run, onward⟩, blocked, ?_⟩
        rw [sweeps, run]
        exact failed
    · refine Or.inr ⟨0, sheet, by omega, rfl, blocked, ?_⟩
      rw [sweeps, failed]
      rfl

/-! ## Recalculation -/

theorem passes_cases (setting : Setting) (sheet : Sheet) (keys : List Text) (limit : Nat) :
    (∃ last count, (passes setting keys sheet limit).result = .ok (last, count)) ∨
      ∃ made reached, made < limit ∧ sweeps setting keys sheet made = .ok reached ∧
        Blocked setting reached keys ∧ (passes setting keys sheet limit).result = .error .unreadable := by
  induction limit generalizing sheet with
  | zero => exact Or.inl ⟨sheet, 0, rfl⟩
  | succ limit ih =>
    rcases pass_cases setting sheet keys with ⟨next, changed, run⟩ | ⟨blocked, failed⟩
    · cases changed with
      | false =>
        refine Or.inl ⟨next, 1, ?_⟩
        rw [passes, Outcome.result_bind, run]
        rfl
      | true =>
        rcases ih next with ⟨last, count, onward⟩ | ⟨made, reached, bound, onward, blocked, failed⟩
        · refine Or.inl ⟨last, count + 1, ?_⟩
          rw [passes, Outcome.result_bind, run]
          change (passes setting keys next limit >>= _).result = _
          rw [Outcome.result_bind, onward]
          rfl
        · refine Or.inr ⟨made + 1, reached, by omega, sweeps_succ_eq_ok.mpr ⟨next, true, run, onward⟩, blocked, ?_⟩
          rw [passes, Outcome.result_bind, run]
          change (passes setting keys next limit >>= _).result = _
          rw [Outcome.result_bind, failed]
          rfl
    · refine Or.inr ⟨0, sheet, by omega, rfl, blocked, ?_⟩
      rw [passes, Outcome.result_bind, failed]
      rfl

theorem recalculate_cases {cells : Sheet} (converted : sheet.toCells = .ok cells)
    (ordered : cells.formulaOrder = .ok keys) :
    (∃ last count, 0 < count ∧ count ≤ max keys.length 1 ∧ sweeps setting keys cells count = .ok last ∧
      (recalculate setting sheet).result = .ok last ∧
      (recalculate setting sheet).events.getLast? = some (recalculated keys.length count).cut) ∨
    ∃ made reached, made < max keys.length 1 ∧ sweeps setting keys cells made = .ok reached ∧
      Blocked setting reached keys ∧ (recalculate setting sheet).result = .error .unreadable := by
  have whole : recalculate setting sheet = passes setting keys cells (max keys.length 1) >>= fun final =>
      Outcome.report (recalculated keys.length final.2) final.1 := by
    rw [recalculate, converted]
    change (Outcome.ofExcept cells.formulaOrder >>= _) = _
    rw [ordered]
    rfl
  rcases passes_cases setting cells keys (max keys.length 1) with
    ⟨last, count, run⟩ | ⟨made, reached, bound, steps, blocked, failed⟩
  · obtain ⟨made, bound, positive⟩ := sweeps_of_passes run
    refine Or.inl ⟨last, count, positive (by omega), bound, made, ?_, ?_⟩
    · rw [whole, Outcome.result_bind, run]
      rfl
    · rw [whole, Outcome.bind_of_ok run]
      exact List.getLast?_concat
  · refine Or.inr ⟨made, reached, bound, steps, blocked, ?_⟩
    rw [whole, Outcome.result_bind, failed]
    rfl

/-- As many passes as there are formula cells are enough. In the order of the rows, each pass settles at least
one rank more: its cells hold their answers from the bottom up and keep them, whatever stood in them before. A
pass takes place unless a formula in it comes to a value that has no text, and recalculation makes no more passes
than there are formula cells, or a single one if there are none. -/
theorem sweeps_bottomUp (setting : Setting) (sheet cells : Sheet) (converted : sheet.toCells = .ok cells) :
    ((sheet.map (·.1)).Nodup → Canonical sheet →
      ∃ keys, cells.formulaOrder = .ok keys ∧ keys.Nodup ∧ RowMajor keys ∧ Covers keys cells ∧
        ∀ rank, AnswersRanked setting cells rank →
          (∃ lower, AnswersRanked setting cells lower ∧ ∀ key ∈ keys, lower key < keys.length) ∧
          (∀ key source, cells.formulaAt? key = some source →
            (evaluate setting (cells.filled (bottomUp setting cells rank)).view source).result =
              .ok (bottomUp setting cells rank key)) ∧
          (∀ stale : Sheet, stale.bare = cells.bare → bottomUp setting stale rank = bottomUp setting cells rank) ∧
          ∀ count last, sweeps setting keys cells count = .ok last →
            ∀ key ∈ keys, rank key < count ∨ keys.length ≤ count →
              last.Holds key (bottomUp setting cells rank key) ∧
              ∀ more final, sweeps setting keys last more = .ok final →
                final.Holds key (bottomUp setting cells rank key)) ∧
    (∀ keys count, (∃ last, sweeps setting keys cells count = .ok last) ∨
      ∃ made reached, made < count ∧ sweeps setting keys cells made = .ok reached ∧
        Blocked setting reached keys ∧ sweeps setting keys cells count = .error .unreadable) ∧
    ∀ keys, cells.formulaOrder = .ok keys →
      (∃ last count, 0 < count ∧ count ≤ max keys.length 1 ∧ sweeps setting keys cells count = .ok last ∧
        (recalculate setting sheet).result = .ok last ∧
        (recalculate setting sheet).events.getLast? = some (recalculated keys.length count).cut) ∨
      ∃ made reached, made < max keys.length 1 ∧ sweeps setting keys cells made = .ok reached ∧
        Blocked setting reached keys ∧ (recalculate setting sheet).result = .error .unreadable := by
  refine ⟨fun distinct canonical => ?_, fun keys => sweeps_cases setting cells keys,
    fun keys ordered => recalculate_cases converted ordered⟩
  have same := keys_toCells converted
  have distinctCells : (cells.map (·.1)).Nodup := by rwa [same]
  have canonicalCells : Canonical cells := by rwa [Canonical, same]
  obtain ⟨keys, ordered, nodup, rows⟩ := exists_formulaOrder canonicalCells distinctCells
  have covers := covers_of_formulaOrder distinctCells ordered
  refine ⟨keys, ordered, nodup, rows, covers, fun rank ranked => ⟨?_, ?_, ?_, ?_⟩⟩
  · exact ⟨place keys rank, ranked.place covers, fun key => place_lt_length⟩
  · intro key source held
    exact evaluate_filled ranked held
  · intro stale alike
    exact bottomUp_of_bare alike rank
  · intro count last made key member enough
    refine ⟨holds_of_sweeps covers ranked made member enough, fun more final onward => ?_⟩
    have total : sweeps setting keys cells (count + more) = .ok final := by rw [sweeps_add made, onward]
    exact holds_of_sweeps covers ranked total member (by omega)

theorem sweeps_bottomUp_chain :
    let answer := bottomUp ⟨64, ⟨0, 0, .utc⟩⟩ (chain (.bool true)) rowRank
    answer "0,0".toList = .value (.integer 5) ∧ answer = bottomUp ⟨64, ⟨0, 0, .utc⟩⟩ (chain .empty) rowRank ∧
      chainEnd.Holds "0,0".toList (answer "0,0".toList) ∧
      ∀ last, sweeps ⟨64, ⟨0, 0, .utc⟩⟩ rowKeys (chain (.bool true)) 1 = .ok last →
        last.Holds "0,2".toList (answer "0,2".toList) := by
  intro answer
  have canonical : Canonical (chain (.bool true)) := by
    have named : ∀ key ∈ rowKeys, ∃ position : Position, position.key = .ok key := by
      simp only [rowKeys, List.forall_mem_cons]
      exact ⟨⟨⟨0, 0⟩, rfl⟩, ⟨⟨0, 1⟩, rfl⟩, ⟨⟨0, 2⟩, rfl⟩, List.forall_mem_nil _⟩
    exact named
  have below : readsBelow rowRank (chain (.bool true)) = true := by decide +kernel
  have ranked := (ranked_of_readsBelow ⟨64, ⟨0, 0, .utc⟩⟩ below).answers
  have run : sweeps ⟨64, ⟨0, 0, .utc⟩⟩ rowKeys (chain (.bool true)) 3 = .ok chainEnd := by decide +kernel
  obtain ⟨keys, ordered, _, _, _, holds⟩ :=
    (sweeps_bottomUp ⟨64, ⟨0, 0, .utc⟩⟩ (chain (.bool true)) _ rfl).1 (by decide) canonical
  have same : rowKeys = keys := Except.ok.inj ((formulaOrder_row rfl rfl rfl).symm.trans ordered)
  subst same
  obtain ⟨_, _, stale, settles⟩ := holds rowRank ranked
  refine ⟨by decide +kernel, (stale (chain .empty) (by decide)).symm, ?_, fun last made => ?_⟩
  · exact (settles 3 chainEnd run "0,0".toList (by decide) (Or.inl (by decide))).1
  · exact (settles 1 last made "0,2".toList (by decide) (Or.inl (by decide))).1

def squared : Sheet :=
  [("0,0".toList, .cell { value := .ofNat (10 ^ 2200) }),
   ("0,1".toList, .cell { formula := some "=A1*A1".toList })]

theorem recalculate_squared :
    Canonical squared ∧ (squared.map (·.1)).Nodup ∧ AnswersRanked ⟨64, ⟨0, 0, .utc⟩⟩ squared (fun _ => 0) ∧
      squared.toCells = .ok squared ∧ squared.formulaOrder = .ok ["0,1".toList] ∧
      bottomUp ⟨64, ⟨0, 0, .utc⟩⟩ squared (fun _ => 0) "0,1".toList = .value (.ofNat (10 ^ 4400)) ∧
      sweeps ⟨64, ⟨0, 0, .utc⟩⟩ ["0,1".toList] squared 1 = .error .unreadable ∧
      (recalculate ⟨64, ⟨0, 0, .utc⟩⟩ squared).result = .error .unreadable := by
  have below : readsBelow (fun _ => 0) squared = true := by decide +kernel
  have ordered : squared.formulaOrder = .ok ["0,1".toList] :=
    @formulaOrder_of_sorted squared [(⟨0, 1⟩, "0,1".toList)] rfl (List.pairwise_singleton _ _)
  have answered : (evaluate ⟨64, ⟨0, 0, .utc⟩⟩ squared.view "=A1*A1".toList).result =
      .ok (.value (.ofNat (10 ^ 4400))) := by decide +kernel
  have long : ¬Text.Short (10 ^ 4400) := Text.not_short_pow (by decide)
  have unwritable : Unwritable ⟨64, ⟨0, 0, .utc⟩⟩ squared "0,1".toList :=
    ⟨_, _, rfl, answered, toText_of_long long⟩
  have fails : sweeps ⟨64, ⟨0, 0, .utc⟩⟩ ["0,1".toList] squared 1 = .error .unreadable := by
    rw [sweeps, pass, Outcome.result_bind, refresh_of_unwritable unwritable]
    rfl
  refine ⟨?_, by decide, (ranked_of_readsBelow _ below).answers, rfl, ordered, by decide +kernel, fails, ?_⟩
  · have named : ∀ key ∈ ["0,0".toList, "0,1".toList], ∃ position : Position, position.key = .ok key := by
      simp only [List.forall_mem_cons]
      exact ⟨⟨⟨0, 0⟩, rfl⟩, ⟨⟨0, 1⟩, rfl⟩, List.forall_mem_nil _⟩
    exact named
  · rcases @recalculate_cases ⟨64, ⟨0, 0, .utc⟩⟩ squared _ squared rfl ordered with
      ⟨last, count, positive, most, made, _⟩ | ⟨_, _, _, _, _, failed⟩
    · have single : count = 1 := Nat.le_antisymm most positive
      rw [single, fails] at made
      cases made
    · exact failed

end Worksheet.Sheet
