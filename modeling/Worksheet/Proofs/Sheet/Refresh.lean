import Worksheet.Proofs.Outcome
import Worksheet.Proofs.Sheet.Basic
import Worksheet.Sheet.Recalculation

/-! One formula of a sheet evaluated again. All other entries stay, and of its own cell the formula and the style. If
no formula depends on itself, a cell that shows what its formula gives still does so after another one is refreshed,
as long as those that it depends on did before. -/

namespace Worksheet

theorem Cell.formula_eq_some {cell : Cell} {source : Text} :
    cell.formula? = some source ↔ cell.formula = some source ∧ source.isEmpty = false := by
  simp [formula?, Option.filter_eq_some_iff]

theorem Cell.formula_congr {first second : Cell} {source : Text} (formula : first.formula? = some source)
    (same : second.formula = some source) : second.formula? = some source :=
  formula_eq_some.mpr ⟨same, (formula_eq_some.mp formula).2⟩

/-- The entry without what an evaluation writes: of a formula cell, the formula and the style. -/
def Entry.bare : Entry → Entry
  | .cell found =>
    if found.formula?.isSome then .cell { formula := found.formula, style := found.style } else .cell found
  | other => other

namespace Sheet

def formulaAt? (sheet : Sheet) (key : Text) : Option Text :=
  match sheet.lookup? key with
  | some (.cell cell) => cell.formula?
  | _ => none

theorem formulaAt_eq_some {sheet : Sheet} {key source : Text} :
    sheet.formulaAt? key = some source ↔
      ∃ cell, sheet.lookup? key = some (.cell cell) ∧ cell.formula? = some source := by
  unfold formulaAt?
  cases sheet.lookup? key with
  | none => simp
  | some entry =>
    cases entry with
    | record fields => simp
    | cell found => simp

/-! ## Sheets of the same formulas -/

def bare (sheet : Sheet) : Sheet :=
  sheet.map fun entry => (entry.1, entry.2.bare)

theorem keys_bare (sheet : Sheet) : sheet.bare.map (·.1) = sheet.map (·.1) := by
  simp [bare]

theorem lookup_bare (sheet : Sheet) (key : Text) :
    sheet.bare.lookup? key = (sheet.lookup? key).map Entry.bare := by
  induction sheet with
  | nil => rfl
  | cons first rest ih =>
    change lookup? ((first.1, first.2.bare) :: bare rest) key = _
    rw [lookup_cons, lookup_cons, ih]
    split
    · rfl
    · rfl

theorem bare_put (key : Text) (entry : Entry) (sheet : Sheet) :
    (put key entry sheet).bare = put key entry.bare sheet.bare := by
  induction sheet with
  | nil => rfl
  | cons first rest ih =>
    change (put key entry (first :: rest)).bare = put key entry.bare ((first.1, first.2.bare) :: bare rest)
    rw [put_cons, put_cons, ← ih]
    split
    · rfl
    · rfl

theorem bare_of_formula {cell : Cell} {source : Text} (formula : cell.formula? = some source) :
    (Entry.cell cell).bare = .cell { formula := some source, style := cell.style } := by
  simp [Entry.bare, formula, (Cell.formula_eq_some.mp formula).1]

theorem bare_of_no_formula {cell : Cell} (none : cell.formula? = none) :
    (Entry.cell cell).bare = .cell cell := by
  simp [Entry.bare, none]

theorem formulaAt_bare (sheet : Sheet) (key : Text) : sheet.bare.formulaAt? key = sheet.formulaAt? key := by
  unfold formulaAt?
  rw [lookup_bare]
  cases sheet.lookup? key with
  | none => rfl
  | some entry =>
    cases entry with
    | record fields => rfl
    | cell found =>
      cases formula : found.formula? with
      | none => simp [bare_of_no_formula formula, formula]
      | some source =>
        have own : Cell.formula? { formula := some source, style := found.style } = some source :=
          Cell.formula_congr formula rfl
        simp [bare_of_formula formula, formula, own]

theorem lookup_bare_of_no_formula {sheet : Sheet} {key : Text} (none : sheet.formulaAt? key = none) :
    sheet.bare.lookup? key = sheet.lookup? key := by
  rw [lookup_bare]
  unfold formulaAt? at none
  cases found : sheet.lookup? key with
  | none => rfl
  | some entry =>
    cases entry with
    | record fields => rfl
    | cell cell =>
      rw [found] at none
      simp [bare_of_no_formula none]

section

variable {first second : Sheet} (alike : first.bare = second.bare)

include alike

theorem keys_of_bare : first.map (·.1) = second.map (·.1) := by
  rw [← keys_bare, alike, keys_bare]

theorem formulaAt_of_bare (key : Text) : first.formulaAt? key = second.formulaAt? key := by
  rw [← formulaAt_bare, alike, formulaAt_bare]

theorem lookup_of_bare {key : Text} (none : second.formulaAt? key = none) :
    first.lookup? key = second.lookup? key := by
  have other : first.formulaAt? key = Option.none := (formulaAt_of_bare alike key).trans none
  rw [← lookup_bare_of_no_formula other, alike, lookup_bare_of_no_formula none]

theorem cell_of_bare {key source : Text} {cell : Cell} (found : first.lookup? key = some (.cell cell))
    (formula : cell.formula? = some source) :
    ∃ other, second.lookup? key = some (.cell other) ∧ other.formula? = some source ∧
      other.style = cell.style := by
  have own : second.formulaAt? key = some source := by
    rw [← formulaAt_of_bare alike]
    exact formulaAt_eq_some.mpr ⟨cell, found, formula⟩
  obtain ⟨other, foundOther, formulaOther⟩ := formulaAt_eq_some.mp own
  have same : (first.bare).lookup? key = (second.bare).lookup? key := by rw [alike]
  rw [lookup_bare, lookup_bare, found, foundOther] at same
  simp only [Option.map_some, bare_of_formula formula, bare_of_formula formulaOther, Option.some.injEq,
    Entry.cell.injEq, Cell.mk.injEq, true_and, and_true] at same
  exact ⟨other, foundOther, formulaOther, same.symm⟩

end

/-! ## One evaluation -/

def computed (source : Text) (style : Value) (answer : Answer) (display : Text) : Cell :=
  { value := answer.valueOf
    formula := some source
    displayValue := some display
    error := answer.errorOf.map ErrorCode.text
    style := style }

theorem evaluated_eq_ok {setting : Setting} {sheet : Sheet} {style : Value} {source : Text} {cell : Cell} :
    (evaluated setting sheet style source).result = .ok cell ↔
      ∃ answer display, (evaluate setting sheet.view source).result = .ok answer ∧
        answer.valueOf.toText = .ok display ∧ cell = computed source style answer display := by
  simp only [evaluated, Outcome.result_bind_eq_ok, Outcome.result_ofExcept, Outcome.result_pure,
    Except.ok.injEq]
  constructor
  · rintro ⟨answer, evaluation, display, shown, rfl⟩
    exact ⟨answer, display, evaluation, shown, rfl⟩
  · rintro ⟨answer, display, evaluation, shown, rfl⟩
    exact ⟨answer, evaluation, display, shown, rfl⟩

theorem evaluated_congr {setting : Setting} {first second : Sheet} {source : Text} (style : Value)
    (same : (evaluate setting first.view source).result = (evaluate setting second.view source).result) :
    (evaluated setting first style source).result = (evaluated setting second style source).result := by
  simp only [evaluated, Outcome.result_bind, same]

/-- Evaluated again, the cell of the key would stay as it is in every part. -/
def Kept (setting : Setting) (sheet : Sheet) (key : Text) : Prop :=
  ∃ cell source, sheet.lookup? key = some (.cell cell) ∧ cell.formula? = some source ∧
    (evaluated setting sheet cell.style source).result = .ok cell

variable {setting : Setting} {sheet next : Sheet} {key : Text} {flag : Bool}

theorem refresh_eq_ok {cell : Cell} {source : Text} (found : sheet.lookup? key = some (.cell cell))
    (formula : cell.formula? = some source) :
    (refresh setting sheet key).result = .ok (next, flag) ↔
      ∃ new, (evaluated setting sheet cell.style source).result = .ok new ∧
        next = put key (.cell new) sheet ∧
        flag = (!Value.identical new.value cell.value || new.error != cell.error) := by
  have own : cell.formula.getD [] = source := by rw [(Cell.formula_eq_some.mp formula).1]; rfl
  unfold refresh
  rw [found]
  simp only [own, Outcome.result_bind_eq_ok, Outcome.result_pure, Except.ok.injEq, Prod.mk.injEq]
  constructor
  · rintro ⟨new, evaluation, rfl, rfl⟩
    exact ⟨new, evaluation, rfl, rfl⟩
  · rintro ⟨new, evaluation, rfl, rfl⟩
    exact ⟨new, evaluation, rfl, rfl⟩

theorem refresh_spec {source : Text} (holds : sheet.formulaAt? key = some source)
    (ok : (refresh setting sheet key).result = .ok (next, flag)) :
    next.bare = sheet.bare ∧ (∀ other, key ≠ other → next.lookup? other = sheet.lookup? other) ∧
      ∃ new, next.lookup? key = some (.cell new) ∧ new.formula? = some source ∧
        (evaluated setting sheet new.style source).result = .ok new := by
  obtain ⟨cell, found, formula⟩ := formulaAt_eq_some.mp holds
  obtain ⟨new, evaluation, rfl, _⟩ := (refresh_eq_ok found formula).mp ok
  obtain ⟨answer, display, _, _, rfl⟩ := evaluated_eq_ok.mp evaluation
  have formulaNew := @Cell.formula_congr cell (computed source cell.style answer display) source formula rfl
  refine ⟨?_, fun other apart => ?_, _, ?_, formulaNew, evaluation⟩
  · rw [bare_put, bare_of_formula formulaNew, put_of_lookup]
    rw [lookup_bare, found, Option.map_some, bare_of_formula formula]
    rfl
  · rw [lookup_put, if_neg apart]
  · rw [lookup_put, if_pos rfl]

theorem refresh_of_kept (kept : Kept setting sheet key) :
    ∃ flag, (refresh setting sheet key).result = .ok (sheet, flag) := by
  obtain ⟨cell, source, found, formula, evaluation⟩ := kept
  exact ⟨_, (refresh_eq_ok found formula).mpr ⟨cell, evaluation, (put_of_lookup found).symm, rfl⟩⟩

/-! ## Dependencies -/

/-- A formula depends on nothing but the entries without a formula and the formula cells of smaller rank:
sheets with the same of these give it the same answer. -/
def Ranked (setting : Setting) (sheet : Sheet) (rank : Text → Nat) : Prop :=
  ∀ key source, sheet.formulaAt? key = some source → ∀ first second : Sheet,
    (∀ other, sheet.formulaAt? other = none ∨ rank other < rank key →
      first.lookup? other = second.lookup? other) →
    evaluate setting first.view source = evaluate setting second.view source

def AnswersRanked (setting : Setting) (sheet : Sheet) (rank : Text → Nat) : Prop :=
  ∀ key source, sheet.formulaAt? key = some source → ∀ first second : Sheet,
    (∀ other, sheet.formulaAt? other = none ∨ rank other < rank key →
      first.lookup? other = second.lookup? other) →
    (evaluate setting first.view source).result = (evaluate setting second.view source).result

theorem Ranked.answers {sheet : Sheet} {rank : Text → Nat} (ranked : Ranked setting sheet rank) :
    AnswersRanked setting sheet rank := by
  intro key source holds first second agree
  rw [ranked key source holds first second agree]

/-- No formula depends on itself, directly or through others. -/
def Acyclic (setting : Setting) (sheet : Sheet) : Prop :=
  ∃ rank, Ranked setting sheet rank

def KeptBelow (setting : Setting) (sheet : Sheet) (rank : Text → Nat) (level : Nat) : Prop :=
  ∀ key source, sheet.formulaAt? key = some source → rank key < level → Kept setting sheet key

theorem Ranked.of_bare {first second : Sheet} {rank : Text → Nat} (ranked : Ranked setting first rank)
    (alike : first.bare = second.bare) : Ranked setting second rank := by
  intro key source holds left right agree
  rw [← formulaAt_of_bare alike] at holds
  refine ranked key source holds left right fun other below => agree other ?_
  rwa [← formulaAt_of_bare alike]

theorem AnswersRanked.of_bare {first second : Sheet} {rank : Text → Nat}
    (ranked : AnswersRanked setting first rank) (alike : first.bare = second.bare) :
    AnswersRanked setting second rank := by
  intro key source holds left right agree
  rw [← formulaAt_of_bare alike] at holds
  refine ranked key source holds left right fun other below => agree other ?_
  rwa [← formulaAt_of_bare alike]

theorem Acyclic.of_bare {first second : Sheet} (acyclic : Acyclic setting first)
    (alike : first.bare = second.bare) : Acyclic setting second := by
  obtain ⟨rank, ranked⟩ := acyclic
  exact ⟨rank, ranked.of_bare alike⟩

section

variable {rank : Text → Nat} {source : Text} (ranked : AnswersRanked setting sheet rank)
  (holds : sheet.formulaAt? key = some source)
  (ok : (refresh setting sheet key).result = .ok (next, flag))

include ranked holds ok

theorem evaluate_refresh {other : Text} {formula : Text} (held : sheet.formulaAt? other = some formula)
    (above : ¬rank key < rank other) :
    (evaluate setting next.view formula).result = (evaluate setting sheet.view formula).result := by
  refine ranked other formula held next sheet fun name below => (refresh_spec holds ok).2.1 name ?_
  rintro rfl
  rcases below with none | smaller
  · rw [none] at holds
    cases holds
  · exact above smaller

theorem kept_refresh_self : Kept setting next key := by
  obtain ⟨_, _, new, found, formula, evaluation⟩ := refresh_spec holds ok
  refine ⟨new, source, found, formula, ?_⟩
  rw [evaluated_congr _ (evaluate_refresh ranked holds ok holds (by omega))]
  exact evaluation

theorem kept_refresh {other formula : Text} (held : sheet.formulaAt? other = some formula)
    (below : KeptBelow setting sheet rank (rank other)) (kept : Kept setting sheet other) :
    Kept setting next other := by
  by_cases smaller : rank key < rank other
  · -- The refreshed cell was kept itself, so that the sheet has not changed at all.
    obtain ⟨again, same⟩ := refresh_of_kept (below key source holds smaller)
    rw [same] at ok
    cases ok
    exact kept
  · by_cases own : key = other
    · subst own
      exact kept_refresh_self ranked holds ok
    · obtain ⟨cell, name, found, written, evaluation⟩ := kept
      have sameName : name = formula := by
        have both := formulaAt_eq_some.mpr ⟨cell, found, written⟩
        rw [held] at both
        exact (Option.some.inj both).symm
      subst sameName
      refine ⟨cell, name, ?_, written, ?_⟩
      · rw [(refresh_spec holds ok).2.1 other own]
        exact found
      · rw [evaluated_congr _ (evaluate_refresh ranked holds ok held smaller)]
        exact evaluation

theorem keptBelow_refresh {level : Nat} (below : KeptBelow setting sheet rank level) :
    KeptBelow setting next rank level := by
  intro other formula held smaller
  rw [formulaAt_of_bare (refresh_spec holds ok).1] at held
  refine kept_refresh ranked holds ok held ?_ (below other formula held smaller)
  exact fun name written found lower => below name written found (Nat.lt_trans lower smaller)

end

end Sheet

end Worksheet
