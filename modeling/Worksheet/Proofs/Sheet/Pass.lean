import Worksheet.Proofs.Sheet.Refresh

/-! Passes over the formula cells of a sheet. Each pass settles one more rank: its cells are evaluated over settled
ones, and whatever is evaluated later does not touch what they depend on. -/

namespace Worksheet.Sheet

variable {setting : Setting} {sheet last : Sheet} {keys : List Text} {flag : Bool}

/-! ## One pass -/

theorem pass_cons_eq_ok {key : Text} {rest : List Text} :
    (pass setting sheet (key :: rest)).result = .ok (last, flag) ↔
      ∃ next changed later, (refresh setting sheet key).result = .ok (next, changed) ∧
        (pass setting next rest).result = .ok (last, later) ∧ flag = (changed || later) := by
  simp only [pass, Outcome.result_bind_eq_ok, Outcome.result_pure, Except.ok.injEq, Prod.mk.injEq]
  constructor
  · rintro ⟨⟨next, changed⟩, first, ⟨final, later⟩, onward, rfl, rfl⟩
    exact ⟨next, changed, later, first, onward, rfl⟩
  · rintro ⟨next, changed, later, first, onward, rfl⟩
    exact ⟨(next, changed), first, (last, later), onward, rfl, rfl⟩

theorem pass_keeps (holds : Sheet → Prop)
    (step : ∀ key ∈ keys, ∀ {sheet next changed}, holds sheet →
      (refresh setting sheet key).result = .ok (next, changed) → holds next)
    (start : holds sheet) (ok : (pass setting sheet keys).result = .ok (last, flag)) : holds last := by
  induction keys generalizing sheet flag with
  | nil =>
    cases ok
    exact start
  | cons key rest ih =>
    obtain ⟨next, changed, later, first, onward, _⟩ := pass_cons_eq_ok.mp ok
    have after := step key (by simp) start first
    exact ih (fun other member => step other (by simp [member])) after onward

/-- What the evaluation of one key brings about and that of the others keeps, a pass brings about. -/
theorem pass_reaches (holds reached : Sheet → Prop) {key : Text}
    (step : ∀ key ∈ keys, ∀ {sheet next changed}, holds sheet →
      (refresh setting sheet key).result = .ok (next, changed) → holds next)
    (own : ∀ {sheet next changed}, holds sheet →
      (refresh setting sheet key).result = .ok (next, changed) → reached next)
    (keep : ∀ other ∈ keys, ∀ {sheet next changed}, holds sheet → reached sheet →
      (refresh setting sheet other).result = .ok (next, changed) → reached next)
    (member : key ∈ keys) (start : holds sheet)
    (ok : (pass setting sheet keys).result = .ok (last, flag)) : reached last := by
  induction keys generalizing sheet flag with
  | nil => cases member
  | cons name rest ih =>
    obtain ⟨next, changed, later, first, onward, _⟩ := pass_cons_eq_ok.mp ok
    have after := step name (by simp) start first
    have stepRest : ∀ key ∈ rest, ∀ {sheet next changed}, holds sheet →
        (refresh setting sheet key).result = .ok (next, changed) → holds next :=
      fun key member => step key (by simp [member])
    rcases List.mem_cons.mp member with rfl | member
    · have both : holds last ∧ reached last := by
        refine pass_keeps (fun sheet => holds sheet ∧ reached sheet) ?_ ⟨after, own start first⟩ onward
        intro other among sheet next changed before run
        exact ⟨stepRest other among before.1 run, keep other (by simp [among]) before.1 before.2 run⟩
      exact both.2
    · exact ih stepRest (fun other among => keep other (by simp [among])) member after onward

/-! ## The keys of a pass -/

def Covers (keys : List Text) (sheet : Sheet) : Prop :=
  ∀ key, key ∈ keys ↔ ∃ source, sheet.formulaAt? key = some source

theorem Covers.of_bare {first second : Sheet} (covers : Covers keys first)
    (alike : first.bare = second.bare) : Covers keys second := by
  intro key
  rw [covers key, formulaAt_of_bare alike]

theorem Covers.holds {base : Sheet} (covers : Covers keys base) (alike : sheet.bare = base.bare)
    {key : Text} (member : key ∈ keys) : ∃ source, sheet.formulaAt? key = some source :=
  (covers.of_bare alike.symm key).mp member

theorem keys_toCells {cells : Sheet} (converted : sheet.toCells = .ok cells) :
    cells.map (·.1) = sheet.map (·.1) := by
  induction sheet generalizing cells with
  | nil =>
    cases converted
    rfl
  | cons first rest ih =>
    obtain ⟨cell, _, converted⟩ := bind_eq_ok.mp converted
    obtain ⟨others, later, equal⟩ := bind_eq_ok.mp converted
    cases equal
    simp [ih later]

theorem mem_formulaKeys {found : List (Position × Text)} (ok : sheet.formulaKeys = .ok found) {key : Text} :
    key ∈ found.map (·.2) ↔ ∃ cell source, (key, Entry.cell cell) ∈ sheet ∧ cell.formula? = some source := by
  induction sheet generalizing found with
  | nil =>
    cases ok
    simp
  | cons first rest ih =>
    obtain ⟨name, entry⟩ := first
    cases entry with
    | record fields => simp [ih ok]
    | cell cell =>
      simp only [formulaKeys] at ok
      cases formula : cell.formula? with
      | none =>
        rw [formula] at ok
        rw [ih ok]
        constructor
        · rintro ⟨other, source, member, written⟩
          exact ⟨other, source, List.mem_cons_of_mem _ member, written⟩
        · rintro ⟨other, source, member, written⟩
          rcases List.mem_cons.mp member with same | member
          · cases same
            rw [formula] at written
            cases written
          · exact ⟨other, source, member, written⟩
      | some source =>
        rw [formula] at ok
        obtain ⟨position, _, ok⟩ := bind_eq_ok.mp ok
        obtain ⟨others, later, equal⟩ := bind_eq_ok.mp ok
        cases equal
        rw [List.map_cons, List.mem_cons, ih later]
        constructor
        · rintro (rfl | ⟨other, written, member, holds⟩)
          · exact ⟨cell, source, by simp, formula⟩
          · exact ⟨other, written, List.mem_cons_of_mem _ member, holds⟩
        · rintro ⟨other, written, member, holds⟩
          rcases List.mem_cons.mp member with same | member
          · cases same
            exact Or.inl rfl
          · exact Or.inr ⟨other, written, member, holds⟩

theorem covers_of_formulaOrder (distinct : (sheet.map (·.1)).Nodup)
    (ordered : sheet.formulaOrder = .ok keys) : Covers keys sheet := by
  obtain ⟨found, read, equal⟩ := bind_eq_ok.mp ordered
  cases equal
  intro key
  rw [((List.mergeSort_perm found _).map (·.2)).mem_iff, mem_formulaKeys read]
  constructor
  · rintro ⟨cell, source, member, formula⟩
    exact ⟨source, formulaAt_eq_some.mpr ⟨cell, (lookup_eq_some distinct).mpr member, formula⟩⟩
  · rintro ⟨source, held⟩
    obtain ⟨cell, member, formula⟩ := formulaAt_eq_some.mp held
    exact ⟨cell, source, (lookup_eq_some distinct).mp member, formula⟩

theorem formulaOrder_of_sorted {found : List (Position × Text)} (read : sheet.formulaKeys = .ok found)
    (sorted : found.Pairwise fun left right => left.1.before right.1 = true) :
    sheet.formulaOrder = .ok (found.map (·.2)) := by
  rw [formulaOrder, read]
  change Except.ok _ = _
  rw [List.mergeSort_of_pairwise sorted]

/-! ## What passes keep -/

/-- A formula cell as an evaluation over some sheet left it. -/
def Written (sheet : Sheet) (key : Text) : Prop :=
  ∃ cell source answer display, sheet.lookup? key = some (.cell cell) ∧ cell.formula? = some source ∧
    answer.valueOf.toText = .ok display ∧ cell = computed source cell.style answer display

theorem written_refresh {key source : Text} {sheet next : Sheet} {changed : Bool}
    (held : sheet.formulaAt? key = some source)
    (ok : (refresh setting sheet key).result = .ok (next, changed)) : Written next key := by
  obtain ⟨_, _, new, found, formula, evaluation⟩ := refresh_spec held ok
  obtain ⟨answer, display, _, shown, equal⟩ := evaluated_eq_ok.mp evaluation
  exact ⟨new, source, answer, display, found, formula, shown, equal⟩

section

variable {base : Sheet} (covers : Covers keys base)

include covers

theorem bare_refresh {key : Text} (member : key ∈ keys) {sheet next : Sheet} {changed : Bool}
    (alike : sheet.bare = base.bare) (ok : (refresh setting sheet key).result = .ok (next, changed)) :
    next.bare = base.bare := by
  obtain ⟨source, held⟩ := covers.holds alike member
  exact (refresh_spec held ok).1.trans alike

theorem bare_pass (alike : sheet.bare = base.bare)
    (ok : (pass setting sheet keys).result = .ok (last, flag)) : last.bare = base.bare :=
  pass_keeps (·.bare = base.bare) (fun _ member => bare_refresh covers member) alike ok

theorem written_pass {key : Text} (member : key ∈ keys) (alike : sheet.bare = base.bare)
    (ok : (pass setting sheet keys).result = .ok (last, flag)) : Written last key := by
  refine pass_reaches (·.bare = base.bare) (Written · key) (fun _ among => bare_refresh covers among)
    ?_ ?_ member alike ok
  · intro sheet next changed same run
    obtain ⟨source, held⟩ := covers.holds same member
    exact written_refresh held run
  · intro other among sheet next changed same written run
    obtain ⟨source, held⟩ := covers.holds same among
    by_cases own : other = key
    · exact own ▸ written_refresh held run
    · obtain ⟨cell, formula, answer, display, found, holds, shown, equal⟩ := written
      refine ⟨cell, formula, answer, display, ?_, holds, shown, equal⟩
      rw [(refresh_spec held run).2.1 key own]
      exact found

end

/-! ## Ranks -/

section

variable {base : Sheet} {rank : Text → Nat} (covers : Covers keys base)
  (ranked : AnswersRanked setting base rank)

include covers ranked

theorem keptBelow_step {level : Nat} {key : Text} (member : key ∈ keys) {sheet next : Sheet}
    {changed : Bool} (before : sheet.bare = base.bare ∧ KeptBelow setting sheet rank level)
    (ok : (refresh setting sheet key).result = .ok (next, changed)) :
    next.bare = base.bare ∧ KeptBelow setting next rank level := by
  obtain ⟨source, held⟩ := covers.holds before.1 member
  exact ⟨bare_refresh covers member before.1 ok,
    keptBelow_refresh (ranked.of_bare before.1.symm) held ok before.2⟩

theorem keptBelow_pass {level : Nat} (alike : sheet.bare = base.bare)
    (below : KeptBelow setting sheet rank level)
    (ok : (pass setting sheet keys).result = .ok (last, flag)) :
    KeptBelow setting last rank level :=
  (pass_keeps (fun sheet => sheet.bare = base.bare ∧ KeptBelow setting sheet rank level)
    (fun _ member => keptBelow_step covers ranked member) ⟨alike, below⟩ ok).2

/-- A pass settles the next rank: each of its cells is evaluated over settled ones, and whatever is
evaluated later does not touch what it depends on. -/
theorem keptBelow_pass_succ {level : Nat} (alike : sheet.bare = base.bare)
    (below : KeptBelow setting sheet rank level)
    (ok : (pass setting sheet keys).result = .ok (last, flag)) :
    KeptBelow setting last rank (level + 1) := by
  intro key source held small
  by_cases settled : rank key < level
  · exact keptBelow_pass covers ranked alike below ok key source held settled
  · have own : rank key = level := by omega
    rw [formulaAt_of_bare (bare_pass covers alike ok)] at held
    have member : key ∈ keys := (covers key).mpr ⟨source, held⟩
    refine pass_reaches
      (fun sheet => sheet.bare = base.bare ∧ KeptBelow setting sheet rank level)
      (fun sheet => Kept setting sheet key) (fun _ among => keptBelow_step covers ranked among) ?_ ?_
      member ⟨alike, below⟩ ok
    · intro sheet next changed before run
      rw [← formulaAt_of_bare before.1] at held
      exact kept_refresh_self (ranked.of_bare before.1.symm) held run
    · intro other among sheet next changed before kept run
      obtain ⟨formula, holds⟩ := covers.holds before.1 among
      rw [← formulaAt_of_bare before.1] at held
      exact kept_refresh (ranked.of_bare before.1.symm) holds run held (own ▸ before.2) kept

end

/-! ## Many passes -/

/-- That many passes over the keys, whether they change anything or not. -/
def sweeps (setting : Setting) (keys : List Text) (sheet : Sheet) : Nat → Except Failure Sheet
  | 0 => .ok sheet
  | count + 1 => do
    let (next, _) ← (pass setting sheet keys).result
    sweeps setting keys next count

theorem sweeps_succ_eq_ok {count : Nat} :
    sweeps setting keys sheet (count + 1) = .ok last ↔
      ∃ next changed, (pass setting sheet keys).result = .ok (next, changed) ∧
        sweeps setting keys next count = .ok last := by
  simp only [sweeps, bind_eq_ok]
  constructor
  · rintro ⟨⟨next, changed⟩, run, onward⟩
    exact ⟨next, changed, run, onward⟩
  · rintro ⟨next, changed, run, onward⟩
    exact ⟨(next, changed), run, onward⟩

theorem sweeps_add {count more : Nat} {middle : Sheet}
    (ok : sweeps setting keys sheet count = .ok middle) :
    sweeps setting keys sheet (count + more) = sweeps setting keys middle more := by
  induction count generalizing sheet with
  | zero =>
    cases ok
    rw [Nat.zero_add]
  | succ count ih =>
    obtain ⟨next, changed, run, onward⟩ := sweeps_succ_eq_ok.mp ok
    rw [Nat.succ_add, sweeps, run]
    exact ih onward

theorem sweeps_of_passes {limit count : Nat}
    (ok : (passes setting keys sheet limit).result = .ok (last, count)) :
    sweeps setting keys sheet count = .ok last ∧ count ≤ limit ∧ (0 < limit → 0 < count) := by
  induction limit generalizing sheet count with
  | zero =>
    cases ok
    exact ⟨rfl, Nat.le_refl _, id⟩
  | succ limit ih =>
    obtain ⟨⟨next, changed⟩, run, onward⟩ := Outcome.result_bind_eq_ok.mp ok
    cases changed with
    | false =>
      cases onward
      exact ⟨sweeps_succ_eq_ok.mpr ⟨_, false, run, rfl⟩, by omega, fun _ => by omega⟩
    | true =>
      obtain ⟨⟨final, before⟩, later, equal⟩ := Outcome.result_bind_eq_ok.mp onward
      cases equal
      obtain ⟨made, bound, _⟩ := ih later
      exact ⟨sweeps_succ_eq_ok.mpr ⟨next, true, run, made⟩, by omega, fun _ => by omega⟩

theorem recalculate_eq_ok {cells : Sheet} (converted : sheet.toCells = .ok cells)
    (ordered : cells.formulaOrder = .ok keys) :
    (recalculate setting sheet).result = .ok last ↔
      ∃ count, (passes setting keys cells (max keys.length 1)).result = .ok (last, count) := by
  simp only [recalculate, Outcome.result_bind_eq_ok, Outcome.result_ofExcept, Outcome.result_report,
    Except.ok.injEq]
  constructor
  · rintro ⟨found, equal, names, order, ⟨final, count⟩, run, rfl⟩
    rw [converted] at equal
    cases equal
    rw [ordered] at order
    cases order
    exact ⟨count, run⟩
  · rintro ⟨count, run⟩
    exact ⟨cells, converted, keys, ordered, (last, count), run, rfl⟩

section

variable {base : Sheet} {rank : Text → Nat} (covers : Covers keys base)

include covers

theorem bare_sweeps {count : Nat} (alike : sheet.bare = base.bare)
    (ok : sweeps setting keys sheet count = .ok last) : last.bare = base.bare := by
  induction count generalizing sheet with
  | zero =>
    cases ok
    exact alike
  | succ count ih =>
    obtain ⟨next, changed, run, onward⟩ := sweeps_succ_eq_ok.mp ok
    exact ih (bare_pass covers alike run) onward

theorem keptBelow_sweeps (ranked : AnswersRanked setting base rank) {level count : Nat}
    (alike : sheet.bare = base.bare) (below : KeptBelow setting sheet rank level)
    (ok : sweeps setting keys sheet count = .ok last) :
    KeptBelow setting last rank (level + count) := by
  induction count generalizing sheet level with
  | zero =>
    cases ok
    exact below
  | succ count ih =>
    obtain ⟨next, changed, run, onward⟩ := sweeps_succ_eq_ok.mp ok
    have deeper := ih (bare_pass covers alike run) (keptBelow_pass_succ covers ranked alike below run) onward
    have sum : level + 1 + count = level + (count + 1) := by omega
    rwa [sum] at deeper

theorem written_sweeps {count : Nat} {key : Text} (member : key ∈ keys) (positive : 0 < count)
    (alike : sheet.bare = base.bare) (ok : sweeps setting keys sheet count = .ok last) :
    Written last key := by
  induction count generalizing sheet with
  | zero => omega
  | succ count ih =>
    obtain ⟨next, changed, run, onward⟩ := sweeps_succ_eq_ok.mp ok
    cases count with
    | zero =>
      cases onward
      exact written_pass covers member alike run
    | succ count => exact ih (by omega) (bare_pass covers alike run) onward

end

theorem pass_of_kept (kept : ∀ key ∈ keys, Kept setting sheet key) :
    ∃ flag, (pass setting sheet keys).result = .ok (sheet, flag) := by
  induction keys with
  | nil => exact ⟨false, rfl⟩
  | cons key rest ih =>
    obtain ⟨changed, run⟩ := refresh_of_kept (kept key (by simp))
    obtain ⟨later, onward⟩ := ih fun other member => kept other (by simp [member])
    exact ⟨_, pass_cons_eq_ok.mpr ⟨sheet, changed, later, run, onward, rfl⟩⟩

theorem sweeps_of_kept (kept : ∀ key ∈ keys, Kept setting sheet key) (count : Nat) :
    sweeps setting keys sheet count = .ok sheet := by
  induction count with
  | zero => rfl
  | succ count ih =>
    obtain ⟨flag, run⟩ := pass_of_kept kept
    exact sweeps_succ_eq_ok.mpr ⟨sheet, flag, run, ih⟩

end Worksheet.Sheet
