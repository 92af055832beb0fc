import Worksheet.Sheet.Basic

/-! Entries under their keys: what is found after one is put in or taken out. -/

namespace Worksheet

namespace Entry

def isErroring : Entry → Bool
  | record fields => ((Field.lookup? fields "error").getD .empty).isPresent
  | cell found => found.error?.isSome

theorem visibleValue_of_isErroring {entry : Entry} (erroring : entry.isErroring = true) :
    entry.visibleValue = .empty := by
  cases entry with
  | record fields => exact if_pos erroring
  | cell found => exact if_pos erroring

end Entry

namespace Sheet

def erase (key : Text) (sheet : Sheet) : Sheet :=
  sheet.filter (·.1 != key)

@[simp] theorem lookup_nil (key : Text) : lookup? [] key = none := rfl

theorem lookup_cons (first : Text × Entry) (rest : Sheet) (key : Text) :
    lookup? (first :: rest) key = if first.1 = key then some first.2 else lookup? rest key := by
  by_cases here : first.1 = key
  · simp [lookup?, here]
  · simp [lookup?, here]

theorem put_cons (key : Text) (entry : Entry) (first : Text × Entry) (rest : Sheet) :
    put key entry (first :: rest) =
      if first.1 = key then (key, entry) :: rest else first :: put key entry rest := by
  by_cases here : first.1 = key
  · simp [put, here]
  · simp [put, here]

theorem erase_cons (key : Text) (first : Text × Entry) (rest : Sheet) :
    erase key (first :: rest) = if first.1 = key then erase key rest else first :: erase key rest := by
  by_cases here : first.1 = key
  · simp [erase, here]
  · simp [erase, here]

theorem lookup_put (key : Text) (entry : Entry) (sheet : Sheet) (other : Text) :
    lookup? (put key entry sheet) other = if key = other then some entry else lookup? sheet other := by
  induction sheet with
  | nil => simp [put, lookup_cons]
  | cons first rest ih =>
    rw [put_cons]
    split
    next here =>
      subst here
      by_cases equal : first.1 = other
      · simp [lookup_cons, equal]
      · simp [lookup_cons, equal]
    next apart =>
      by_cases equal : first.1 = other
      · have elsewhere : key ≠ other := fun same => apart (equal.trans same.symm)
        simp [lookup_cons, equal, elsewhere]
      · simp [lookup_cons, equal, ih]

theorem lookup_erase (key : Text) (sheet : Sheet) (other : Text) :
    lookup? (erase key sheet) other = if key = other then none else lookup? sheet other := by
  induction sheet with
  | nil => simp [erase]
  | cons first rest ih =>
    rw [erase_cons]
    split
    next here =>
      subst here
      rw [ih]
      by_cases equal : first.1 = other
      · simp [equal]
      · simp [lookup_cons, equal]
    next apart =>
      by_cases equal : first.1 = other
      · have elsewhere : key ≠ other := fun same => apart (equal.trans same.symm)
        simp [lookup_cons, equal, elsewhere]
      · simp [lookup_cons, equal, ih]

theorem put_of_lookup {sheet : Sheet} {key : Text} {entry : Entry}
    (found : sheet.lookup? key = some entry) : put key entry sheet = sheet := by
  induction sheet with
  | nil => cases found
  | cons first rest ih =>
    rw [lookup_cons] at found
    rw [put_cons]
    split at found
    next here =>
      cases found
      rw [if_pos here, ← here]
    next apart => rw [if_neg apart, ih found]

theorem lookup_eq_none {sheet : Sheet} {key : Text} :
    sheet.lookup? key = none ↔ key ∉ sheet.map (·.1) := by
  induction sheet with
  | nil => simp
  | cons first rest ih =>
    rw [lookup_cons, List.map_cons, List.mem_cons, not_or, ← ih]
    by_cases here : first.1 = key
    · simp [here]
    · simp [here, Ne.symm here]

theorem mem_of_lookup {sheet : Sheet} {key : Text} {entry : Entry}
    (found : sheet.lookup? key = some entry) : (key, entry) ∈ sheet := by
  obtain ⟨⟨name, value⟩, first, equal⟩ := Option.map_eq_some_iff.mp found
  have same : name = key := by simpa using List.find?_some first
  rw [← same, ← equal]
  exact List.mem_of_find?_eq_some first

theorem lookup_eq_some {sheet : Sheet} (distinct : (sheet.map (·.1)).Nodup) {key : Text} {entry : Entry} :
    sheet.lookup? key = some entry ↔ (key, entry) ∈ sheet := by
  induction sheet with
  | nil => simp
  | cons first rest ih =>
    obtain ⟨name, value⟩ := first
    obtain ⟨fresh, later⟩ := List.nodup_cons.mp distinct
    rw [lookup_cons, List.mem_cons, Prod.mk.injEq]
    split
    next here =>
      change name = key at here
      subst here
      have absent : (name, entry) ∉ rest := fun member => fresh (List.mem_map.mpr ⟨_, member, rfl⟩)
      simp [absent, eq_comm]
    next apart => simp [ih later, Ne.symm apart]

theorem eq_of_lookup {first second : Sheet} (distinct : (first.map (·.1)).Nodup)
    (keys : first.map (·.1) = second.map (·.1))
    (same : ∀ key, first.lookup? key = second.lookup? key) : first = second := by
  induction first generalizing second with
  | nil =>
    cases second with
    | nil => rfl
    | cons entry rest => cases keys
  | cons entry rest ih =>
    obtain ⟨name, value⟩ := entry
    cases second with
    | nil => cases keys
    | cons other others =>
      obtain ⟨otherName, otherValue⟩ := other
      obtain ⟨names, laterKeys⟩ := List.cons.inj keys
      obtain ⟨fresh, later⟩ := List.nodup_cons.mp distinct
      simp only at names fresh
      subst names
      have here := same name
      simp only [lookup_cons, if_true, Option.some.injEq] at here
      subst here
      have onward : rest = others := by
        refine ih later laterKeys fun key => ?_
        by_cases own : name = key
        · subst own
          rw [lookup_eq_none.mpr fresh, lookup_eq_none.mpr (laterKeys ▸ fresh)]
        · simpa [lookup_cons, own] using same key
      rw [onward]

theorem valueAt_of_lookup {first second : Sheet} {key : Text}
    (same : first.lookup? key = second.lookup? key) : first.valueAt key = second.valueAt key := by
  simp only [valueAt, same]

theorem view_of_lookup {first second : Sheet} {position : Position}
    (same : ∀ name, position.key = .ok name → first.lookup? name = second.lookup? name) :
    first.view position = second.view position := by
  unfold view
  cases read : position.key with
  | error failure => rfl
  | ok name =>
    change Except.ok (first.valueAt name) = Except.ok (second.valueAt name)
    rw [valueAt_of_lookup (same name read)]

theorem view_erase {sheet : Sheet} {key : Text} {entry : Entry}
    (found : sheet.lookup? key = some entry) (erroring : entry.isErroring = true) :
    (sheet.erase key).view = sheet.view := by
  have shown (other : Text) : (sheet.erase key).valueAt other = sheet.valueAt other := by
    by_cases equal : key = other
    · subst equal
      simp [valueAt, lookup_erase, found, Entry.visibleValue_of_isErroring erroring]
    · exact valueAt_of_lookup (by simp [lookup_erase, equal])
  funext position
  simp only [view, shown]

end Sheet

end Worksheet
