import Mathlib.Data.List.Forall2
import Worksheet.Outcome

/-! One step after another: what is known of two steps from what is known of their composition. -/

namespace Worksheet

variable {α β : Type}

theorem bind_eq_ok {first : Except Failure α} {next : α → Except Failure β} {final : β} :
    (first >>= next) = .ok final ↔ ∃ value, first = .ok value ∧ next value = .ok final := by
  cases first with
  | error failure => simp [bind, Except.bind]
  | ok value => simp [bind, Except.bind]

theorem bind_eq_error {first : Except Failure α} {next : α → Except Failure β} {failure : Failure} :
    (first >>= next) = .error failure ↔
      first = .error failure ∨ ∃ value, first = .ok value ∧ next value = .error failure := by
  cases first with
  | error other => simp [bind, Except.bind]
  | ok value => simp [bind, Except.bind]

theorem mapM_eq_ok {read : α → Except Failure β} {elements : List α} {values : List β} :
    elements.mapM read = .ok values ↔ List.Forall₂ (fun element value => read element = .ok value) elements values := by
  induction elements generalizing values with
  | nil =>
    rw [List.forall₂_nil_left_iff]
    exact ⟨fun equal => (Except.ok.inj equal).symm, fun empty => congrArg Except.ok empty.symm⟩
  | cons element rest ih =>
    rw [List.mapM_cons, List.forall₂_cons_left_iff]
    constructor
    · intro mapped
      obtain ⟨value, first, onward⟩ := bind_eq_ok.mp mapped
      obtain ⟨later, others, equal⟩ := bind_eq_ok.mp onward
      exact ⟨value, later, first, ih.mp others, (Except.ok.inj equal).symm⟩
    · rintro ⟨value, later, first, others, rfl⟩
      rw [first, ih.mpr others]
      rfl

theorem mapM_eq_ok_map {read : α → Except Failure β} {elements : List α} {value : α → β}
    (each : ∀ element ∈ elements, read element = .ok (value element)) :
    elements.mapM read = .ok (elements.map value) :=
  mapM_eq_ok.mpr (List.forall₂_map_right_iff.mpr (List.forall₂_same.mpr each))

theorem exists_of_mem_mapM {read : α → Except Failure β} {elements : List α} {values : List β}
    (mapped : elements.mapM read = .ok values) {value : β} (member : value ∈ values) :
    ∃ element ∈ elements, read element = .ok value := by
  have each := mapM_eq_ok.mp mapped
  clear mapped
  induction each with
  | nil => cases member
  | cons own _ ih =>
    rcases List.mem_cons.mp member with rfl | later
    · exact ⟨_, List.mem_cons_self, own⟩
    · obtain ⟨element, held, read⟩ := ih later
      exact ⟨element, List.mem_cons_of_mem _ held, read⟩

theorem exists_of_mapM_eq_error {read : α → Except Failure β} {elements : List α} {failure : Failure}
    (failed : elements.mapM read = .error failure) : ∃ element ∈ elements, read element = .error failure := by
  induction elements with
  | nil => cases failed
  | cons element rest ih =>
    rw [List.mapM_cons] at failed
    rcases bind_eq_error.mp failed with first | ⟨_, _, failed⟩
    · exact ⟨element, List.mem_cons_self, first⟩
    rcases bind_eq_error.mp failed with later | ⟨_, _, joined⟩
    · obtain ⟨other, member, failed⟩ := ih later
      exact ⟨other, List.mem_cons_of_mem _ member, failed⟩
    cases joined

theorem map_eq_error {result : Except Failure α} {onto : α → β} {failure : Failure} :
    result.map onto = .error failure ↔ result = .error failure := by
  cases result with
  | error other => simp [Except.map]
  | ok value => simp [Except.map]

namespace Outcome

@[simp] theorem events_succeed (value : α) : (succeed value).events = [] := rfl

@[simp] theorem result_succeed (value : α) : (succeed value).result = .ok value := rfl

@[simp] theorem events_pure (value : α) : (pure value : Outcome α).events = [] := rfl

@[simp] theorem result_pure (value : α) : (pure value : Outcome α).result = .ok value := rfl

@[simp] theorem events_fail (failure : Failure) : (fail failure : Outcome α).events = [] := rfl

@[simp] theorem result_fail (failure : Failure) : (fail failure : Outcome α).result = .error failure := rfl

@[simp] theorem events_ofExcept (result : Except Failure α) : (ofExcept result).events = [] := rfl

@[simp] theorem result_ofExcept (result : Except Failure α) : (ofExcept result).result = result := rfl

@[simp] theorem events_report (event : Event) (value : α) : (report event value).events = [event.cut] := rfl

@[simp] theorem result_report (event : Event) (value : α) : (report event value).result = .ok value := rfl

theorem bind_of_ok {first : Outcome α} {next : α → Outcome β} {value : α} (ok : first.result = .ok value) :
    (first >>= next) = ⟨first.events ++ (next value).events, (next value).result⟩ := by
  change first.andThen next = _
  simp [andThen, ok]

theorem bind_of_error {first : Outcome α} {next : α → Outcome β} {failure : Failure}
    (error : first.result = .error failure) : (first >>= next) = ⟨first.events, .error failure⟩ := by
  change first.andThen next = _
  simp [andThen, error]

theorem recover_of_ok {first : Outcome α} {handle : Failure → Outcome α} {value : α}
    (ok : first.result = .ok value) : first.recover handle = first := by
  simp [recover, ok]

theorem recover_of_error {first : Outcome α} {handle : Failure → Outcome α} {failure : Failure}
    (error : first.result = .error failure) :
    first.recover handle = ⟨first.events ++ (handle failure).events, (handle failure).result⟩ := by
  simp [recover, error]

theorem result_bind (first : Outcome α) (next : α → Outcome β) :
    (first >>= next).result = first.result >>= fun value => (next value).result := by
  cases result : first.result with
  | error failure => rw [bind_of_error result]; rfl
  | ok value => rw [bind_of_ok result]; rfl

theorem result_bind_eq_ok {first : Outcome α} {next : α → Outcome β} {final : β} :
    (first >>= next).result = .ok final ↔
      ∃ value, first.result = .ok value ∧ (next value).result = .ok final := by
  cases result : first.result with
  | error failure => simp [bind_of_error result]
  | ok value => simp [bind_of_ok result]

theorem bind_congr {first : Outcome α} {next next' : α → Outcome β}
    (same : ∀ value, first.result = .ok value → next value = next' value) :
    (first >>= next) = (first >>= next') := by
  cases result : first.result with
  | error failure => rw [bind_of_error result, bind_of_error result]
  | ok value => rw [bind_of_ok result, bind_of_ok result, same value result]

end Outcome

end Worksheet
