import Worksheet.Log.Record
import Worksheet.Proofs.Json.RoundTrip

/-! A value that JSON has a form for is logged as it is, and in the order of names it is still such a value, with the
same value under each name. -/

namespace Worksheet

namespace Field

theorem lookup_of_mem {fields : Value.Fields} (distinct : (fields.map (·.1)).Nodup) {name : String} {value : Value}
    (member : (name.toList, value) ∈ fields) : lookup? fields name = some value := by
  induction fields with
  | nil => cases member
  | cons first rest ih =>
    obtain ⟨apart, later⟩ := List.nodup_cons.mp distinct
    rcases List.mem_cons.mp member with rfl | behind
    · simp [lookup?]
    · have other : first.1 ≠ name.toList := by
        intro equal
        exact apart (List.mem_map.mpr ⟨_, behind, equal.symm⟩)
      have onward := ih later behind
      simp only [lookup?] at onward ⊢
      rw [List.find?_cons_of_neg (by simpa using other), onward]

end Field

namespace Value

variable {accepts : Int → Bool}

theorem fieldsJson_eq_all (fields : Value.Fields) :
    fieldsJson accepts fields = fields.all fun field => field.2.isJson accepts := by
  induction fields with
  | nil => rfl
  | cons first rest ih => rw [fieldsJson, ih, List.all_cons]

mutual

theorem logged_of_isJson : (value : Value) → value.isJson accepts = true → value.logged = value
  | .empty, _ => rfl
  | .bool _, _ => rfl
  | .number (.integer _), _ => rfl
  | .number (.double x), json => by
    have finite : x.isFinite = true := json
    rw [logged, if_pos finite]
    rfl
  | .text _, _ => rfl
  | .list values, json => congrArg Value.list (loggedAll_of_isJson values json)
  | .record fields, json => congrArg Value.record (loggedFields_of_isJson fields (Bool.and_eq_true_iff.mp json).2)

theorem loggedAll_of_isJson : (values : List Value) → allJson accepts values = true → loggedAll values = values
  | [], _ => rfl
  | value :: rest, json => by
    obtain ⟨own, later⟩ := Bool.and_eq_true_iff.mp json
    rw [loggedAll, logged_of_isJson value own, loggedAll_of_isJson rest later]

theorem loggedFields_of_isJson : (fields : List (Text × Value)) → fieldsJson accepts fields = true →
    loggedFields fields = fields
  | [], _ => rfl
  | (name, value) :: rest, json => by
    obtain ⟨own, later⟩ := Bool.and_eq_true_iff.mp json
    rw [loggedFields, logged_of_isJson value own, loggedFields_of_isJson rest later]

end

theorem map_fst_sortedFields (fields : Value.Fields) : (sortedFields fields).map (·.1) = fields.map (·.1) := by
  induction fields with
  | nil => rfl
  | cons first rest ih => rw [sortedFields, List.map_cons, ih, List.map_cons]

theorem mem_sortedFields {fields : Value.Fields} {name : Text} {value : Value} (member : (name, value) ∈ fields) :
    (name, value.sorted) ∈ sortedFields fields := by
  induction fields with
  | nil => cases member
  | cons first rest ih =>
    rw [sortedFields]
    rcases List.mem_cons.mp member with rfl | behind
    · exact List.mem_cons_self
    · exact List.mem_cons_of_mem _ (ih behind)

theorem nodup_mergeSort (fields : Value.Fields) :
    (((sortedFields fields).mergeSort nameBefore).map (·.1)).Nodup ↔ (fields.map (·.1)).Nodup := by
  have same := (List.mergeSort_perm (sortedFields fields) nameBefore).map (·.1)
  rw [map_fst_sortedFields] at same
  exact same.nodup_iff

mutual

theorem isJson_sorted : (value : Value) → value.sorted.isJson accepts = value.isJson accepts
  | .empty => rfl
  | .bool _ => rfl
  | .number _ => rfl
  | .text _ => rfl
  | .error _ => rfl
  | .list values => allJson_sortedAll values
  | .record fields => by
    have inside := (List.mergeSort_perm (sortedFields fields) nameBefore).all_eq (f := fun field => field.2.isJson accepts)
    rw [← fieldsJson_eq_all, ← fieldsJson_eq_all, fieldsJson_sortedFields fields] at inside
    rw [sorted, isJson, isJson, inside, decide_eq_decide.mpr (nodup_mergeSort fields)]
  | .date _ => rfl
  | .moment _ => rfl

theorem allJson_sortedAll : (values : List Value) → allJson accepts (sortedAll values) = allJson accepts values
  | [] => rfl
  | value :: rest => by rw [sortedAll, allJson, allJson, isJson_sorted value, allJson_sortedAll rest]

theorem fieldsJson_sortedFields : (fields : List (Text × Value)) →
    fieldsJson accepts (sortedFields fields) = fieldsJson accepts fields
  | [] => rfl
  | (name, value) :: rest => by
    rw [sortedFields, fieldsJson, fieldsJson, isJson_sorted value, fieldsJson_sortedFields rest]

end

theorem lookup_mergeSort {fields : Value.Fields} (distinct : (fields.map (·.1)).Nodup) {name : String} {value : Value}
    (member : (name.toList, value) ∈ fields) :
    Field.lookup? ((sortedFields fields).mergeSort nameBefore) name = some value.sorted :=
  Field.lookup_of_mem ((nodup_mergeSort fields).mpr distinct) (List.mem_mergeSort.mpr (mem_sortedFields member))

end Value

end Worksheet
