import Worksheet.Builtin.Lookup
import Worksheet.Proofs.Greatest
import Worksheet.Proofs.Outcome
import Worksheet.Proofs.Value.Decidable

/-! Positions in sorted ranges. The search for the last entry on the key's side stops at the first one beyond the key;
where none follows on the key's side again, it has found the last one of all. -/

namespace Worksheet.Builtin

/-- An entry that compares with the key and is not beyond it. -/
def OnSide (key : Value) (beyond : Ordering) (value : Value) : Prop :=
  value ≠ .empty ∧ ∃ order, value.compare key = .ok order ∧ order ≠ beyond

def LiesBeyond (key : Value) (beyond : Ordering) (value : Value) : Prop :=
  value ≠ .empty ∧ value.compare key = .ok beyond

def Comparable (key : Value) (values : List Value) : Prop :=
  ∀ value ∈ values, value ≠ .empty → ∃ order, value.compare key = .ok order

/-- No entry on the key's side comes after one beyond the key. -/
def SortedAround (key : Value) (beyond : Ordering) (values : List Value) : Prop :=
  values.Pairwise fun first later => LiesBeyond key beyond first → ¬OnSide key beyond later

variable {key value : Value} {beyond : Ordering} {values : List Value}

instance : Decidable (OnSide key beyond value) :=
  match compared : value.compare key with
  | .ok order => decidable_of_iff (value ≠ .empty ∧ order ≠ beyond) (by simp [OnSide, compared])
  | .error _ => isFalse (by simp [OnSide, compared])

instance : Decidable (LiesBeyond key beyond value) :=
  inferInstanceAs (Decidable (_ ∧ _))

instance : Decidable (SortedAround key beyond values) :=
  inferInstanceAs (Decidable (List.Pairwise _ _))

theorem not_onSide_of_liesBeyond (lies : LiesBeyond key beyond value) : ¬OnSide key beyond value := by
  rintro ⟨_, order, compared, differs⟩
  exact differs (Except.ok.inj (compared.symm.trans lies.2))

theorem lastBefore_empty (found : Option Nat) (index : Nat) :
    lastBefore key beyond found index (.empty :: values) = lastBefore key beyond found (index + 1) values :=
  rfl

theorem lastBefore_onSide (side : OnSide key beyond value) (found : Option Nat) (index : Nat) :
    lastBefore key beyond found index (value :: values) = lastBefore key beyond (some index) (index + 1) values := by
  obtain ⟨some, order, compared, differs⟩ := side
  rw [lastBefore]
  · simp [compared, bind, Except.bind, differs]
  · exact some

theorem lastBefore_liesBeyond (lies : LiesBeyond key beyond value) (found : Option Nat) (index : Nat) :
    lastBefore key beyond found index (value :: values) = .ok found := by
  rw [lastBefore]
  · simp [lies.2, bind, Except.bind, pure, Except.pure]
  · exact lies.1

def SidePlace (key : Value) (beyond : Ordering) (values : List Value) (place : Nat) : Prop :=
  ∃ value, values[place]? = some value ∧ OnSide key beyond value

theorem sidePlace_cons {place : Nat} : SidePlace key beyond (value :: values) place ↔
    (place = 0 ∧ OnSide key beyond value) ∨ ∃ earlier, SidePlace key beyond values earlier ∧ place = earlier + 1 := by
  cases place with
  | zero => simp [SidePlace]
  | succ earlier => simp [SidePlace]

theorem greatest_sidePlace_skip {last : Option Nat} (skipped : ¬OnSide key beyond value)
    (greatest : Greatest (SidePlace key beyond values) last) :
    Greatest (SidePlace key beyond (value :: values)) (last.map (· + 1)) :=
  greatest.succ.congr fun _ => by simp [sidePlace_cons, skipped]

theorem greatest_sidePlace_cons {last : Option Nat} (side : OnSide key beyond value)
    (greatest : Greatest (SidePlace key beyond values) last) :
    Greatest (SidePlace key beyond (value :: values)) (some (last.elim 0 (· + 1))) := by
  have first : Greatest (· = 0) (some 0) := ⟨rfl, fun other zero => zero.le⟩
  have both := first.or greatest.succ
  cases last with
  | none => exact both.congr fun _ => by simp [sidePlace_cons, side]
  | some most =>
    simp only [Option.map_some, Text.longer, Nat.zero_max] at both
    exact both.congr fun _ => by simp [sidePlace_cons, side]

theorem greatest_sidePlace_none (absent : ∀ value ∈ values, ¬OnSide key beyond value) :
    Greatest (SidePlace key beyond values) none := by
  rintro place ⟨value, present, side⟩
  exact absent value (List.mem_of_getElem? present) side

/-- What the search has found when it ends: the last place on the key's side, or what was found before. -/
theorem lastBefore_of_sorted (comparable : Comparable key values) (sorted : SortedAround key beyond values)
    (found : Option Nat) (index : Nat) :
    ∃ last, Greatest (SidePlace key beyond values) last ∧
      lastBefore key beyond found index values = .ok ((last.map (index + ·)).or found) := by
  induction values generalizing found index with
  | nil => exact ⟨none, greatest_sidePlace_none (List.forall_mem_nil _), rfl⟩
  | cons value values ih =>
    obtain ⟨after, rest⟩ := List.pairwise_cons.mp sorted
    have later := ih (fun other member => comparable other (List.mem_cons_of_mem _ member)) rest
    by_cases missing : value = .empty
    · subst missing
      obtain ⟨last, greatest, stopped⟩ := later found (index + 1)
      refine ⟨last.map (· + 1), greatest_sidePlace_skip (fun side => side.1 rfl) greatest, ?_⟩
      rw [lastBefore_empty, stopped]
      cases last <;> simp [Nat.add_assoc, Nat.add_comm 1]
    · obtain ⟨order, compared⟩ := comparable value List.mem_cons_self missing
      by_cases lies : order = beyond
      · have stops : LiesBeyond key beyond value := ⟨missing, lies ▸ compared⟩
        refine ⟨none, greatest_sidePlace_none ?_, lastBefore_liesBeyond stops found index⟩
        intro other member
        rcases List.mem_cons.mp member with rfl | behind
        · exact not_onSide_of_liesBeyond stops
        · exact after other behind stops
      · have side : OnSide key beyond value := ⟨missing, order, compared, lies⟩
        obtain ⟨last, greatest, stopped⟩ := later (some index) (index + 1)
        refine ⟨some (last.elim 0 (· + 1)), greatest_sidePlace_cons side greatest, ?_⟩
        rw [lastBefore_onSide side, stopped]
        cases last <;> simp [Nat.add_assoc, Nat.add_comm 1]

/-- Where the entries lie that end the search: after the key, or before it if the kind is negative. -/
def farSide (kind : Int) : Ordering :=
  if kind < 0 then .lt else .gt

theorem position_of_kind {kind : Value} {number : Int} (read : kind.toInteger = .ok number) (nonzero : number ≠ 0)
    (key range : Value) : position [key, range, kind] =
      (lastBefore key (farSide number) none 0 range.entries).map positionValue := by
  have counted : require "MATCH" [key, range, kind] 2 3 = .ok () := rfl
  simp only [position, counted]
  change (kind.toInteger >>= fun number => _) = _
  rw [read]
  simp only [bind, Except.bind, if_neg nonzero]
  rfl

theorem lookup_two (key range : Value) : lookup [key, range] = lookup [key, range, range] := rfl

theorem lookup_three (key range results : Value) : lookup [key, range, results] =
    (lastBefore key .gt none 0 range.entries).map fun found =>
      found.elim (.error .notAvailable) fun place => results.entries.getD place (.error .notAvailable) := by
  have counted : require "LOOKUP" [key, range, results] 2 3 = .ok () := rfl
  simp only [lookup, counted]
  change (lastBefore key .gt none 0 range.entries >>= fun found => _) = _
  cases lastBefore key .gt none 0 range.entries with
  | error failure => rfl
  | ok found => cases found <;> rfl

theorem argument_of_lt {place : Nat} (inside : place < values.length) : argument values place = values[place] := by
  simp [argument, inside]

theorem argument_of_le {place : Nat} (outside : values.length ≤ place) : argument values place = .empty := by
  simp [argument, outside]

theorem getElem?_eq_argument {place : Nat} (inside : place < values.length) :
    values[place]? = some (argument values place) := by
  rw [argument_of_lt inside, List.getElem?_eq_getElem inside]

theorem index_two (range : Value) (place : Int) : index [range, .integer place] =
    .ok (if place < 1 ∨ place > range.entries.length then .error .reference
      else argument range.entries (place.toNat - 1)) := by
  have counted : require "INDEX" [range, .integer place] 2 3 = .ok () := rfl
  have opened : index [range, .integer place] =
      if place < 1 ∨ place > range.entries.length then .ok (.error .reference)
      else .ok (argument range.entries (place.toNat - 1)) := by
    simp only [index, counted]
    rfl
  rw [opened]
  split <;> rfl

theorem index_two_of_lt {range : Value} {place : Nat} (inside : place < range.entries.length) :
    index [range, .ofNat (place + 1)] = .ok range.entries[place] := by
  have bounded : ¬(((place + 1 : Nat) : Int) < 1 ∨ ((place + 1 : Nat) : Int) > range.entries.length) := by omega
  have same : Value.ofNat (place + 1) = .integer ((place + 1 : Nat) : Int) := rfl
  rw [same, index_two, if_neg bounded]
  exact congrArg Except.ok (argument_of_lt inside)

/-- Searching a sorted range, upwards or downwards. If every entry that is not missing compares with the key and none
on the key's side follows one beyond it, the position found is that of the last entry on the key's side, and no
position is found exactly if there is none. Whatever the range is, a lookup in it fails as this search does, and
otherwise gives the entry of the results at the position found, or that none is available if none is found or the
results have no such position; the results are the range itself where no others are given. -/
theorem approximate_positions (key range : Value) :
    (∀ (kind : Value) (number : Int), kind.toInteger = .ok number → number ≠ 0 →
      Comparable key range.entries → SortedAround key (farSide number) range.entries →
      ∃ last, Greatest (SidePlace key (farSide number) range.entries) last ∧
        position [key, range, kind] = .ok (positionValue last)) ∧
    lookup [key, range] = lookup [key, range, range] ∧
    ∀ results : Value,
      (∃ failure, position [key, range, .integer 1] = .error failure ∧
        lookup [key, range, results] = .error failure) ∨
      (position [key, range, .integer 1] = .ok (.error .notAvailable) ∧
        lookup [key, range, results] = .ok (.error .notAvailable)) ∨
      ∃ place : Nat, position [key, range, .integer 1] = .ok (.ofNat (place + 1)) ∧
        (results.entries.length < place + 1 → lookup [key, range, results] = .ok (.error .notAvailable)) ∧
        (place + 1 ≤ results.entries.length → ∃ value, results.entries[place]? = some value ∧
          index [results, .ofNat (place + 1)] = .ok value ∧ lookup [key, range, results] = .ok value) := by
  refine ⟨?_, lookup_two key range, ?_⟩
  · intro kind number read nonzero comparable sorted
    obtain ⟨last, greatest, stopped⟩ := lastBefore_of_sorted comparable sorted none 0
    refine ⟨last, greatest, ?_⟩
    rw [position_of_kind read nonzero, stopped]
    cases last <;> simp [Except.map]
  · intro results
    have one : (Value.integer 1).toInteger = .ok 1 := rfl
    have searched := position_of_kind one (by decide) key range
    have looked := lookup_three key range results
    have upwards : farSide 1 = .gt := rfl
    rw [upwards] at searched
    cases stopped : lastBefore key .gt none 0 range.entries with
    | error failure =>
      rw [stopped] at searched looked
      exact Or.inl ⟨failure, searched, looked⟩
    | ok found =>
      rw [stopped] at searched looked
      cases found with
      | none => exact Or.inr (Or.inl ⟨searched, looked⟩)
      | some place =>
        refine Or.inr (Or.inr ⟨place, searched, ?_, ?_⟩)
        · intro short
          have outside : results.entries.length ≤ place := Nat.le_of_lt_succ short
          simpa [Except.map, List.getD, outside] using looked
        · intro inside
          refine ⟨results.entries[place], List.getElem?_eq_getElem inside, index_two_of_lt inside, ?_⟩
          have bounded : place < results.entries.length := inside
          simpa [Except.map, List.getD, bounded] using looked

theorem approximate_positions_downwards :
    Comparable (.integer 4) [.empty, .integer 9, .integer 1] ∧
      SortedAround (.integer 4) (farSide (-1)) [.empty, .integer 9, .integer 1] ∧
      position [.integer 4, .list [.empty, .integer 9, .integer 1], .integer (-1)] = .ok (.ofNat 2) := by
  have comparable : Comparable (.integer 4) [.empty, .integer 9, .integer 1] := by
    have more : (Value.integer 9).compare (.integer 4) = .ok .gt := by decide +kernel
    have less : (Value.integer 1).compare (.integer 4) = .ok .lt := by decide +kernel
    simp [Comparable, more, less]
  have sorted : SortedAround (.integer 4) (farSide (-1)) [.empty, .integer 9, .integer 1] := by decide +kernel
  obtain ⟨last, greatest, found⟩ := (approximate_positions (.integer 4)
    (.list [.empty, .integer 9, .integer 1])).1 (.integer (-1)) (-1) rfl (by decide) comparable sorted
  have second : Greatest (SidePlace (.integer 4) (farSide (-1)) [.empty, .integer 9, .integer 1]) (some 1) := by
    refine ⟨⟨.integer 9, rfl, by decide +kernel⟩, ?_⟩
    rintro place ⟨value, present, side⟩
    have inside : place < 3 := (List.getElem?_eq_some_iff.mp present).1
    by_contra further
    obtain rfl : place = 2 := by omega
    obtain rfl := Option.some.inj present
    exact absurd side (by decide +kernel)
  refine ⟨comparable, sorted, ?_⟩
  rw [found, greatest.unique second]
  rfl

end Worksheet.Builtin
