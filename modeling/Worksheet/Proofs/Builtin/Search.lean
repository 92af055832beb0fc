import Mathlib.Order.Bounds.Basic
import Worksheet.Proofs.Formula.Frame
import Worksheet.Proofs.Text.Finding
import Worksheet.Proofs.Value.Decidable

/-! The two functions that look for a text inside another. One tells capitals from small letters and gives the least
position at which the text stands; the other goes by patterns, and for a text of ASCII characters without wildcards it
does what the first one does with the small letters of both texts. -/

namespace Worksheet.Builtin

variable {needle text : Text} {position : Int}

def answered (name : String) (ambient : Ambient) (values : List Value) : Answer :=
  match Builtin.find? name.toList with
  | some builtin =>
    match builtin.answer ambient values with
    | .ok answer => answer
    | .error _ => .error .failure
  | none => .error .name

def startOf : Option Value → Except Failure Int
  | none => .ok 1
  | some value => value.toInteger

/-- The needle stands in the text at the position, counted from one. -/
def StandsAt (needle text : Text) (position : Int) : Prop :=
  ∃ before after, text = before ++ (needle ++ after) ∧ position = before.length + 1

theorem standsAt_iff : StandsAt needle text position ↔
    ∃ place : Nat, position = place + 1 ∧ place ≤ text.length ∧ needle <+: text.drop place := by
  constructor
  · rintro ⟨before, after, rfl, rfl⟩
    exact ⟨before.length, rfl, by simp, by simp⟩
  · rintro ⟨place, rfl, inside, after, whole⟩
    refine ⟨text.take place, after, by rw [whole, List.take_append_drop], ?_⟩
    rw [List.length_take, Nat.min_eq_left inside]

/-! ## The calls -/

theorem searchStart_eq (needle text : Text) (start : Option Value) :
    searchStart (.text needle :: .text text :: start.toList) text = startOf start >>= fun first =>
      .ok (if first < 1 ∨ first > text.length + 1 then none else some (first.toNat - 1)) := by
  cases start with
  | none => rfl
  | some value => rfl

theorem require_search (name : String) (needle text : Text) (start : Option Value) :
    require name (.text needle :: .text text :: start.toList) 2 3 = .ok () := by
  refine require_of_within name ?_ ?_
  · simp
  · cases start with
    | none => exact Nat.le_succ 2
    | some value => exact Nat.le_refl 3

theorem searchStart_bind (needle text : Text) (start : Option Value) (locate : Nat → Option Nat) :
    (do
      match ← searchStart (.text needle :: .text text :: start.toList) text with
      | some start => return foundAt (locate start)
      | none => return .error .value : Except Failure Value) = startOf start >>= fun first =>
        .ok (if first < 1 ∨ first > text.length + 1 then .error .value else foundAt (locate (first.toNat - 1))) := by
  rw [searchStart_eq]
  cases startOf start with
  | error failure => rfl
  | ok first =>
    by_cases outside : first < 1 ∨ first > text.length + 1
    · simp only [bind, Except.bind, if_pos outside]
      rfl
    · simp only [bind, Except.bind, if_neg outside]
      rfl

theorem findText_eq (needle text : Text) (start : Option Value) :
    findText (.text needle :: .text text :: start.toList) = startOf start >>= fun first =>
      .ok (if first < 1 ∨ first > text.length + 1 then .error .value
        else foundAt (Text.findFrom needle text (first.toNat - 1))) := by
  rw [← searchStart_bind, findText, require_search]
  rfl

theorem searchText_eq (needle text : Text) (start : Option Value) :
    searchText (.text needle :: .text text :: start.toList) = startOf start >>= fun first =>
      .ok (if first < 1 ∨ first > text.length + 1 then .error .value
        else foundAt (((Text.Glob.ofText needle).search false text (first.toNat - 1)).map (·.1))) := by
  rw [← searchStart_bind needle text start fun start => ((Text.Glob.ofText needle).search false text start).map (·.1),
    searchText, require_search]
  rfl

/-! ## Small letters -/

section Ascii

variable (needleAscii : ∀ char ∈ needle, char.toNat < 128) (literal : ∀ char ∈ needle, Text.isLiteral char)
  (ascii : ∀ char ∈ text, char.toNat < 128)

include needleAscii literal ascii

theorem searchText_lower (start : Option Value) :
    searchText (.text needle :: .text text :: start.toList) =
      findText (.text (Text.lower needle) :: .text (Text.lower text) :: start.toList) := by
  have length : (Text.lower text).length = text.length := by rw [Text.lower_of_ascii ascii, List.length_map]
  rw [searchText_eq, findText_eq, length]
  congr 1
  funext first
  split
  · rfl
  · rw [Text.search_eq_findFrom_lower needleAscii literal ascii (by omega)]

theorem ofResult_searchText_lower (further : List Value) :
    Answer.ofResult (searchText (.text needle :: .text text :: further)) =
      Answer.ofResult (findText (.text (Text.lower needle) :: .text (Text.lower text) :: further)) := by
  match further with
  | [] => exact congrArg _ (searchText_lower needleAscii literal ascii none)
  | [value] => exact congrArg _ (searchText_lower needleAscii literal ascii (some value))
  | first :: second :: rest =>
    have outside {needle text : Text} : ¬(2 ≤ (Value.text needle :: .text text :: first :: second :: rest).length ∧
        (Value.text needle :: .text text :: first :: second :: rest).length ≤ 3) := by
      simp only [List.length_cons]
      omega
    obtain ⟨_, searchRefused⟩ := require_of_outside "SEARCH" (@outside needle text)
    obtain ⟨_, findRefused⟩ := require_of_outside "FIND" (@outside (Text.lower needle) (Text.lower text))
    rw [searchText, searchRefused, findText, findRefused]
    rfl

end Ascii

theorem answered_plain {name : String} {run : List Value → Except Failure Value}
    (found : Builtin.find? name.toList = some (plain name run)) (ambient : Ambient) (needle text : Text)
    (start : List Value) :
    answered name ambient (.text needle :: .text text :: start) =
      match Value.firstError (Value.flatten (Value.flatten start)) with
      | some code => .error code
      | none => Answer.ofResult (run (.text needle :: .text text :: Value.flatten start)) := by
  have opened : Value.flatten (.text needle :: .text text :: start) =
      .text needle :: .text text :: Value.flatten start := rfl
  have codes : Value.firstError (Value.flatten (.text needle :: .text text :: Value.flatten start)) =
      Value.firstError (Value.flatten (Value.flatten start)) := rfl
  simp only [answered, found, Builtin.answer, plain, opened, codes, ↓reduceIte, Bool.false_eq_true]
  cases Value.firstError (Value.flatten (Value.flatten start)) with
  | some code => rfl
  | none =>
    cases run (.text needle :: .text text :: Value.flatten start) with
    | error failure => rfl
    | ok value => rfl

theorem answered_lower (ambient : Ambient) (text : Text) :
    answered "LOWER" ambient [.text text] = .value (.text (Text.lower text)) := by
  have found : Builtin.find? "LOWER".toList =
      some (plain "LOWER" (onText "LOWER" fun text => .text (Text.lower text))) := rfl
  simp only [answered, found]
  rfl

/-! ## The least position -/

def positionsFrom (needle text : Text) (first : Int) : Set Int :=
  {position | first ≤ position ∧ StandsAt needle text position}

theorem findFrom_eq_some_iff {start place : Nat} (inside : start ≤ text.length) :
    Text.findFrom needle text start = some place ↔ IsLeast (positionsFrom needle text (start + 1)) (place + 1) := by
  rw [Text.findFrom_eq_some inside]
  constructor
  · rintro ⟨after, bound, here, before⟩
    refine ⟨⟨by omega, standsAt_iff.mpr ⟨place, rfl, bound, here⟩⟩, fun earlier ⟨behind, stands⟩ => ?_⟩
    obtain ⟨other, rfl, _, there⟩ := standsAt_iff.mp stands
    by_contra less
    exact before other (by omega) (by omega) there
  · rintro ⟨⟨after, stands⟩, least⟩
    obtain ⟨same, equal, bound, here⟩ := standsAt_iff.mp stands
    obtain rfl : place = same := by omega
    refine ⟨by omega, bound, here, fun earlier behind less there => ?_⟩
    have later := least ⟨show (start : Int) + 1 ≤ earlier + 1 by omega, standsAt_iff.mpr ⟨earlier, rfl, by omega, there⟩⟩
    omega

theorem findFrom_eq_none_iff {start : Nat} (inside : start ≤ text.length) :
    Text.findFrom needle text start = none ↔ ∀ position, (start : Int) + 1 ≤ position → ¬StandsAt needle text position := by
  rw [Text.findFrom_eq_none inside]
  constructor
  · intro nowhere position after stands
    obtain ⟨place, rfl, bound, here⟩ := standsAt_iff.mp stands
    exact nowhere place (by omega) bound here
  · intro nowhere place after bound here
    exact nowhere (place + 1) (by omega) (standsAt_iff.mpr ⟨place, rfl, bound, here⟩)

structure Finds (needle text : Text) (first : Int) (found : Except Failure Value) : Prop where
  position : ∀ position, found = .ok (.integer position) ↔ 1 ≤ first ∧ IsLeast (positionsFrom needle text first) position
  missing : found = .ok (.error .value) ↔
    first < 1 ∨ text.length + 1 < first ∨ ∀ position, first ≤ position → ¬StandsAt needle text position
  ends : (∃ position, found = .ok (.integer position)) ∨ found = .ok (.error .value)
  empty : needle = [] → 1 ≤ first → first ≤ text.length + 1 → found = .ok (.integer first)

theorem finds_of_outside {first : Int} (outside : first < 1 ∨ text.length + 1 < first) :
    Finds needle text first (.ok (.error .value)) where
  position position := by
    refine iff_of_false nofun ?_
    rintro ⟨positive, ⟨after, stands⟩, _⟩
    obtain ⟨place, rfl, bound, _⟩ := standsAt_iff.mp stands
    omega
  missing := iff_of_true rfl (outside.imp_right Or.inl)
  ends := Or.inr rfl
  empty _ positive bound := by omega

theorem finds_of_inside {start : Nat} (inside : start ≤ text.length) :
    Finds needle text (start + 1) (.ok (foundAt (Text.findFrom needle text start))) := by
  cases found : Text.findFrom needle text start with
  | none =>
    have nowhere := (findFrom_eq_none_iff inside).mp found
    refine ⟨fun position => iff_of_false nofun ?_, iff_of_true rfl (Or.inr (Or.inr nowhere)), Or.inr rfl, ?_⟩
    · rintro ⟨_, ⟨after, stands⟩, _⟩
      exact nowhere position after stands
    · rintro rfl _ _
      exact absurd (standsAt_iff.mpr ⟨start, rfl, inside, List.nil_prefix⟩) (nowhere _ le_rfl)
  | some place =>
    have least := (findFrom_eq_some_iff inside).mp found
    refine ⟨fun position => ⟨?_, ?_⟩, iff_of_false nofun ?_, Or.inl ⟨_, rfl⟩, ?_⟩
    · rintro ⟨⟩
      exact ⟨by omega, least⟩
    · rintro ⟨_, other⟩
      rw [other.unique least]
      rfl
    · rintro (before | beyond | nowhere)
      · omega
      · omega
      · exact nowhere _ least.1.1 least.1.2
    · rintro rfl _ _
      have own : IsLeast (positionsFrom [] text (start + 1)) (start + 1) :=
        ⟨⟨le_rfl, standsAt_iff.mpr ⟨start, rfl, inside, List.nil_prefix⟩⟩, fun _ behind => behind.1⟩
      rw [own.unique least]
      rfl

/-- Where a text stands in another. For ASCII texts of which the first has no wildcards, the search that goes by
patterns does with any start, or without one, what the other search does with the small letters of both, also where it
fails. The other one gives the least position from the start on at which the first text stands, and has no value
exactly if there is none or the text has no position at the start; the empty text stands at the start itself. -/
theorem search_folds_find (needle text : Text) (start : Option Value) :
    ((∀ char ∈ needle, char.toNat < 128 ∧ Text.isLiteral char) → (∀ char ∈ text, char.toNat < 128) →
      searchText (.text needle :: .text text :: start.toList) =
        findText (.text (Text.lower needle) :: .text (Text.lower text) :: start.toList) ∧
      ∀ ambient, answered "SEARCH" ambient (.text needle :: .text text :: start.toList) =
        answered "FIND" ambient ((answered "LOWER" ambient [.text needle]).valueOf ::
          (answered "LOWER" ambient [.text text]).valueOf :: start.toList)) ∧
    (∀ failure, startOf start = .error failure →
      findText (.text needle :: .text text :: start.toList) = .error failure) ∧
    ∀ first, startOf start = .ok first →
      Finds needle text first (findText (.text needle :: .text text :: start.toList)) := by
  refine ⟨?_, ?_, ?_⟩
  · intro letters ascii
    have needleAscii := fun char member => (letters char member).1
    have literal := fun char member => (letters char member).2
    refine ⟨searchText_lower needleAscii literal ascii start, fun ambient => ?_⟩
    have search : Builtin.find? "SEARCH".toList = some (plain "SEARCH" searchText) := rfl
    have find : Builtin.find? "FIND".toList = some (plain "FIND" findText) := rfl
    rw [answered_lower, answered_lower, Answer.valueOf, Answer.valueOf, answered_plain search, answered_plain find,
      ofResult_searchText_lower needleAscii literal ascii]
  · intro failure unread
    rw [findText_eq, unread]
    rfl
  · intro first asked
    rw [findText_eq, asked]
    change Finds needle text first (.ok (if first < 1 ∨ first > text.length + 1 then .error .value
      else foundAt (Text.findFrom needle text (first.toNat - 1))))
    split
    next outside => exact finds_of_outside outside
    next inside =>
      obtain ⟨place, rfl⟩ : ∃ place : Nat, first = place + 1 := ⟨first.toNat - 1, by omega⟩
      have same : (place + 1 : Int).toNat - 1 = place := by omega
      rw [same]
      exact finds_of_inside (by omega)

theorem search_folds_find_samples :
    (∀ char ∈ "A.(".toList, char.toNat < 128 ∧ Text.isLiteral char) ∧
      (∀ char ∈ "xa.(Ya.(".toList, char.toNat < 128) ∧
      searchText [.text "A.(".toList, .text "xa.(Ya.(".toList, .integer 3] = .ok (.integer 6) ∧
      IsLeast (positionsFrom "a.(".toList "xa.(ya.(".toList 3) 6 ∧
      findText [.text [], .text "ab".toList, .integer 3] = .ok (.integer 3) ∧
      findText [.text [], .text "ab".toList, .integer 4] = .ok (.error .value) := by
  have letters : ∀ char ∈ "A.(".toList, char.toNat < 128 ∧ Text.isLiteral char := by
    intro char member
    rcases List.mem_cons.mp member with rfl | member
    · exact ⟨by decide, by decide, by decide⟩
    rcases List.mem_cons.mp member with rfl | member
    · exact ⟨by decide, by decide, by decide⟩
    rcases List.mem_cons.mp member with rfl | member
    · exact ⟨by decide, by decide, by decide⟩
    cases member
  have ascii : ∀ char ∈ "xa.(Ya.(".toList, char.toNat < 128 := by
    have all : ("xa.(Ya.(".toList.all fun char => decide (char.toNat < 128)) = true := by decide
    exact fun char member => of_decide_eq_true (List.all_eq_true.mp all char member)
  have folded := ((search_folds_find _ _ (some (.integer 3))).1 letters ascii).1
  have found : findText [.text (Text.lower "A.(".toList), .text (Text.lower "xa.(Ya.(".toList), .integer 3] =
      .ok (.integer 6) := by decide +kernel
  have least := ((search_folds_find _ _ (some (.integer 3))).2.2 3 rfl).position 6 |>.mp found
  refine ⟨letters, ascii, folded.trans found, least.2, ?_, ?_⟩
  · exact ((search_folds_find [] "ab".toList (some (.integer 3))).2.2 3 rfl).empty rfl (by decide) (by decide)
  · exact ((search_folds_find [] "ab".toList (some (.integer 4))).2.2 4 rfl).missing.mpr (Or.inr (Or.inl (by decide)))

end Worksheet.Builtin
