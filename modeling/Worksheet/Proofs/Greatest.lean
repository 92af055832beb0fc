import Mathlib.Order.Lattice
import Worksheet.Text.Glob

/-! The greatest number with a property, as a search reports it that may find none. -/

namespace Worksheet

def Greatest (fits : Nat → Prop) : Option Nat → Prop
  | none => ∀ count, ¬fits count
  | some count => fits count ∧ ∀ other, fits other → other ≤ count

namespace Greatest

variable {fits others : Nat → Prop} {found other : Option Nat}

theorem unique (greatest : Greatest fits found) (same : Greatest fits other) : found = other := by
  cases found with
  | none =>
    cases other with
    | none => rfl
    | some count => exact absurd same.1 (greatest count)
  | some most =>
    cases other with
    | none => exact absurd greatest.1 (same most)
    | some count => exact congrArg some (Nat.le_antisymm (same.2 most greatest.1) (greatest.2 count same.1))

theorem congr (greatest : Greatest fits found) (same : ∀ count, others count ↔ fits count) :
    Greatest others found := by
  have equal : others = fits := funext fun count => propext (same count)
  rwa [equal]

theorem succ (greatest : Greatest fits found) :
    Greatest (fun count => ∃ less, fits less ∧ count = less + 1) (found.map (· + 1)) := by
  cases found with
  | none =>
    rintro count ⟨less, fitting, rfl⟩
    exact greatest less fitting
  | some most =>
    refine ⟨⟨most, greatest.1, rfl⟩, ?_⟩
    rintro count ⟨less, fitting, rfl⟩
    exact Nat.succ_le_succ (greatest.2 less fitting)

theorem or (greatest : Greatest fits found) (second : Greatest others other) :
    Greatest (fun count => fits count ∨ others count) (Text.longer found other) := by
  cases found with
  | none => exact second.congr fun count => or_iff_right (greatest count)
  | some most =>
    cases other with
    | none => exact greatest.congr fun count => or_iff_left (second count)
    | some last =>
      constructor
      · rcases Nat.le_total most last with less | more
        · rw [Nat.max_eq_right less]
          exact Or.inr second.1
        · rw [Nat.max_eq_left more]
          exact Or.inl greatest.1
      · rintro count (fitting | fitting)
        · exact (greatest.2 count fitting).trans (Nat.le_max_left most last)
        · exact (second.2 count fitting).trans (Nat.le_max_right most last)

end Greatest

end Worksheet
