import Worksheet.Builtin.Text
import Worksheet.Proofs.Outcome
import Worksheet.Proofs.Text.Occurrence

/-! Substitution. All occurrences that do not overlap are replaced at once, but the one with a given number is counted
among all occurrences: so both mean the same occurrence as long as those up to it do not overlap. -/

namespace Worksheet.Builtin

open Text

variable {old text : Text}

theorem occurrence?_eq_getElem? (nonempty : old ≠ []) (text : Text) (start count : Nat) :
    occurrence? old text start (count + 1) = (occurrencesFrom old start (text.drop start))[count]? := by
  induction count generalizing start with
  | zero => rw [occurrence?, findFrom_eq_head? nonempty, List.head?_eq_getElem?]
  | succ count ih =>
    rw [occurrence?, findFrom_eq_head? nonempty]
    cases found : occurrencesFrom old start (text.drop start) with
    | nil => rfl
    | cons place rest =>
      have least : start ≤ place := le_of_mem_occurrencesFrom (found ▸ List.mem_cons_self)
      have behind := occurrencesFrom_behind found
      rw [List.drop_drop, show start + (place + 1 - start) = place + 1 by omega] at behind
      rw [List.head?_cons, List.getElem?_cons_succ, behind]
      exact ih (place + 1)

theorem substitute_all (nonempty : old ≠ []) (text new : Text) :
    substitute [.text text, .text old, .text new] =
      .ok (.text (replaceAt old.length new text (occurrencesApart old text))) := by
  have filled : old.isEmpty = false := by simpa using nonempty
  have opened : substitute [.text text, .text old, .text new] =
      if old.isEmpty then .ok (.text text) else .ok (.text (replaceAll old new text)) := rfl
  rw [opened, filled, replaceAll_eq_replaceAt nonempty]
  rfl

theorem substitute_one (nonempty : old ≠ []) (text new : Text) (count : Nat) :
    substitute [.text text, .text old, .text new, .integer (count + 1 : Nat)] =
      .ok (.text (replaceAt old.length new text (occurrences old text)[count]?.toList)) := by
  have filled : ¬old.isEmpty = true := by simpa using nonempty
  have counted : ¬((count + 1 : Nat) : Int) < 1 := by omega
  have place : occurrence? old text 0 (count + 1) = (occurrences old text)[count]? :=
    occurrence?_eq_getElem? nonempty text 0 count
  refine bind_eq_ok.mpr ⟨(), rfl, bind_eq_ok.mpr ⟨text, rfl, bind_eq_ok.mpr ⟨old, rfl, bind_eq_ok.mpr ⟨new, rfl, ?_⟩⟩⟩⟩
  rw [if_neg filled, if_neg (by simp)]
  refine bind_eq_ok.mpr ⟨((count + 1 : Nat) : Int), rfl, ?_⟩
  rw [if_neg counted, Int.toNat_natCast, place]
  cases (occurrences old text)[count]? with
  | none => rfl
  | some place => simp [pure, Except.pure]

/-- The two forms of a substitution. Without a number, every occurrence from left to right that does not overlap the
one before gives way to the new text. With a number, it is the occurrence of that number among all of them, and the
text stays as it is if there are not so many. That is for every new text the occurrence of the same number that the
first form replaces, or none if it replaces fewer, exactly if there are fewer occurrences at all or those up to it do
not overlap. -/
theorem substitute_instance (text : Text) {old : Text} (nonempty : old ≠ []) :
    (∀ new, substitute [.text text, .text old, .text new] =
      .ok (.text (replaceAt old.length new text (occurrencesApart old text)))) ∧
    ∀ count : Nat,
      (∀ new, substitute [.text text, .text old, .text new, .integer (count + 1 : Nat)] =
        .ok (.text (replaceAt old.length new text (occurrences old text)[count]?.toList))) ∧
      ((∀ new, substitute [.text text, .text old, .text new, .integer (count + 1 : Nat)] =
          .ok (.text (replaceAt old.length new text (occurrencesApart old text)[count]?.toList))) ↔
        (occurrences old text).length ≤ count ∨
          ((occurrences old text).take (count + 1)).Pairwise fun first later => first + old.length ≤ later) := by
  refine ⟨substitute_all nonempty text, fun count => ⟨fun new => substitute_one nonempty text new count, ?_⟩⟩
  have places : (∀ new, substitute [.text text, .text old, .text new, .integer (count + 1 : Nat)] =
      .ok (.text (replaceAt old.length new text (occurrencesApart old text)[count]?.toList))) ↔
      (occurrencesApart old text)[count]? = (occurrences old text)[count]? := by
    constructor
    · intro same
      have known : ∀ place ∈ (occurrences old text)[count]?, place ∈ occurrences old text :=
        fun place found => List.mem_of_getElem? found
      have knownApart : ∀ place ∈ (occurrencesApart old text)[count]?, place ∈ occurrences old text :=
        fun place found => (apartFrom_sublist _ _ _).subset (List.mem_of_getElem? found)
      refine eq_of_replaceAt_eq nonempty knownApart known fun new => ?_
      have answers := (same new).symm.trans (substitute_one nonempty text new count)
      exact Value.text.inj (Except.ok.inj answers)
    · intro same new
      rw [same]
      exact substitute_one nonempty text new count
  rw [places, occurrencesApart, getElem?_apartFrom (pairwise_occurrences old text)]
  simp

theorem substitute_instance_before_overlap :
    "aa".toList ≠ [] ∧ substitute [.text "aa-aaa".toList, .text "aa".toList, .text "x".toList] =
        .ok (.text "x-xa".toList) ∧
      substitute [.text "aa-aaa".toList, .text "aa".toList, .text "x".toList, .integer 2] =
        .ok (.text "aa-xa".toList) := by
  have nonempty : "aa".toList ≠ [] := by decide
  obtain ⟨all, one⟩ := substitute_instance "aa-aaa".toList nonempty
  have apart : ((occurrences "aa".toList "aa-aaa".toList).take 2).Pairwise
      fun first later => first + "aa".toList.length ≤ later := by decide
  exact ⟨nonempty, all "x".toList, (one 1).2.mpr (Or.inr apart) "x".toList⟩

theorem substitute_instance_overlapping :
    ¬∀ (text old new : Text) (count : Nat), old ≠ [] →
      substitute [.text text, .text old, .text new, .integer (count + 1 : Nat)] =
        .ok (.text (replaceAt old.length new text (occurrencesApart old text)[count]?.toList)) := by
  intro agree
  have answer : substitute [.text "aaa".toList, .text "aa".toList, .text "x".toList, .integer 2] =
      .ok (.text "aaa".toList) := agree "aaa".toList "aa".toList "x".toList 1 (by decide)
  have replaced : substitute [.text "aaa".toList, .text "aa".toList, .text "x".toList, .integer 2] =
      .ok (.text "ax".toList) := rfl
  have same := Value.text.inj (Except.ok.inj (answer.symm.trans replaced))
  exact absurd same (by decide)

end Worksheet.Builtin
