import Worksheet.Proofs.Formula.Reads
import Worksheet.Proofs.Formula.Volatile
import Worksheet.Proofs.Sheet.Basic

/-! What the answer of a formula may depend on: of the sheet, the cells that its text names, and of these only what
they show. -/

namespace Worksheet

/-- Two sheets that show the same wherever a formula names a cell or a range give it the same answer, with
the same events, at any time and with any numbers drawn. To take out an entry with an error changes no answer at
all. -/
theorem evaluate_eq_of_names_agree (limit : Int) (zone : Zone) (time later : Int) (seed drawn : Nat) (source : Text)
    (sheet : Sheet) (steady : (Formula.ofText source).isVolatile = false) :
    let setting : Setting := ⟨limit, ⟨time, seed, zone⟩⟩
    let next : Setting := ⟨limit, ⟨later, drawn, zone⟩⟩
    (∀ other : Sheet, (∀ position, Names source position → sheet.view position = other.view position) →
      evaluate setting sheet.view source = evaluate next other.view source) ∧
    ∀ key entry, sheet.lookup? key = some entry → entry.isErroring = true →
      evaluate next (sheet.erase key).view source = evaluate setting sheet.view source := by
  intro setting next
  have timeless (view : View) : evaluate setting view source = evaluate next view source :=
    @evaluateAt_steady setting next ⟨rfl, rfl⟩ view 0 source steady
  refine ⟨fun other agree => ?_, fun key entry found erroring => ?_⟩
  · rw [timeless]
    apply evaluateAt_congr
    intro position member
    exact agree position (Formula.names_of_mem_reads member)
  · rw [timeless, Sheet.view_erase found erroring]

def Sheet.sample : Sheet :=
  [("0,0".toList, .cell { value := .integer 7 }),
   ("1,1".toList, .cell { value := .integer 8, error := some "#N/A".toList }),
   ("2,2".toList, .cell { value := .text "x".toList })]

theorem evaluate_eq_of_names_agree_sample :
    evaluate ⟨4, ⟨0, 0, .utc⟩⟩ Sheet.sample.view "=A1+B2".toList
        = evaluate ⟨4, ⟨1, 1, .utc⟩⟩
            (Sheet.view [("0,0".toList, .record [("value".toList, .integer 7)])])
            "=A1+B2".toList ∧
      evaluate ⟨4, ⟨1, 1, .utc⟩⟩ (Sheet.sample.erase "1,1".toList).view "=A1+B2".toList
        = evaluate ⟨4, ⟨0, 0, .utc⟩⟩ Sheet.sample.view "=A1+B2".toList := by
  have facts := evaluate_eq_of_names_agree 4 .utc 0 1 0 1 "=A1+B2".toList Sheet.sample (by decide +kernel)
  refine ⟨facts.1 _ ?_, facts.2 "1,1".toList _ rfl rfl⟩
  intro position names
  have named : namedPositions "=A1+B2".toList = [⟨0, 0⟩, ⟨1, 1⟩] := by decide +kernel
  have member := names.mem_namedPositions
  rw [named] at member
  simp only [List.mem_cons, List.not_mem_nil, or_false] at member
  rcases member with rfl | rfl
  · rfl
  · rfl

end Worksheet
