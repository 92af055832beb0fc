import Worksheet.Formula.Argument
import Worksheet.Proofs.Text.Strip

/-! The texts that the reading of an argument goes on to: the pieces of a call, the sides of a comparison. All of them
are pieces of the argument's own text, and `Argument.ofTrimmed_induction` follows them. -/

namespace Worksheet

namespace Scan

theorem isInfix_of_mem_splitFrom {scan : Scan} {piece text found : Text}
    (member : found ∈ splitFrom scan piece text) : found <:+: piece.reverse ++ text := by
  induction text generalizing scan piece with
  | nil =>
    simp only [splitFrom] at member
    split at member
    · simp at member
    · rw [List.mem_singleton.mp member, List.append_nil]
      exact Text.strip_isInfix _
  | cons char rest ih =>
    simp only [splitFrom] at member
    split at member
    · rcases List.mem_cons.mp member with rfl | member
      · exact (Text.strip_isInfix _).trans (List.prefix_append _ _).isInfix
      · have later : found <:+: rest := by simpa using ih member
        exact List.infix_append_of_infix_right (List.infix_cons later)
    · simpa using ih member

theorem isInfix_of_mem_splitArguments {text found : Text} (member : found ∈ splitArguments text) :
    found <:+: text := by
  simpa using isInfix_of_mem_splitFrom member

end Scan

namespace Comparison

theorem read_isSuffix (char : Char) (rest : Text) : (Relation.read char rest).2 <:+ rest := by
  unfold Relation.read
  split
  · exact List.suffix_cons _ _
  · exact List.suffix_cons _ _
  · exact List.suffix_cons _ _
  · exact List.suffix_refl _
  · exact List.suffix_refl _
  · exact List.suffix_refl _

theorem isInfix_of_findFrom {scan : Scan} {before text : Text} {found : Comparison}
    (equal : findFrom scan before text = some found) :
    found.left <:+: before.reverse ++ text ∧ found.right <:+: before.reverse ++ text := by
  induction text generalizing scan before with
  | nil => simp [findFrom] at equal
  | cons char rest ih =>
    simp only [findFrom] at equal
    split at equal
    · split at equal
      · cases equal
      · simp only [Option.some.injEq] at equal
        subst equal
        have right : (Relation.read char rest).2 <:+: char :: rest :=
          (read_isSuffix char rest).isInfix.trans (List.suffix_cons _ _).isInfix
        exact ⟨(Text.strip_isInfix _).trans (List.prefix_append _ _).isInfix,
          (Text.strip_isInfix _).trans (List.infix_append_of_infix_right right)⟩
    · simpa using ih equal

theorem isInfix_of_find {text : Text} {found : Comparison} (equal : find? text = some found) :
    found.left <:+: text ∧ found.right <:+: text := by
  simpa using isInfix_of_findFrom equal

end Comparison

theorem isSuffix_of_callStart {text letters rest : Text} (found : callStart? text = some (letters, rest)) :
    '(' :: rest <:+ text := by
  unfold callStart? at found
  split at found
  · rename_i after opens
    split at found
    · cases found
    · cases found
      rw [← opens]
      exact List.dropWhile_suffix _
  · cases found

theorem inside_of_callParts {text name inner : Text} (found : callParts? text = some (name, inner)) :
    ∃ rest, '(' :: rest <:+ text ∧ inner <+: rest := by
  unfold callParts? at found
  split at found
  · rename_i letters rest start
    split at found
    · cases found
      exact ⟨rest, isSuffix_of_callStart start, List.dropLast_prefix rest⟩
    · cases found
  · cases found

theorem isInfix_of_callParts {text name inner : Text} (found : callParts? text = some (name, inner)) :
    inner <:+: text := by
  obtain ⟨rest, after, start⟩ := inside_of_callParts found
  exact start.isInfix.trans ((List.suffix_cons _ _).trans after).isInfix

namespace Argument

/-- Induction along the reading of an argument, one case for each way to read it. -/
@[elab_as_elim] theorem ofTrimmed_induction {motive : Text → Argument → Prop}
    (range : ∀ text parts, Address.spanParts? text = some parts → motive text (ofSpanParts parts))
    (cell : ∀ text letters digits, Address.cellParts? text = some (letters, digits) →
      motive text (ofResult cell (Address.ofParts letters digits)))
    (comparison : ∀ text found, Comparison.find? text = some found →
      motive (Text.strip found.left) (ofText found.left) →
      motive (Text.strip found.right) (ofText found.right) →
      motive text (.comparison (ofText found.left) found.relation (ofText found.right)))
    (call : ∀ text name inner, callParts? text = some (name, inner) →
      (∀ piece ∈ Scan.splitArguments inner, motive (Text.strip piece) (ofText piece)) →
      motive text (.call ('=' :: text) name ((Scan.splitArguments inner).map ofText)))
    (formula : ∀ text, (callStart? text).isSome = true → callParts? text = none →
      motive text (.formula ('=' :: text) (Expression.ofText text)))
    (plain : ∀ text, motive text (ofResult id (ofPlain text)))
    (text : Text) : motive text (ofTrimmed text) := by
  induction size : text.length using Nat.strongRecOn generalizing text with
  | ind length ih =>
    have onward (piece : Text) (shorter : piece.length < text.length) :
        motive (Text.strip piece) (ofText piece) := by
      have stripped := Text.length_strip_le piece
      exact ih (Text.strip piece).length (by omega) (Text.strip piece) rfl
    rw [ofTrimmed]
    split
    next parts found => exact range text parts found
    next =>
      split
      next letters digits found => exact cell text letters digits found
      next =>
        split
        next found equal =>
          exact comparison text found equal (onward _ (Comparison.length_left_lt equal))
            (onward _ (Comparison.length_right_lt equal))
        next =>
          split
          next starts =>
            split
            next name inner found =>
              have read := call text name inner found fun piece member => onward piece (by
                have bound := Scan.length_le_of_mem_splitArguments member
                have shorter := length_callParts_lt found
                omega)
              change motive text (.call _ name ((Scan.splitArguments inner).map fun piece =>
                ofTrimmed (Text.strip piece))) at read
              simpa using read
            next none => exact formula text starts none
          next => exact plain text

end Argument

end Worksheet
