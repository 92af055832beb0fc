import Worksheet.Builtin.Text
import Worksheet.Proofs.Builtin.Grid
import Worksheet.Proofs.Number.Numeral
import Worksheet.Proofs.Text.Piece

/-! Cutting a text at a delimiter and joining the parts by it. Only a part that is a number does not come back as the
text that it was; otherwise the one undoes the other, as long as no text to be joined contains the delimiter. -/

namespace Worksheet

theorem Value.toTexts_texts (texts : List Text) : toTexts (texts.map .text) = .ok texts := by
  induction texts with
  | nil => rfl
  | cons text rest ih =>
    rw [List.map_cons, toTexts, ih]
    rfl

namespace Builtin

open Text (IsNumeral Pieces)

theorem partValue_eq_text {part : Text} : partValue part = .ok (.text part) ↔ ¬IsNumeral part := by
  rw [← Number.readWhole_eq_none_iff, partValue]
  cases Number.readWhole part with
  | error failure => exact iff_of_false nofun nofun
  | ok found =>
    cases found with
    | none => exact iff_of_true rfl rfl
    | some number => exact iff_of_false nofun nofun

theorem mapM_partValue {parts : List Text} (noNumeral : ∀ part ∈ parts, ¬IsNumeral part) :
    parts.mapM partValue = .ok (parts.map .text) :=
  mapM_eq_ok_map fun part member => partValue_eq_text.mpr (noNumeral part member)

theorem split_of_pieces {text delimiter : Text} {pieces : List Text} (nonempty : delimiter ≠ [])
    (cutUp : Pieces delimiter text pieces) (noNumeral : ∀ piece ∈ pieces, ¬IsNumeral piece) :
    split [.text text, .text delimiter] = .ok (.list (pieces.map .text)) := by
  change (do return Value.list (← (Text.splitOn delimiter text).mapM partValue)) = _
  rw [cutUp.splitOn_eq nonempty, mapM_partValue noNumeral]
  rfl

theorem textJoin_texts {texts : List Text} {arguments : List Value} (some : texts ≠ [])
    (opened : Value.flatten arguments = texts.map .text) (delimiter : Text) :
    textJoin (.text delimiter :: .bool false :: arguments) = .ok (.text (Text.join delimiter texts)) := by
  have given : arguments ≠ [] := by
    rintro rfl
    exact some (List.map_eq_nil_iff.mp opened.symm)
  have enough : requireAtLeast "TEXTJOIN" (.text delimiter :: .bool false :: arguments) 3 = .ok () := by
    have positive := List.length_pos_iff.mpr given
    apply requireAtLeast_of_le
    simp only [List.length_cons]
    omega
  rw [textJoin, enough]
  change (do return Value.text (Text.join delimiter (← Value.toTexts (Value.flatten arguments)))) = _
  rw [opened, Value.toTexts_texts]
  rfl

/-- There is one way to cut a text at a delimiter, and to join its parts again gives the text back unless one of them
is a number. Texts joined by a character that none of them contains are cut apart again as they were, unless one of
them is a number; they may stand in ranges. -/
theorem split_and_textJoin_inverse :
    (∀ text delimiter : Text, delimiter ≠ [] →
      ∃ pieces, Pieces delimiter text pieces ∧ (∀ others, Pieces delimiter text others → others = pieces) ∧
        ((∀ piece ∈ pieces, ¬IsNumeral piece) →
          split [.text text, .text delimiter] = .ok (.list (pieces.map .text)) ∧
          (split [.text text, .text delimiter] >>= fun parts => textJoin [.text delimiter, .bool false, parts]) =
            .ok (.text text))) ∧
    ∀ (mark : Char) (texts : List Text) (arguments : List Value), texts ≠ [] →
      (∀ text ∈ texts, mark ∉ text ∧ ¬IsNumeral text) → Value.flatten arguments = texts.map .text →
      (textJoin (.text [mark] :: .bool false :: arguments) >>= fun joined => split [joined, .text [mark]]) =
        .ok (.list (texts.map .text)) := by
  constructor
  · intro text delimiter nonempty
    obtain ⟨pieces, cutUp⟩ := Text.exists_pieces nonempty text
    refine ⟨pieces, cutUp, fun others other => ?_, fun noNumeral => ?_⟩
    · rw [← other.splitOn_eq nonempty, cutUp.splitOn_eq nonempty]
    · have parts := split_of_pieces nonempty cutUp noNumeral
      have opened : Value.flatten [.list (pieces.map .text)] = pieces.map .text := by
        rw [Value.flatten, Value.leaves, Value.flatten, List.append_nil]
        exact flatten_of_flat (by simp)
      refine ⟨parts, ?_⟩
      rw [parts]
      change textJoin [.text delimiter, .bool false, .list (pieces.map .text)] = _
      rw [textJoin_texts cutUp.ne_nil opened, cutUp.join_eq]
  · intro mark texts arguments some suitable opened
    rw [textJoin_texts some opened]
    exact split_of_pieces (List.cons_ne_nil _ _) (Text.pieces_join some fun text member => (suitable text member).1)
      fun text member => (suitable text member).2

theorem split_and_textJoin_inverse_overlapping :
    "aba".toList ≠ [] ∧
      (split [.text "abababa-aba".toList, .text "aba".toList] >>= fun parts =>
        textJoin [.text "aba".toList, .bool false, parts]) = .ok (.text "abababa-aba".toList) ∧
      (∀ text ∈ [[], "1 2".toList], ',' ∉ text ∧ ¬IsNumeral text) ∧
      (textJoin [.text ",".toList, .bool false, .text [], .list [.text "1 2".toList]] >>= fun joined =>
        split [joined, .text ",".toList]) = .ok (.list [.text [], .text "1 2".toList]) := by
  have nonempty : "aba".toList ≠ [] := by decide
  obtain ⟨pieces, cutUp, _, back⟩ := split_and_textJoin_inverse.1 "abababa-aba".toList "aba".toList nonempty
  have known : pieces = [[], "b".toList, "-".toList, []] := (cutUp.splitOn_eq nonempty).symm.trans (by decide)
  have noNumeral : ∀ piece ∈ pieces, ¬IsNumeral piece := by
    rw [known]
    decide
  have suitable : ∀ text ∈ [[], "1 2".toList], ',' ∉ text ∧ ¬IsNumeral text := by decide
  exact ⟨nonempty, (back noNumeral).2, suitable,
    split_and_textJoin_inverse.2 ',' [[], "1 2".toList] [.text [], .list [.text "1 2".toList]] (by decide) suitable rfl⟩

end Builtin

end Worksheet
