import Mathlib.Data.Nat.Find
import Worksheet.Proofs.Text.Cut

/-! The pieces of a text between the occurrences of a delimiter. The occurrences are those that are met from left to
right, each of them behind the one before, so that there is only one way to cut a text; to put the delimiter between
the pieces again undoes it. A delimiter of a single character is met wherever it stands. -/

namespace Worksheet.Text

/-- The delimiter is met first behind `piece`, and again in what follows it. -/
inductive Pieces (delimiter : Text) : Text → List Text → Prop
  | last {text : Text} (absent : ∀ place, ¬delimiter <+: text.drop place) : Pieces delimiter text [text]
  | next {piece rest : Text} {pieces : List Text}
    (first : ∀ place < piece.length, ¬delimiter <+: (piece ++ (delimiter ++ rest)).drop place)
    (later : Pieces delimiter rest pieces) : Pieces delimiter (piece ++ (delimiter ++ rest)) (piece :: pieces)

variable {delimiter piece rest text : Text} {pieces : List Text}

theorem cut_passed (delimiter piece skipped rest : Text) :
    cut delimiter skipped.length piece (skipped ++ rest) = cut delimiter 0 piece rest := by
  induction skipped with
  | nil => rfl
  | cons char skipped ih => exact ih

theorem cut_of_absent (absent : ∀ place, ¬delimiter <+: text.drop place) (before : Text) :
    cut delimiter 0 before text = [before.reverse ++ text] := by
  induction text generalizing before with
  | nil => rw [cut, List.append_nil]
  | cons char rest ih =>
    have here : ¬delimiter.isPrefixOf (char :: rest) = true := fun found =>
      absent 0 (List.isPrefixOf_iff_prefix.mp found)
    have later : ∀ place, ¬delimiter <+: rest.drop place := fun place => absent (place + 1)
    rw [cut, if_neg here, ih later]
    simp

theorem cut_of_first (nonempty : delimiter ≠ [])
    (first : ∀ place < piece.length, ¬delimiter <+: (piece ++ (delimiter ++ rest)).drop place) (before : Text) :
    cut delimiter 0 before (piece ++ (delimiter ++ rest)) = (before.reverse ++ piece) :: cut delimiter 0 [] rest := by
  induction piece generalizing before with
  | nil =>
    obtain ⟨char, others, rfl⟩ := List.exists_cons_of_ne_nil nonempty
    have here : (char :: others).isPrefixOf (char :: (others ++ rest)) = true :=
      List.isPrefixOf_iff_prefix.mpr (List.prefix_append _ _)
    have passed : cut (char :: others) others.length [] (others ++ rest) = cut (char :: others) 0 [] rest :=
      cut_passed _ _ _ _
    rw [List.nil_append, List.cons_append, cut, if_pos here, List.append_nil]
    exact congrArg _ passed
  | cons char piece ih =>
    have here : ¬delimiter.isPrefixOf (char :: (piece ++ (delimiter ++ rest))) = true := fun found =>
      first 0 (Nat.succ_pos _) (List.isPrefixOf_iff_prefix.mp found)
    have later : ∀ place < piece.length, ¬delimiter <+: (piece ++ (delimiter ++ rest)).drop place :=
      fun place inside => first (place + 1) (Nat.succ_lt_succ inside)
    rw [List.cons_append, cut, if_neg here, ih later]
    simp

theorem Pieces.splitOn_eq (nonempty : delimiter ≠ []) (cutUp : Pieces delimiter text pieces) :
    splitOn delimiter text = pieces := by
  have filled : ¬delimiter.isEmpty = true := by simpa using nonempty
  rw [splitOn, if_neg filled]
  induction cutUp with
  | last absent => exact cut_of_absent absent []
  | next first _ ih =>
    rw [cut_of_first nonempty first, ih]
    rfl

theorem exists_pieces (nonempty : delimiter ≠ []) (text : Text) : ∃ pieces, Pieces delimiter text pieces := by
  induction length : text.length using Nat.strongRecOn generalizing text with
  | ind _ ih =>
    by_cases present : ∃ place, delimiter <+: text.drop place
    · obtain ⟨rest, found⟩ := Nat.find_spec present
      have inside : Nat.find present ≤ text.length := by
        by_contra beyond
        rw [List.drop_eq_nil_of_le (Nat.le_of_not_le beyond)] at found
        exact nonempty (List.append_eq_nil_iff.mp found).1
      have whole : text.take (Nat.find present) ++ (delimiter ++ rest) = text := by
        rw [found, List.take_append_drop]
      have shorter : rest.length < text.length := by
        have some := List.length_pos_iff.mpr nonempty
        have lengths := congrArg List.length whole
        simp only [List.length_append] at lengths
        omega
      obtain ⟨pieces, later⟩ := ih rest.length (length ▸ shorter) rest rfl
      rw [← whole]
      refine ⟨_, .next (fun place before => ?_) later⟩
      rw [whole]
      exact Nat.find_min present (Nat.lt_of_lt_of_le before (List.length_take_le _ _))
    · exact ⟨[text], .last (not_exists.mp present)⟩

theorem Pieces.ne_nil (cutUp : Pieces delimiter text pieces) : pieces ≠ [] := by
  cases cutUp with
  | last _ => exact List.cons_ne_nil _ _
  | next _ _ => exact List.cons_ne_nil _ _

theorem Pieces.join_eq (cutUp : Pieces delimiter text pieces) : join delimiter pieces = text := by
  induction cutUp with
  | last _ => rfl
  | next _ later ih => rw [join_cons later.ne_nil, ih, List.append_assoc]

theorem single_prefix_drop_iff {mark : Char} {place : Nat} : [mark] <+: text.drop place ↔ text[place]? = some mark := by
  rw [← List.head?_drop]
  cases text.drop place with
  | nil => simp
  | cons char rest => simp [List.cons_prefix_cons, eq_comm]

theorem pieces_join {mark : Char} {texts : List Text} (some : texts ≠ []) (absent : ∀ text ∈ texts, mark ∉ text) :
    Pieces [mark] (join [mark] texts) texts := by
  induction texts with
  | nil => exact absurd rfl some
  | cons text others ih =>
    have without := absent text List.mem_cons_self
    cases others with
    | nil => exact .last fun place found => without (List.mem_of_getElem? (single_prefix_drop_iff.mp found))
    | cons next others =>
      have later := ih (List.cons_ne_nil _ _) fun other member => absent other (List.mem_cons_of_mem text member)
      rw [join_cons (List.cons_ne_nil _ _), List.append_assoc]
      refine .next (fun place inside found => ?_) later
      rw [single_prefix_drop_iff, List.getElem?_append_left inside] at found
      exact without (List.mem_of_getElem? found)

end Worksheet.Text
