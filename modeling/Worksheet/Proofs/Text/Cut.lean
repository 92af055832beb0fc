import Worksheet.Text.Basic

/-! Cutting at a single character: what stands before it is a piece of its own, and to put another text in its place
is to do so character by character. -/

namespace Worksheet.Text

theorem exists_cut (separator : Text) (skip : Nat) (piece text : Text) :
    ∃ later rest, cut separator skip piece text = (piece.reverse ++ later) :: rest := by
  induction text generalizing skip piece with
  | nil =>
    cases skip with
    | zero => exact ⟨[], [], by simp [cut]⟩
    | succ skip => exact ⟨[], [], by simp [cut]⟩
  | cons char text ih =>
    cases skip with
    | succ skip => exact ih skip piece
    | zero =>
      rw [cut]
      split
      · exact ⟨[], _, by rw [List.append_nil]⟩
      · obtain ⟨later, rest, equal⟩ := ih 0 (char :: piece)
        exact ⟨char :: later, rest, by simpa using equal⟩

theorem cut_single_cons (mark : Char) (piece : Text) (char : Char) (rest : Text) :
    cut [mark] 0 piece (char :: rest) =
      if char = mark then piece.reverse :: cut [mark] 0 [] rest else cut [mark] 0 (char :: piece) rest := by
  by_cases here : char = mark
  · simp [cut, here]
  · simp [cut, here, Ne.symm here]

theorem cut_single_of_notMem {mark : Char} (piece : Text) {text : Text} (absent : mark ∉ text) :
    cut [mark] 0 piece text = [piece.reverse ++ text] := by
  induction text generalizing piece with
  | nil => simp [cut]
  | cons char rest ih =>
    obtain ⟨apart, later⟩ := not_or.mp (mt List.mem_cons.mpr absent)
    rw [cut_single_cons, if_neg (Ne.symm apart), ih _ later]
    simp

theorem cut_single_append {mark : Char} (piece : Text) {text : Text} (absent : mark ∉ text) (rest : Text) :
    cut [mark] 0 piece (text ++ mark :: rest) = (piece.reverse ++ text) :: cut [mark] 0 [] rest := by
  induction text generalizing piece with
  | nil => rw [List.nil_append, cut_single_cons, if_pos rfl, List.append_nil]
  | cons char others ih =>
    obtain ⟨apart, later⟩ := not_or.mp (mt List.mem_cons.mpr absent)
    rw [List.cons_append, cut_single_cons, if_neg (Ne.symm apart), ih _ later]
    simp

theorem splitOn_of_notMem {mark : Char} {text : Text} (absent : mark ∉ text) : splitOn [mark] text = [text] :=
  cut_single_of_notMem [] absent

theorem splitOn_pair {mark : Char} {first second : Text} (absent : mark ∉ first) (after : mark ∉ second) :
    splitOn [mark] (first ++ mark :: second) = [first, second] := by
  change cut [mark] 0 [] (first ++ mark :: second) = _
  rw [cut_single_append [] absent, cut_single_of_notMem [] after]
  rfl

theorem join_cons {rest : List Text} (more : rest ≠ []) (separator piece : Text) :
    join separator (piece :: rest) = piece ++ separator ++ join separator rest := by
  cases rest with
  | nil => exact absurd rfl more
  | cons next others => rfl

theorem cut_ne_nil (separator : Text) (skip : Nat) (piece text : Text) : cut separator skip piece text ≠ [] := by
  obtain ⟨later, rest, equal⟩ := exists_cut separator skip piece text
  rw [equal]
  exact List.cons_ne_nil _ _

theorem join_cut_single (mark : Char) (new piece text : Text) :
    join new (cut [mark] 0 piece text) =
      piece.reverse ++ text.flatMap fun char => if char = mark then new else [char] := by
  induction text generalizing piece with
  | nil => simp [cut, join]
  | cons char rest ih =>
    rw [cut_single_cons, List.flatMap_cons]
    split
    · rw [join_cons (cut_ne_nil _ _ _ _), ih, List.reverse_nil, List.nil_append, List.append_assoc]
    · rw [ih]
      simp

theorem replaceAll_single (mark : Char) (new text : Text) :
    replaceAll [mark] new text = text.flatMap fun char => if char = mark then new else [char] :=
  join_cut_single mark new [] text

end Worksheet.Text
