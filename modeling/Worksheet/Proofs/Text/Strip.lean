import Mathlib.Data.List.DropRight
import Worksheet.Text.Basic

/-! White space at the two ends of a text: it does not count, what is left is a piece of the text, and stripping a
second time changes nothing. -/

namespace Worksheet.Text

def Blank (text : Text) : Prop :=
  ∀ char ∈ text, isBlank char = true

instance (text : Text) : Decidable (Blank text) :=
  decidable_of_iff (text.all isBlank = true) List.all_eq_true

theorem blank_nil : Blank [] :=
  List.forall_mem_nil _

theorem stripLeft_blank_append {lead : Text} (text : Text) (blank : Blank lead) :
    stripLeft (lead ++ text) = stripLeft text :=
  List.dropWhile_append_of_pos blank

theorem stripRight_append_blank {tail : Text} (text : Text) (blank : Blank tail) :
    stripRight (text ++ tail) = stripRight text := by
  have reversed : ∀ char ∈ tail.reverse, isBlank char = true := by
    intro char member
    exact blank char (List.mem_reverse.mp member)
  simp only [stripRight, List.reverse_append]
  rw [List.dropWhile_append_of_pos reversed]

theorem stripLeft_eq_nil {text : Text} (blank : Blank text) : stripLeft text = [] :=
  List.dropWhile_eq_nil_iff.mpr blank

theorem strip_blank_append {lead : Text} (text : Text) (blank : Blank lead) :
    strip (lead ++ text) = strip text := by
  rw [strip, stripLeft_blank_append text blank, strip]

theorem strip_append_blank {tail : Text} (text : Text) (blank : Blank tail) :
    strip (text ++ tail) = strip text := by
  simp only [strip, stripLeft, List.dropWhile_append]
  split
  next empty =>
    have left : List.dropWhile isBlank text = [] := by simpa using empty
    rw [left]
    exact congrArg stripRight (stripLeft_eq_nil blank)
  next => exact stripRight_append_blank _ blank

@[simp] theorem strip_nil : strip [] = [] := rfl

theorem strip_eq_nil {text : Text} (blank : Blank text) : strip text = [] := by
  rw [strip, stripLeft_eq_nil blank]
  rfl

theorem strip_eq_self {first last : Char} {middle : Text} (begins : isBlank first = false)
    (ends : isBlank last = false) : strip (first :: middle ++ [last]) = first :: middle ++ [last] := by
  simp [strip, stripLeft, stripRight, begins, ends]

theorem stripLeft_isSuffix (text : Text) : stripLeft text <:+ text :=
  List.dropWhile_suffix isBlank

theorem stripRight_isPrefix (text : Text) : stripRight text <+: text :=
  List.rdropWhile_prefix isBlank text

theorem strip_isInfix (text : Text) : strip text <:+: text :=
  (stripRight_isPrefix _).isInfix.trans (stripLeft_isSuffix text).isInfix

theorem strip_eq_self_of_visible {text : Text} (visible : ∀ char ∈ text, isBlank char = false) :
    strip text = text := by
  have left : stripLeft text = text :=
    List.dropWhile_eq_self_iff.mpr fun nonempty => by simp [visible _ (List.getElem_mem nonempty)]
  have right : stripRight text = text :=
    List.rdropWhile_eq_self_iff.mpr fun nonempty => by simp [visible _ (List.getLast_mem nonempty)]
  rw [strip, left, right]

theorem strip_cons {first : Char} (visible : isBlank first = false) (rest : Text) :
    ∃ later, strip (first :: rest) = first :: later := by
  have left : stripLeft (first :: rest) = first :: rest := by simp [stripLeft, visible]
  obtain ⟨after, whole⟩ := stripRight_isPrefix (first :: rest)
  rw [strip, left]
  cases stripped : stripRight (first :: rest) with
  | nil =>
    have blank := List.rdropWhile_eq_nil_iff.mp stripped first (by simp)
    rw [visible] at blank
    cases blank
  | cons char later =>
    rw [stripped] at whole
    obtain ⟨rfl, _⟩ := List.cons.inj whole
    exact ⟨later, rfl⟩

theorem stripLeft_strip (text : Text) : stripLeft (strip text) = strip text := by
  cases stripped : strip text with
  | nil => rfl
  | cons first rest =>
    have begins : (stripLeft text).head? = some first := by
      obtain ⟨later, whole⟩ := stripRight_isPrefix (stripLeft text)
      change strip text ++ later = stripLeft text at whole
      rw [← whole, stripped]
      rfl
    have visible : isBlank first = false := by
      have kept := List.head?_dropWhile_not isBlank text
      rw [show List.dropWhile isBlank text = stripLeft text from rfl, begins] at kept
      simpa using kept
    simp [stripLeft, visible]

@[simp] theorem strip_strip (text : Text) : strip (strip text) = strip text := by
  have right : stripRight (strip text) = strip text := List.rdropWhile_idempotent isBlank (stripLeft text)
  calc strip (strip text) = stripRight (stripLeft (strip text)) := rfl
    _ = stripRight (strip text) := by rw [stripLeft_strip]
    _ = strip text := right

theorem strip_stripLeft (text : Text) : strip (stripLeft text) = strip text := by
  have left : stripLeft (stripLeft text) = stripLeft text := List.dropWhile_idempotent isBlank text
  rw [strip, left, strip]

theorem exists_strip (text : Text) :
    ∃ lead tail, Blank lead ∧ Blank tail ∧ text = lead ++ (strip text ++ tail) := by
  refine ⟨text.takeWhile isBlank, (stripLeft text).rtakeWhile isBlank, ?_, ?_, ?_⟩
  · intro char member
    exact List.mem_takeWhile_imp member
  · intro char member
    exact List.mem_rtakeWhile_imp member
  · have right : strip text ++ (stripLeft text).rtakeWhile isBlank = stripLeft text := by
      have whole := List.takeWhile_append_dropWhile (p := isBlank) (l := (stripLeft text).reverse)
      have back := congrArg List.reverse whole
      rwa [List.reverse_append, List.reverse_reverse] at back
    rw [right]
    exact List.takeWhile_append_dropWhile.symm

theorem blank_of_strip_eq_nil {text : Text} (empty : strip text = []) : Blank text := by
  obtain ⟨lead, tail, blankLead, blankTail, whole⟩ := exists_strip text
  rw [whole, empty]
  intro char member
  rcases List.mem_append.mp member with before | after
  · exact blankLead char before
  · exact blankTail char after

theorem dropFinalNewline_of_notMem {text : Text} (absent : '\n' ∉ text) : dropFinalNewline text = text := by
  unfold dropFinalNewline
  split
  next newline => exact absurd (List.mem_of_getLast? newline) absent
  next => rfl

theorem exists_dropFinalNewline (text : Text) :
    ∃ newline, (newline = [] ∨ newline = ['\n']) ∧ text = dropFinalNewline text ++ newline := by
  unfold dropFinalNewline
  split
  next newline => exact ⟨['\n'], Or.inr rfl, (List.dropLast_append_getLast? _ newline).symm⟩
  next => exact ⟨[], Or.inl rfl, (List.append_nil text).symm⟩

end Worksheet.Text
