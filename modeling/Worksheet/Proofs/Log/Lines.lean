import Mathlib.Data.List.Basic
import Worksheet.Log.Reading
import Worksheet.Proofs.Text.Utf8

/-! A log of whole lines. Each line ends with its only line feed, so that a window at the end of the log holds whole
lines: all that begin behind the place where the window begins. -/

namespace Worksheet.Log

def Unbroken (body : Text) : Prop :=
  ∀ char ∈ body, isLineBreak char = false

theorem lines_append {body : Text} (unbroken : Unbroken body) (rest : Text) :
    lines (body ++ '\n' :: rest) = body :: lines rest := by
  induction body with
  | nil => rfl
  | cons char others ih =>
    obtain ⟨own, later⟩ := List.forall_mem_cons.mp unbroken
    rw [List.cons_append, lines, own, ih later]
    rfl

theorem lines_flatMap {bodies : List Text} (unbroken : ∀ body ∈ bodies, Unbroken body) :
    lines (bodies.flatMap (· ++ ['\n'])) = bodies ++ [[]] := by
  induction bodies with
  | nil => rfl
  | cons body rest ih =>
    obtain ⟨own, later⟩ := List.forall_mem_cons.mp unbroken
    rw [List.flatMap_cons, List.append_assoc, List.singleton_append, lines_append own, ih later]
    rfl

def lineOf (body : Text) : Bytes :=
  Text.encode (body ++ ['\n'])

theorem lineOf_eq (body : Text) : lineOf body = Text.encode body ++ [10] := by
  rw [lineOf, Text.encode, List.flatMap_append]
  rfl

theorem decode_flatMap_lineOf (bodies : List Text) :
    Text.decode (bodies.flatMap lineOf) = bodies.flatMap (· ++ ['\n']) := by
  induction bodies with
  | nil => rfl
  | cons body rest ih => rw [List.flatMap_cons, lineOf, Text.decode_encode_append, ih, List.flatMap_cons]

theorem lineFeed_notMem {body : Text} (unbroken : Unbroken body) : 10 ∉ Text.encode body := by
  intro member
  have feed := unbroken _ (Text.ofNat_mem_of_mem_encode member (by decide))
  revert feed
  decide

theorem afterLineFeed_append {bytes : Bytes} (whole : 10 ∉ bytes) (rest : Bytes) :
    afterLineFeed (bytes ++ 10 :: rest) = rest := by
  have passed : ∀ byte ∈ bytes, (byte != 10) = true := by
    intro byte member
    simp only [bne_iff_ne, ne_eq]
    rintro rfl
    exact whole member
  rw [afterLineFeed, List.dropWhile_append_of_pos passed]
  rfl

theorem afterLineFeed_drop {bodies : List Text} (unbroken : ∀ body ∈ bodies, Unbroken body) (start : Nat) :
    ∃ count, afterLineFeed ((bodies.flatMap lineOf).drop start) = (bodies.drop count).flatMap lineOf ∧
      ∀ index < bodies.length, start < ((bodies.take index).flatMap lineOf).length ↔ count ≤ index := by
  induction bodies generalizing start with
  | nil => exact ⟨0, by simp [afterLineFeed], by simp⟩
  | cons body rest ih =>
    obtain ⟨own, later⟩ := List.forall_mem_cons.mp unbroken
    have length : (lineOf body).length = (Text.encode body).length + 1 := by simp [lineOf_eq]
    -- either the place falls into the first line, or the others are cut at the rest of the distance
    by_cases within : start < (lineOf body).length
    · refine ⟨1, ?_, ?_⟩
      · have whole : 10 ∉ (Text.encode body).drop start := fun member => lineFeed_notMem own (List.mem_of_mem_drop member)
        rw [List.flatMap_cons, List.drop_append_of_le_length (by omega), lineOf_eq,
          List.drop_append_of_le_length (by omega), List.append_assoc, List.singleton_append, afterLineFeed_append whole]
        rfl
      · rintro (_ | index) _
        · simp
        · simp only [List.take_succ_cons, List.flatMap_cons, List.length_append]
          omega
    · obtain ⟨count, left, places⟩ := ih later (start - (lineOf body).length)
      refine ⟨count + 1, ?_, ?_⟩
      · rw [List.flatMap_cons, List.drop_append, List.drop_eq_nil_of_le (by omega), List.nil_append, left]
        rfl
      · rintro (_ | index) bound
        · simp
        · have place := places index (by simpa using bound)
          simp only [List.take_succ_cons, List.flatMap_cons, List.length_append]
          omega

/-- A window at the end of whole lines holds those that begin behind its own begin, and all lines if it holds
the whole log. -/
theorem tail_flatMap_lineOf {bodies : List Text} (unbroken : ∀ body ∈ bodies, Unbroken body) (window : Int) :
    ∃ count, tail window (bodies.flatMap lineOf) = (bodies.drop count).flatMap lineOf ∧
      ∀ index < bodies.length,
        (((bodies.flatMap lineOf).length : Int) ≤ window ∨
          ((bodies.flatMap lineOf).length : Int) - window < ((bodies.take index).flatMap lineOf).length) ↔
        count ≤ index := by
  unfold tail
  simp only
  split
  next whole => exact ⟨0, rfl, fun index _ => by omega⟩
  next cut =>
    obtain ⟨count, left, places⟩ := afterLineFeed_drop unbroken
      (((bodies.flatMap lineOf).length : Int) - window).toNat
    refine ⟨count, left, fun index bound => ?_⟩
    have place := places index bound
    omega

end Worksheet.Log
