import Worksheet.Proofs.Text.Glob
import Worksheet.Proofs.Text.Letter
import Worksheet.Text.Basic

/-! The first place at which one text stands in another. A pattern without wildcards fits where its letters stand up
to case, so that among ASCII characters it is found where its small letters stand in the small letters of the text. -/

namespace Worksheet.Text

variable {needle text : Text} {start place : Nat}

theorem lower_of_ascii (ascii : ∀ char ∈ text, char.toNat < 128) : lower text = text.map Char.toLower := by
  have passed (before : Text) : lowerFrom before text = text.map Char.toLower := by
    induction text generalizing before with
    | nil => rfl
    | cons char rest ih =>
      have own : lowerChar before char rest = [char.toLower] := if_pos (ascii char List.mem_cons_self)
      have later := ih (fun other member => ascii other (List.mem_cons_of_mem _ member)) (char :: before)
      rw [lowerFrom, own, later]
      rfl
  exact passed []

theorem caseless_of_ascii {char : Char} (ascii : char.toNat < 128) : caseless char = char.toLower :=
  ascii_induction (by decide +kernel) char ascii

theorem sameUpToCase_of_ascii {left right : Char} (leftAscii : left.toNat < 128) (rightAscii : right.toNat < 128) :
    sameUpToCase left right = (left.toLower == right.toLower) := by
  rw [sameUpToCase, caseless_of_ascii leftAscii, caseless_of_ascii rightAscii]

def lengthAtStart (needle text : Text) : Option Nat :=
  if needle.isPrefixOf text then some needle.length else none

theorem lengthAtStart_cons (first char : Char) (rest later : Text) :
    lengthAtStart (first :: rest) (char :: later) =
      if first == char then (lengthAtStart rest later).map (· + 1) else none := by
  unfold lengthAtStart
  rw [List.isPrefixOf]
  cases first == char with
  | false => rfl
  | true =>
    cases rest.isPrefixOf later with
    | false => rfl
    | true => rfl

theorem lengthAtStart_eq_none : lengthAtStart needle text = none ↔ ¬needle <+: text := by
  rw [lengthAtStart, ← List.isPrefixOf_iff_prefix]
  cases needle.isPrefixOf text with
  | false => simp
  | true => simp

theorem exists_lengthAtStart : (∃ length, lengthAtStart needle text = some length) ↔ needle <+: text := by
  rw [← Option.isSome_iff_exists, ← not_iff_not, ← lengthAtStart_eq_none, Bool.not_eq_true, Option.isSome_eq_false_iff,
    Option.isNone_iff_eq_none]

def isLiteral (char : Char) : Prop :=
  char ≠ '*' ∧ char ≠ '?'

theorem ofChar_of_isLiteral {char : Char} (literal : isLiteral char) : GlobItem.ofChar char = .letter char := by
  unfold GlobItem.ofChar
  split
  · exact absurd rfl literal.1
  · exact absurd rfl literal.2
  · rfl

theorem backtrack_ofText (needleAscii : ∀ char ∈ needle, char.toNat < 128)
    (literal : ∀ char ∈ needle, isLiteral char) (ascii : ∀ char ∈ text, char.toNat < 128) :
    Glob.backtrack false (Glob.ofText needle) text =
      lengthAtStart (needle.map Char.toLower) (text.map Char.toLower) := by
  induction needle generalizing text with
  | nil =>
    cases text with
    | nil => rfl
    | cons char later => rfl
  | cons first rest ih =>
    have item := ofChar_of_isLiteral (literal first List.mem_cons_self)
    rw [Glob.ofText, List.map_cons, item]
    cases text with
    | nil => rfl
    | cons char later =>
      have onward := ih (fun other member => needleAscii other (List.mem_cons_of_mem _ member))
        (fun other member => literal other (List.mem_cons_of_mem _ member))
        (fun other member => ascii other (List.mem_cons_of_mem _ member))
      have same := sameUpToCase_of_ascii (needleAscii first List.mem_cons_self) (ascii char List.mem_cons_self)
      rw [List.map_cons, List.map_cons, lengthAtStart_cons, ← onward, ← same]
      rfl

theorem find_eq_firstMatch (needle text : Text) (start : Nat) :
    (find needle text).map (· + start) = (Glob.firstMatch (lengthAtStart needle) start text).map (·.1) := by
  induction text generalizing start with
  | nil =>
    cases needle with
    | nil => simp [find, Glob.firstMatch, lengthAtStart]
    | cons first rest => rfl
  | cons char rest ih =>
    rw [find, Glob.firstMatch, lengthAtStart]
    split
    · simp
    · rw [← ih (start + 1), Option.map_map]
      congr 1
      funext place
      exact Nat.add_right_comm place 1 start

theorem findFrom_eq_firstMatch (inside : start ≤ text.length) :
    findFrom needle text start = (Glob.firstMatch (lengthAtStart needle) start (text.drop start)).map (·.1) := by
  rw [findFrom, if_pos inside, find_eq_firstMatch]

theorem findFrom_eq_some (inside : start ≤ text.length) :
    findFrom needle text start = some place ↔
      start ≤ place ∧ place ≤ text.length ∧ needle <+: text.drop place ∧
        ∀ earlier, start ≤ earlier → earlier < place → ¬needle <+: text.drop earlier := by
  rw [findFrom_eq_firstMatch inside, Option.map_eq_some_iff]
  constructor
  · rintro ⟨⟨first, stop⟩, found, rfl⟩
    obtain ⟨skipped, bound, rfl, ⟨count, fits, _⟩, before⟩ := Glob.firstMatch_eq_some.mp found
    rw [List.length_drop] at bound
    rw [List.drop_drop] at fits
    refine ⟨Nat.le_add_right _ _, by omega, exists_lengthAtStart.mp ⟨count, fits⟩, ?_⟩
    intro earlier after less
    obtain ⟨fewer, rfl⟩ := Nat.exists_eq_add_of_le after
    have missed := before fewer (by omega)
    rw [List.drop_drop] at missed
    exact lengthAtStart_eq_none.mp missed
  · rintro ⟨after, bound, here, before⟩
    obtain ⟨skipped, rfl⟩ := Nat.exists_eq_add_of_le after
    obtain ⟨count, fits⟩ := exists_lengthAtStart.mpr here
    refine ⟨(start + skipped, start + skipped + count), Glob.firstMatch_eq_some.mpr ?_, rfl⟩
    refine ⟨skipped, by rw [List.length_drop]; omega, rfl, ⟨count, by rw [List.drop_drop]; exact fits, rfl⟩, ?_⟩
    intro fewer less
    rw [List.drop_drop]
    exact lengthAtStart_eq_none.mpr (before (start + fewer) (Nat.le_add_right _ _) (by omega))

theorem findFrom_eq_none (inside : start ≤ text.length) :
    findFrom needle text start = none ↔
      ∀ place, start ≤ place → place ≤ text.length → ¬needle <+: text.drop place := by
  rw [findFrom_eq_firstMatch inside, Option.map_eq_none_iff, Glob.firstMatch_eq_none]
  constructor
  · intro nowhere place after bound
    obtain ⟨skipped, rfl⟩ := Nat.exists_eq_add_of_le after
    have missed := nowhere skipped (by rw [List.length_drop]; omega)
    rw [List.drop_drop] at missed
    exact lengthAtStart_eq_none.mp missed
  · intro nowhere skipped bound
    rw [List.length_drop] at bound
    rw [List.drop_drop]
    exact lengthAtStart_eq_none.mpr (nowhere (start + skipped) (Nat.le_add_right _ _) (by omega))

theorem firstMatch_lowered (needleAscii : ∀ char ∈ needle, char.toNat < 128)
    (literal : ∀ char ∈ needle, isLiteral char) (ascii : ∀ char ∈ text, char.toNat < 128) :
    Glob.firstMatch (Glob.backtrack false (Glob.ofText needle)) start text =
      Glob.firstMatch (lengthAtStart (needle.map Char.toLower)) start (text.map Char.toLower) := by
  induction text generalizing start with
  | nil => rw [List.map_nil, Glob.firstMatch, Glob.firstMatch, backtrack_ofText needleAscii literal ascii]; rfl
  | cons char rest ih =>
    have later := @ih (start + 1) fun other member => ascii other (List.mem_cons_of_mem _ member)
    rw [List.map_cons, Glob.firstMatch, Glob.firstMatch, backtrack_ofText needleAscii literal ascii, later]
    rfl

theorem search_eq_findFrom_lower (needleAscii : ∀ char ∈ needle, char.toNat < 128)
    (literal : ∀ char ∈ needle, isLiteral char) (ascii : ∀ char ∈ text, char.toNat < 128)
    (inside : start ≤ text.length) :
    ((Glob.ofText needle).search false text start).map (·.1) = findFrom (lower needle) (lower text) start := by
  have rest : ∀ char ∈ text.drop start, char.toNat < 128 := fun char member => ascii char (List.mem_of_mem_drop member)
  have bound : start ≤ (text.map Char.toLower).length := by rwa [List.length_map]
  rw [Glob.search_eq_firstMatch, firstMatch_lowered needleAscii literal rest, lower_of_ascii needleAscii,
    lower_of_ascii ascii, findFrom_eq_firstMatch bound, List.map_drop]

end Worksheet.Text
