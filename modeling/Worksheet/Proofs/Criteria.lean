import Worksheet.Criteria
import Worksheet.Proofs.Outcome
import Worksheet.Proofs.Text.Glob

/-! Criteria of the conditional functions. A criterion with wildcards holds of the values whose whole text its pattern
describes, and a search with the pattern finds the first part of a text that it describes, as long as it can be. -/

namespace Worksheet

namespace Criterion

def relations : List Text :=
  [">=", "<=", "<>", "!=", ">", "<", "="].map String.toList

theorem ofText_of_wildcards {pattern : Text} (plain : ∀ relation ∈ relations, ¬relation <+: pattern)
    (wild : Text.hasWildcards pattern = true) : ofText pattern = .ok (.fits (Text.Glob.ofText pattern)) := by
  unfold ofText
  split
  · exact absurd ⟨_, rfl⟩ (plain ">=".toList (by decide))
  · exact absurd ⟨_, rfl⟩ (plain "<=".toList (by decide))
  · exact absurd ⟨_, rfl⟩ (plain "<>".toList (by decide))
  · exact absurd ⟨_, rfl⟩ (plain "!=".toList (by decide))
  · exact absurd ⟨_, rfl⟩ (plain ">".toList (by decide))
  · exact absurd ⟨_, rfl⟩ (plain "<".toList (by decide))
  · exact absurd ⟨_, rfl⟩ (plain "=".toList (by decide))
  · rw [if_pos wild]

theorem holds_fits (pattern : Text.Glob) (value : Value) :
    (fits pattern).holds value = value.toText.map fun text => decide (pattern.Describes text) := by
  have same (text : Text) : pattern.fits text = decide (pattern.Describes text) := by
    rw [Bool.eq_iff_iff, Text.Glob.fits_iff, decide_eq_true_iff]
  simp only [holds, same]
  cases value.toText <;> rfl

end Criterion

open Text in
/-- Wildcards, in criteria and in searches. A criterion that begins with no relation and has wildcards holds of a
value exactly if the pattern describes the whole text of the value; it fails only where the value has no text. A
search finds nothing exactly if the pattern describes no part of the text, and otherwise the first place where such
a part begins, with the last place where one that begins there ends; tied to the end, it finds the first place from
which the pattern describes the whole rest. A backtracking matcher finds the same. -/
theorem wildcards_leftmost_longest (pattern : Text) :
    ((∀ relation ∈ Criterion.relations, ¬relation <+: pattern) → hasWildcards pattern = true →
      ∀ criterion value : Value, criterion.toText = .ok pattern →
        (Criterion.ofValue criterion >>= fun found => found.holds value) =
          value.toText.map fun text => decide ((Glob.ofText pattern).Describes text)) ∧
    ∀ text : Text,
      ((Glob.ofText pattern).search false text 0 = none ↔
        ∀ first stop, ¬(Glob.ofText pattern).Occurs false text first stop) ∧
      (∀ first stop, (Glob.ofText pattern).search false text 0 = some (first, stop) ↔
        (Glob.ofText pattern).Occurs false text first stop ∧
          (∀ other, (Glob.ofText pattern).Occurs false text first other → other ≤ stop) ∧
          ∀ earlier other, (Glob.ofText pattern).Occurs false text earlier other → first ≤ earlier) ∧
      ((Glob.ofText pattern).search true text 0 = none ↔
        ∀ first ≤ text.length, ¬(Glob.ofText pattern).Describes (text.drop first)) ∧
      (∀ first stop, (Glob.ofText pattern).search true text 0 = some (first, stop) ↔
        stop = text.length ∧ first ≤ text.length ∧ (Glob.ofText pattern).Describes (text.drop first) ∧
          ∀ earlier ≤ text.length, (Glob.ofText pattern).Describes (text.drop earlier) → first ≤ earlier) ∧
      ∀ tiedToEnd, (Glob.ofText pattern).search tiedToEnd text 0 =
        Glob.firstMatch (Glob.backtrack tiedToEnd (Glob.ofText pattern)) 0 text := by
  constructor
  · intro plain wild criterion value written
    have read : Criterion.ofValue criterion = .ok (.fits (Glob.ofText pattern)) :=
      bind_eq_ok.mpr ⟨pattern, written, Criterion.ofText_of_wildcards plain wild⟩
    rw [read]
    exact Criterion.holds_fits _ value
  · intro text
    have inside : 0 ≤ text.length := Nat.zero_le _
    have occursTied := @Glob.occurs_tied (Glob.ofText pattern) text
    refine ⟨?_, ?_, ?_, ?_, fun tiedToEnd => Glob.search_eq_firstMatch _ tiedToEnd text 0⟩
    · rw [Glob.search_eq_none inside]
      simp
    · intro first stop
      rw [Glob.search_eq_some inside]
      simp
    · rw [Glob.search_eq_none inside]
      simp [occursTied]
    · intro first stop
      rw [Glob.search_eq_some inside]
      constructor
      · rintro ⟨_, occurs, _, least⟩
        obtain ⟨toEnd, bound, described⟩ := occursTied.mp occurs
        refine ⟨toEnd, bound, described, ?_⟩
        intro earlier before onward
        exact least earlier text.length (Nat.zero_le _) (occursTied.mpr ⟨rfl, before, onward⟩)
      · rintro ⟨rfl, bound, described, least⟩
        refine ⟨Nat.zero_le _, occursTied.mpr ⟨rfl, bound, described⟩, ?_, ?_⟩
        · intro other occurs
          exact (occursTied.mp occurs).1.le
        · intro earlier other _ occurs
          obtain ⟨_, before, onward⟩ := occursTied.mp occurs
          exact least earlier before onward

theorem wildcards_leftmost_longest_line_break :
    (∀ relation ∈ Criterion.relations, ¬relation <+: "a*?c".toList) ∧ Text.hasWildcards "a*?c".toList = true ∧
      (Criterion.ofValue (.text "a*?c".toList) >>= fun found => found.holds (.text "A\nbC".toList)) = .ok true := by
  have plain : ∀ relation ∈ Criterion.relations, ¬relation <+: "a*?c".toList := by decide
  have wild : Text.hasWildcards "a*?c".toList = true := by decide
  have described : (Text.Glob.ofText "a*?c".toList).Describes "A\nbC".toList := by decide +kernel
  refine ⟨plain, wild, ?_⟩
  rw [(wildcards_leftmost_longest "a*?c".toList).1 plain wild _ (.text "A\nbC".toList) rfl]
  exact congrArg Except.ok (decide_eq_true described)

end Worksheet
