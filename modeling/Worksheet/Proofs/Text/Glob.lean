import Mathlib.Data.List.Forall2
import Mathlib.Data.List.Infix
import Worksheet.Proofs.Greatest

/-! Wildcard patterns and the texts they describe. The matcher finds the longest beginning of each suffix that the
pattern describes, and this is also what a backtracking matcher finds that lets every `*` take as much as it can. -/

namespace Worksheet.Text

namespace Glob

/-! ## What a pattern describes -/

/-- The text can be cut into consecutive parts, one for each item of the pattern. -/
inductive Describes : Glob → Text → Prop
  | nil : Describes [] []
  | anyText {pattern : Glob} {text : Text} (part : Text) :
      Describes pattern text → Describes (.anyText :: pattern) (part ++ text)
  | anyChar {pattern : Glob} {text : Text} (char : Char) :
      Describes pattern text → Describes (.anyChar :: pattern) (char :: text)
  | letter {pattern : Glob} {text : Text} {expected char : Char} : sameUpToCase expected char = true →
      Describes pattern text → Describes (.letter expected :: pattern) (char :: text)

/-- The pattern describes the first `count` characters of the text, and nothing follows them if it is tied to
the end. -/
def Takes (pattern : Glob) (tiedToEnd : Bool) (text : Text) (count : Nat) : Prop :=
  ∃ part rest, text = part ++ rest ∧ part.length = count ∧ pattern.Describes part ∧ (tiedToEnd = true → rest = [])

variable {pattern : Glob} {item : GlobItem} {tiedToEnd : Bool} {text : Text} {char : Char} {count : Nat}

theorem takes_nil : Takes [] tiedToEnd text count ↔ count = 0 ∧ (tiedToEnd = true → text = []) := by
  constructor
  · rintro ⟨part, rest, rfl, rfl, described, tied⟩
    cases described
    exact ⟨rfl, tied⟩
  · rintro ⟨rfl, tied⟩
    exact ⟨[], text, rfl, rfl, .nil, tied⟩

theorem takes_anyText : Takes (.anyText :: pattern) tiedToEnd text count ↔
    ∃ passed later taken, text = passed ++ later ∧ pattern.Takes tiedToEnd later taken ∧
      count = passed.length + taken := by
  constructor
  · rintro ⟨part, rest, rfl, rfl, described, tied⟩
    cases described with
    | anyText passed described =>
      exact ⟨passed, _, _, List.append_assoc .., ⟨_, rest, rfl, rfl, described, tied⟩, List.length_append⟩
  · rintro ⟨passed, later, taken, rfl, ⟨part, rest, rfl, rfl, described, tied⟩, rfl⟩
    exact ⟨passed ++ part, rest, (List.append_assoc ..).symm, List.length_append, .anyText passed described, tied⟩

theorem takes_single (single : item ≠ .anyText) : Takes (item :: pattern) tiedToEnd text count ↔
    ∃ char later taken, text = char :: later ∧ item.accepts char = true ∧ pattern.Takes tiedToEnd later taken ∧
      count = taken + 1 := by
  constructor
  · rintro ⟨part, rest, rfl, rfl, described, tied⟩
    cases described with
    | anyText passed described => exact absurd rfl single
    | anyChar char described => exact ⟨char, _, _, rfl, rfl, ⟨_, rest, rfl, rfl, described, tied⟩, rfl⟩
    | letter same described => exact ⟨_, _, _, rfl, same, ⟨_, rest, rfl, rfl, described, tied⟩, rfl⟩
  · rintro ⟨char, later, taken, rfl, accepted, ⟨part, rest, rfl, rfl, described, tied⟩, rfl⟩
    refine ⟨char :: part, rest, rfl, rfl, ?_, tied⟩
    cases item with
    | anyText => exact absurd rfl single
    | anyChar => exact .anyChar char described
    | letter expected => exact .letter accepted described

theorem takes_anyText_nil : Takes (.anyText :: pattern) tiedToEnd [] count ↔ pattern.Takes tiedToEnd [] count := by
  rw [takes_anyText]
  constructor
  · rintro ⟨passed, later, taken, nothing, takes, rfl⟩
    obtain ⟨rfl, rfl⟩ := List.append_eq_nil_iff.mp nothing.symm
    simpa using takes
  · intro takes
    exact ⟨[], [], count, rfl, takes, by simp⟩

theorem takes_anyText_cons : Takes (.anyText :: pattern) tiedToEnd (char :: text) count ↔
    pattern.Takes tiedToEnd (char :: text) count ∨
      ∃ taken, Takes (.anyText :: pattern) tiedToEnd text taken ∧ count = taken + 1 := by
  simp only [takes_anyText]
  constructor
  · rintro ⟨passed, later, taken, whole, takes, rfl⟩
    cases passed with
    | nil =>
      left
      simpa [whole] using takes
    | cons first passed =>
      obtain ⟨rfl, rfl⟩ := List.cons.inj whole
      refine Or.inr ⟨passed.length + taken, ⟨passed, later, taken, rfl, takes, rfl⟩, ?_⟩
      simp only [List.length_cons]
      omega
  · rintro (takes | ⟨_, ⟨passed, later, taken, rfl, takes, rfl⟩, rfl⟩)
    · exact ⟨[], char :: text, count, rfl, takes, by simp⟩
    · exact ⟨char :: passed, later, taken, rfl, takes, by simp only [List.length_cons]; omega⟩

theorem not_takes_single_nil (single : item ≠ .anyText) : ¬Takes (item :: pattern) tiedToEnd [] count := by
  rw [takes_single single]
  rintro ⟨char, later, taken, nothing, _⟩
  cases nothing

theorem takes_single_cons (single : item ≠ .anyText) : Takes (item :: pattern) tiedToEnd (char :: text) count ↔
    item.accepts char = true ∧ ∃ taken, pattern.Takes tiedToEnd text taken ∧ count = taken + 1 := by
  rw [takes_single single]
  constructor
  · rintro ⟨_, _, taken, ⟨rfl, rfl⟩, accepted, takes, rfl⟩
    exact ⟨accepted, taken, takes, rfl⟩
  · rintro ⟨accepted, taken, takes, rfl⟩
    exact ⟨char, text, taken, rfl, accepted, takes, rfl⟩

/-- From a later start, if it can be used at all, the pattern can reach as far as from an earlier one: where two
ways through the text meet inside an item for any text, the later one may go on as the earlier one does. -/
theorem Takes.reaches {early late : Text} {taken : Nat} (later : late <:+ early)
    (first : pattern.Takes tiedToEnd early count) (second : pattern.Takes tiedToEnd late taken) :
    ∃ further, pattern.Takes tiedToEnd late further ∧ count + late.length ≤ further + early.length := by
  induction pattern generalizing early late count taken with
  | nil =>
    obtain ⟨rfl, _⟩ := takes_nil.mp first
    obtain ⟨rfl, _⟩ := takes_nil.mp second
    exact ⟨0, second, by simpa using later.length_le⟩
  | cons item pattern ih =>
    by_cases single : item = .anyText
    · subst single
      obtain ⟨before, firstRest, firstTaken, rfl, firstTakes, rfl⟩ := takes_anyText.mp first
      obtain ⟨behind, secondRest, secondTaken, rfl, secondTakes, rfl⟩ := takes_anyText.mp second
      rcases List.suffix_or_suffix_of_suffix (List.suffix_append before firstRest) later with inside | outside
      · -- The earlier way leaves the item at a place that the item can reach from the later start.
        obtain ⟨passed, whole⟩ := inside
        refine ⟨passed.length + firstTaken, takes_anyText.mpr ⟨passed, _, _, whole.symm, firstTakes, rfl⟩, ?_⟩
        have lengths := congrArg List.length whole
        simp only [List.length_append] at lengths ⊢
        omega
      · have behindFirst := (List.suffix_append behind secondRest).trans outside
        obtain ⟨further, takes, reached⟩ := ih behindFirst firstTakes secondTakes
        refine ⟨behind.length + further, takes_anyText.mpr ⟨behind, _, _, rfl, takes, rfl⟩, ?_⟩
        simp only [List.length_append]
        omega
    · obtain ⟨firstChar, firstRest, firstTaken, rfl, _, firstTakes, rfl⟩ := (takes_single single).mp first
      obtain ⟨secondChar, secondRest, secondTaken, rfl, accepted, secondTakes, rfl⟩ := (takes_single single).mp second
      have tails : secondRest <:+ firstRest := by
        rcases List.suffix_cons_iff.mp later with same | inside
        · rw [(List.cons.inj same).2]
        · exact (List.suffix_cons secondChar secondRest).trans inside
      obtain ⟨further, takes, reached⟩ := ih tails firstTakes secondTakes
      refine ⟨further + 1, (takes_single_cons single).mpr ⟨accepted, further, takes, rfl⟩, ?_⟩
      simp only [List.length_cons]
      omega

/-! ## The longest beginning -/

theorem greatest_nil (tiedToEnd : Bool) (text : Text) :
    Greatest (Takes [] tiedToEnd text) (if tiedToEnd && !text.isEmpty then none else some 0) := by
  by_cases blocked : tiedToEnd = true ∧ text ≠ []
  · rw [if_pos (by simpa using blocked)]
    intro count takes
    exact blocked.2 ((takes_nil.mp takes).2 blocked.1)
  · rw [if_neg (by simpa using blocked)]
    refine ⟨takes_nil.mpr ⟨rfl, ?_⟩, fun count takes => (takes_nil.mp takes).1.le⟩
    intro tied
    by_contra nonempty
    exact blocked ⟨tied, nonempty⟩

theorem greatest_anyText_nil {found : Option Nat} (greatest : Greatest (pattern.Takes tiedToEnd []) found) :
    Greatest (Takes (.anyText :: pattern) tiedToEnd []) found :=
  greatest.congr fun _ => takes_anyText_nil

theorem greatest_anyText_cons {here behind : Option Nat} (now : Greatest (pattern.Takes tiedToEnd (char :: text)) here)
    (later : Greatest (Takes (.anyText :: pattern) tiedToEnd text) behind) :
    Greatest (Takes (.anyText :: pattern) tiedToEnd (char :: text)) (longer here (behind.map (· + 1))) :=
  (now.or later.succ).congr fun _ => takes_anyText_cons

theorem greatest_single_nil (single : item ≠ .anyText) : Greatest (Takes (item :: pattern) tiedToEnd []) none :=
  fun _ => not_takes_single_nil single

theorem greatest_single_cons {found : Option Nat} (item : GlobItem) (single : item ≠ .anyText)
    (greatest : Greatest (pattern.Takes tiedToEnd text) found) :
    Greatest (Takes (item :: pattern) tiedToEnd (char :: text))
      (if item.accepts char then found.map (· + 1) else none) := by
  by_cases accepted : item.accepts char = true
  · rw [if_pos accepted]
    exact greatest.succ.congr fun _ => (takes_single_cons single).trans (and_iff_right accepted)
  · rw [if_neg accepted]
    intro count takes
    exact accepted ((takes_single_cons single).mp takes).1

/-! ## A backtracking matcher -/

/-- A matcher of any text and what follows it, given one for what follows: the text is as long as it can be, and
gives characters back one by one until what follows is matched. -/
def takeMost (next : Text → Option Nat) : Text → Option Nat
  | [] => next []
  | char :: text =>
    match takeMost next text with
    | some count => some (count + 1)
    | none => next (char :: text)

/-- The number of characters that a backtracking matcher takes, trying for every item the longer texts first. -/
def backtrack (tiedToEnd : Bool) : Glob → Text → Option Nat
  | [], text => if tiedToEnd && !text.isEmpty then none else some 0
  | .anyText :: pattern, text => takeMost (backtrack tiedToEnd pattern) text
  | _ :: _, [] => none
  | item :: pattern, char :: text =>
    if item.accepts char then (backtrack tiedToEnd pattern text).map (· + 1) else none

def firstMatch (matcher : Text → Option Nat) (start : Nat) : Text → Option (Nat × Nat)
  | [] => (matcher []).map fun count => (start, start + count)
  | char :: text =>
    match matcher (char :: text) with
    | some count => some (start, start + count)
    | none => firstMatch matcher (start + 1) text

/-- The last place where the rest can begin is also one from where it reaches furthest. -/
theorem Takes.le_of_greatest {own most : Nat} (here : pattern.Takes tiedToEnd (char :: text) own)
    (later : Greatest (Takes (.anyText :: pattern) tiedToEnd text) (some most)) : own ≤ most + 1 := by
  obtain ⟨passed, rest, taken, whole, takes, _⟩ := takes_anyText.mp later.1
  have behind : rest <:+ char :: text := ⟨char :: passed, by simp [whole]⟩
  obtain ⟨further, furtherTakes, reached⟩ := here.reaches behind takes
  have bound := later.2 _ (takes_anyText.mpr ⟨passed, rest, further, whole, furtherTakes, rfl⟩)
  simp only [whole, List.length_cons, List.length_append] at reached
  omega

theorem greatest_takeMost {next : Text → Option Nat}
    (matched : ∀ text, Greatest (pattern.Takes tiedToEnd text) (next text)) (text : Text) :
    Greatest (Takes (.anyText :: pattern) tiedToEnd text) (takeMost next text) := by
  induction text with
  | nil => exact greatest_anyText_nil (matched [])
  | cons char text ih =>
    have now := matched (char :: text)
    have both := greatest_anyText_cons now ih
    rw [takeMost]
    cases later : takeMost next text with
    | none =>
      rw [later] at both
      cases here : next (char :: text) with
      | none => rwa [here] at both
      | some own => rwa [here] at both
    | some most =>
      rw [later] at both ih
      cases here : next (char :: text) with
      | none => rwa [here] at both
      | some own =>
        rw [here] at both now
        have least : own ≤ most + 1 := now.1.le_of_greatest ih
        simpa only [longer, Option.map_some, Nat.max_eq_right least] using both

theorem greatest_backtrack (pattern : Glob) (tiedToEnd : Bool) (text : Text) :
    Greatest (pattern.Takes tiedToEnd text) (backtrack tiedToEnd pattern text) := by
  induction pattern generalizing text with
  | nil => exact greatest_nil tiedToEnd text
  | cons item pattern ih =>
    cases item with
    | anyText => exact greatest_takeMost ih text
    | anyChar =>
      cases text with
      | nil => exact greatest_single_nil nofun
      | cons char text => exact greatest_single_cons .anyChar nofun (ih text)
    | letter expected =>
      cases text with
      | nil => exact greatest_single_nil nofun
      | cons char text => exact greatest_single_cons (.letter expected) nofun (ih text)

/-! ## The matcher for all suffixes at once -/

/-- One entry for each suffix of the text: the greatest number of characters that the pattern takes from it. -/
def Tabulates (pattern : Glob) (tiedToEnd : Bool) (text : Text) (entries : List (Option Nat)) : Prop :=
  List.Forall₂ (fun suffix => Greatest (pattern.Takes tiedToEnd suffix)) text.tails entries

theorem Tabulates.head {entries : List (Option Nat)} (table : pattern.Tabulates tiedToEnd text entries) :
    Greatest (pattern.Takes tiedToEnd text) (entries.headD none) := by
  cases text with
  | nil =>
    cases table with
    | cons first _ => exact first
  | cons char text =>
    cases table with
    | cons first _ => exact first

theorem tabulates_emptyLengths (tiedToEnd : Bool) (text : Text) :
    Tabulates [] tiedToEnd text (emptyLengths tiedToEnd text) := by
  induction text with
  | nil => exact .cons (by simpa using greatest_nil tiedToEnd []) .nil
  | cons char text ih => exact .cons (by simpa using greatest_nil tiedToEnd (char :: text)) ih

theorem Tabulates.extend {entries : List (Option Nat)} (table : pattern.Tabulates tiedToEnd text entries)
    (item : GlobItem) : Tabulates (item :: pattern) tiedToEnd text (item.extend text entries) := by
  induction text generalizing entries with
  | nil =>
    cases table with
    | cons here rest =>
      cases item with
      | anyText => exact .cons (greatest_anyText_nil here) .nil
      | anyChar => exact .cons (greatest_single_nil nofun) .nil
      | letter expected => exact .cons (greatest_single_nil nofun) .nil
  | cons char text ih =>
    cases table with
    | cons here rest =>
      have later := ih rest
      cases item with
      | anyText => exact .cons (greatest_anyText_cons here later.head) later
      | anyChar => exact .cons (greatest_single_cons .anyChar nofun (Tabulates.head rest)) later
      | letter expected => exact .cons (greatest_single_cons (.letter expected) nofun (Tabulates.head rest)) later

theorem tabulates_lengths (pattern : Glob) (tiedToEnd : Bool) (text : Text) :
    pattern.Tabulates tiedToEnd text (pattern.lengths tiedToEnd text) := by
  induction pattern with
  | nil => exact tabulates_emptyLengths tiedToEnd text
  | cons item pattern ih => exact ih.extend item

theorem backtrack_eq_iff {found : Option Nat} :
    backtrack tiedToEnd pattern text = found ↔ Greatest (pattern.Takes tiedToEnd text) found := by
  constructor
  · rintro rfl
    exact greatest_backtrack pattern tiedToEnd text
  · exact (greatest_backtrack pattern tiedToEnd text).unique

theorem lengths_eq_map_tails (pattern : Glob) (tiedToEnd : Bool) (text : Text) :
    pattern.lengths tiedToEnd text = text.tails.map (backtrack tiedToEnd pattern) := by
  have same : List.Forall₂ (fun suffix entry => backtrack tiedToEnd pattern suffix = entry) text.tails
      (pattern.lengths tiedToEnd text) :=
    (tabulates_lengths pattern tiedToEnd text).imp fun _ _ greatest => backtrack_eq_iff.mpr greatest
  have equal := List.forall₂_map_left_iff.mpr same
  rw [List.forall₂_eq_eq_eq] at equal
  exact equal.symm

/-! ## The whole text -/

theorem takes_tied : pattern.Takes true text count ↔ pattern.Describes text ∧ count = text.length := by
  constructor
  · rintro ⟨part, rest, rfl, rfl, described, tied⟩
    rw [tied rfl, List.append_nil]
    exact ⟨described, rfl⟩
  · rintro ⟨described, rfl⟩
    exact ⟨text, [], by simp, rfl, described, fun _ => rfl⟩

theorem fits_iff : pattern.fits text = true ↔ pattern.Describes text := by
  have greatest := (tabulates_lengths pattern true text).head
  unfold fits
  cases found : (pattern.lengths true text).headD none with
  | none =>
    rw [found] at greatest
    have nothing : ¬pattern.Describes text := fun described => greatest _ (takes_tied.mpr ⟨described, rfl⟩)
    simp [nothing]
  | some count =>
    rw [found] at greatest
    simp [(takes_tied.mp greatest.1).1]

instance (pattern : Glob) (text : Text) : Decidable (pattern.Describes text) :=
  decidable_of_iff _ fits_iff

/-! ## Parts of the text -/

/-- The pattern describes the part of the text between the two positions, and that part ends with the text if the
pattern is tied to the end. -/
def Occurs (pattern : Glob) (tiedToEnd : Bool) (text : Text) (start stop : Nat) : Prop :=
  start ≤ stop ∧ stop ≤ text.length ∧ (tiedToEnd = true → stop = text.length) ∧
    pattern.Describes ((text.take stop).drop start)

theorem occurs_iff {start stop : Nat} (inside : start ≤ text.length) :
    pattern.Occurs tiedToEnd text start stop ↔
      ∃ count, pattern.Takes tiedToEnd (text.drop start) count ∧ stop = start + count := by
  constructor
  · rintro ⟨ordered, bound, tied, described⟩
    obtain ⟨count, rfl⟩ := Nat.exists_eq_add_of_le ordered
    refine ⟨count, ⟨_, text.drop (start + count), ?_, ?_, described, ?_⟩, rfl⟩
    · rw [List.drop_take, Nat.add_sub_cancel_left, ← List.drop_drop, List.take_append_drop]
    · simp only [List.length_drop, List.length_take]
      omega
    · intro toEnd
      exact List.drop_eq_nil_of_le (tied toEnd).ge
  · rintro ⟨count, ⟨part, rest, whole, rfl, described, tied⟩, rfl⟩
    have lengths := congrArg List.length whole
    simp only [List.length_drop, List.length_append] at lengths
    refine ⟨Nat.le_add_right _ _, by omega, ?_, ?_⟩
    · intro toEnd
      rw [tied toEnd, List.length_nil] at lengths
      omega
    · rwa [List.drop_take, Nat.add_sub_cancel_left, whole, List.take_left]

theorem occurs_tied {start stop : Nat} : pattern.Occurs true text start stop ↔
    stop = text.length ∧ start ≤ text.length ∧ pattern.Describes (text.drop start) := by
  constructor
  · rintro ⟨ordered, bound, tied, described⟩
    obtain rfl := tied rfl
    rw [List.take_length] at described
    exact ⟨rfl, ordered, described⟩
  · rintro ⟨rfl, ordered, described⟩
    exact ⟨ordered, Nat.le_refl _, fun _ => rfl, by rwa [List.take_length]⟩

theorem firstMatch_eq_none {matcher : Text → Option Nat} {start : Nat} :
    firstMatch matcher start text = none ↔ ∀ skipped ≤ text.length, matcher (text.drop skipped) = none := by
  induction text generalizing start with
  | nil => simp [firstMatch]
  | cons char text ih =>
    rw [firstMatch]
    cases here : matcher (char :: text) with
    | some count =>
      simp only [reduceCtorEq, false_iff, not_forall]
      exact ⟨0, Nat.zero_le _, by simp [here]⟩
    | none =>
      simp only [ih]
      constructor
      · intro behind skipped bound
        cases skipped with
        | zero => exact here
        | succ fewer => exact behind fewer (Nat.le_of_succ_le_succ bound)
      · intro all skipped bound
        exact all (skipped + 1) (Nat.succ_le_succ bound)

theorem firstMatch_eq_some {matcher : Text → Option Nat} {start first stop : Nat} :
    firstMatch matcher start text = some (first, stop) ↔
      ∃ skipped ≤ text.length, first = start + skipped ∧
        (∃ count, matcher (text.drop skipped) = some count ∧ stop = first + count) ∧
        ∀ fewer < skipped, matcher (text.drop fewer) = none := by
  induction text generalizing start with
  | nil =>
    simp only [firstMatch, Option.map_eq_some_iff, Prod.mk.injEq, List.length_nil, Nat.le_zero]
    constructor
    · rintro ⟨count, found, rfl, rfl⟩
      exact ⟨0, rfl, rfl, ⟨count, found, rfl⟩, nofun⟩
    · rintro ⟨_, rfl, rfl, ⟨count, found, rfl⟩, _⟩
      exact ⟨count, found, rfl, rfl⟩
  | cons char text ih =>
    rw [firstMatch]
    cases here : matcher (char :: text) with
    | some count =>
      simp only [Option.some.injEq, Prod.mk.injEq]
      constructor
      · rintro ⟨rfl, rfl⟩
        exact ⟨0, Nat.zero_le _, rfl, ⟨count, here, rfl⟩, nofun⟩
      · rintro ⟨skipped, _, rfl, ⟨other, found, rfl⟩, before⟩
        cases skipped with
        | zero =>
          cases here.symm.trans found
          exact ⟨rfl, rfl⟩
        | succ fewer =>
          have missed := before 0 (Nat.succ_pos fewer)
          cases here.symm.trans missed
    | none =>
      simp only [ih]
      constructor
      · rintro ⟨skipped, bound, rfl, found, before⟩
        refine ⟨skipped + 1, Nat.succ_le_succ bound, by omega, found, ?_⟩
        intro fewer less
        cases fewer with
        | zero => exact here
        | succ fewer => exact before fewer (Nat.lt_of_succ_lt_succ less)
      · rintro ⟨skipped, bound, rfl, ⟨count, found, rfl⟩, before⟩
        cases skipped with
        | zero => cases here.symm.trans found
        | succ fewer =>
          refine ⟨fewer, Nat.le_of_succ_le_succ bound, by omega, ⟨count, found, rfl⟩, ?_⟩
          intro less smaller
          exact before (less + 1) (Nat.succ_lt_succ smaller)

theorem firstEntry_map_tails (matcher : Text → Option Nat) (start : Nat) (text : Text) :
    firstEntry start (text.tails.map matcher) = firstMatch matcher start text := by
  induction text generalizing start with
  | nil => cases here : matcher [] <;> simp [firstMatch, firstEntry, here]
  | cons char text ih =>
    rw [List.tails_cons, List.map_cons, firstMatch]
    cases here : matcher (char :: text) with
    | none => exact ih (start + 1)
    | some count => rfl

/-- The search finds what a backtracking matcher finds. -/
theorem search_eq_firstMatch (pattern : Glob) (tiedToEnd : Bool) (text : Text) (start : Nat) :
    pattern.search tiedToEnd text start = firstMatch (backtrack tiedToEnd pattern) start (text.drop start) := by
  rw [search, lengths_eq_map_tails, firstEntry_map_tails]

theorem search_eq_none {start : Nat} (inside : start ≤ text.length) :
    pattern.search tiedToEnd text start = none ↔
      ∀ first stop, start ≤ first → ¬pattern.Occurs tiedToEnd text first stop := by
  rw [search_eq_firstMatch, firstMatch_eq_none]
  simp only [List.drop_drop, List.length_drop, backtrack_eq_iff]
  constructor
  · intro nowhere first stop after occurs
    obtain ⟨skipped, rfl⟩ := Nat.exists_eq_add_of_le after
    have bound := occurs.1.trans occurs.2.1
    obtain ⟨count, takes, _⟩ := (occurs_iff bound).mp occurs
    exact nowhere skipped (by omega) count takes
  · intro nowhere skipped bound count takes
    exact nowhere (start + skipped) _ (Nat.le_add_right _ _) ((occurs_iff (by omega)).mpr ⟨count, takes, rfl⟩)

theorem search_eq_some {start first stop : Nat} (inside : start ≤ text.length) :
    pattern.search tiedToEnd text start = some (first, stop) ↔
      start ≤ first ∧ pattern.Occurs tiedToEnd text first stop ∧
        (∀ other, pattern.Occurs tiedToEnd text first other → other ≤ stop) ∧
        ∀ earlier other, start ≤ earlier → pattern.Occurs tiedToEnd text earlier other → first ≤ earlier := by
  rw [search_eq_firstMatch, firstMatch_eq_some]
  simp only [List.drop_drop, List.length_drop, backtrack_eq_iff]
  constructor
  · rintro ⟨skipped, bound, rfl, ⟨count, greatest, rfl⟩, before⟩
    have within : start + skipped ≤ text.length := by omega
    refine ⟨Nat.le_add_right _ _, (occurs_iff within).mpr ⟨count, greatest.1, rfl⟩, ?_, ?_⟩
    · intro other occurs
      obtain ⟨taken, takes, rfl⟩ := (occurs_iff within).mp occurs
      exact Nat.add_le_add_left (greatest.2 taken takes) _
    · intro earlier other after occurs
      obtain ⟨fewer, rfl⟩ := Nat.exists_eq_add_of_le after
      by_contra less
      obtain ⟨taken, takes, _⟩ := (occurs_iff (occurs.1.trans occurs.2.1)).mp occurs
      exact before fewer (by omega) taken takes
  · rintro ⟨after, occurs, furthest, least⟩
    obtain ⟨skipped, rfl⟩ := Nat.exists_eq_add_of_le after
    have within := occurs.1.trans occurs.2.1
    obtain ⟨count, takes, rfl⟩ := (occurs_iff within).mp occurs
    refine ⟨skipped, by omega, rfl, ⟨count, ⟨takes, ?_⟩, rfl⟩, ?_⟩
    · intro other otherTakes
      have bound := furthest _ ((occurs_iff within).mpr ⟨other, otherTakes, rfl⟩)
      omega
    · intro fewer less taken fewerTakes
      have bound := least (start + fewer) _ (Nat.le_add_right _ _)
        ((occurs_iff (by omega)).mpr ⟨taken, fewerTakes, rfl⟩)
      omega

end Glob

end Worksheet.Text
