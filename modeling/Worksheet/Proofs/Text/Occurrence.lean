import Mathlib.Data.List.NodupEquivFin
import Mathlib.Order.WellFounded
import Worksheet.Proofs.Text.Cut

/-! Occurrences of one text in another. Those that a replacement of all of them meets do not overlap: each is sought
behind the one before. A search for the occurrence with a given number goes on one character after each, and so also
counts those that overlap one before; the two agree as long as the occurrences counted do not overlap. -/

namespace Worksheet.Text

/-! ## Places -/

def occurrencesFrom (old : Text) (index : Nat) : Text → List Nat
  | [] => []
  | char :: rest =>
    if old.isPrefixOf (char :: rest) then index :: occurrencesFrom old (index + 1) rest
    else occurrencesFrom old (index + 1) rest

def occurrences (old text : Text) : List Nat :=
  occurrencesFrom old 0 text

/-- Of places in order, those that are met if each one takes up `length` characters, the first from `start` on. -/
def apartFrom (length start : Nat) : List Nat → List Nat
  | [] => []
  | place :: rest =>
    if start ≤ place then place :: apartFrom length (place + length) rest else apartFrom length start rest

/-- The occurrences of `old` from left to right, none of which overlaps the one before. -/
def occurrencesApart (old text : Text) : List Nat :=
  apartFrom old.length 0 (occurrences old text)

/-- A text whose first place is `index` with `new` instead of the `length` characters at each of the places. -/
def replaceFrom (length : Nat) (new : Text) (index : Nat) (text : Text) : List Nat → Text
  | [] => text
  | place :: rest =>
    text.take (place - index) ++ new ++
      replaceFrom length new (place + length) (text.drop (place + length - index)) rest

def replaceAt (length : Nat) (new text : Text) (places : List Nat) : Text :=
  replaceFrom length new 0 text places

variable {old new text : Text} {index length start place : Nat} {places : List Nat}

theorem mem_occurrencesFrom (nonempty : old ≠ []) :
    place ∈ occurrencesFrom old index text ↔ ∃ offset, place = index + offset ∧ old <+: text.drop offset := by
  induction text generalizing index with
  | nil => simp [occurrencesFrom, nonempty]
  | cons char rest ih =>
    have step : (∃ offset, place = index + offset ∧ old <+: (char :: rest).drop offset) ↔
        (place = index ∧ old <+: char :: rest) ∨ ∃ offset, place = index + 1 + offset ∧ old <+: rest.drop offset := by
      constructor
      · rintro ⟨offset, rfl, here⟩
        cases offset with
        | zero => exact Or.inl ⟨rfl, here⟩
        | succ offset => exact Or.inr ⟨offset, by omega, here⟩
      · rintro (⟨rfl, here⟩ | ⟨offset, rfl, here⟩)
        · exact ⟨0, rfl, here⟩
        · exact ⟨offset + 1, by omega, here⟩
    rw [step, ← ih, occurrencesFrom, ← List.isPrefixOf_iff_prefix]
    split
    next here => simp [here]
    next absent => simp [absent]

theorem mem_occurrences (nonempty : old ≠ []) : place ∈ occurrences old text ↔ old <+: text.drop place := by
  rw [occurrences, mem_occurrencesFrom nonempty]
  simp

theorem le_of_mem_occurrencesFrom (member : place ∈ occurrencesFrom old index text) : index ≤ place := by
  induction text generalizing index with
  | nil => cases member
  | cons char rest ih =>
    rw [occurrencesFrom] at member
    split at member
    · rcases List.mem_cons.mp member with rfl | later
      · exact Nat.le_refl _
      · exact Nat.le_of_succ_le (ih later)
    · exact Nat.le_of_succ_le (ih member)

theorem pairwise_occurrencesFrom (old : Text) (index : Nat) (text : Text) :
    (occurrencesFrom old index text).Pairwise (· < ·) := by
  induction text generalizing index with
  | nil => exact .nil
  | cons char rest ih =>
    rw [occurrencesFrom]
    split
    · exact List.pairwise_cons.mpr ⟨fun place member => le_of_mem_occurrencesFrom member, ih (index + 1)⟩
    · exact ih (index + 1)

theorem pairwise_occurrences (old text : Text) : (occurrences old text).Pairwise (· < ·) :=
  pairwise_occurrencesFrom old 0 text

theorem add_length_le_of_mem (nonempty : old ≠ []) (member : place ∈ occurrences old text) :
    place + old.length ≤ text.length := by
  have here := ((mem_occurrences nonempty).mp member).length_le
  have some := List.length_pos_iff.mpr nonempty
  rw [List.length_drop] at here
  omega

/-! ## Places apart from each other -/

theorem apartFrom_sublist (length start : Nat) (places : List Nat) :
    (apartFrom length start places).Sublist places := by
  induction places generalizing start with
  | nil => exact .slnil
  | cons place rest ih =>
    rw [apartFrom]
    split
    · exact (ih _).cons_cons place
    · exact (ih start).cons place

theorem apartFrom_of_le {later : Nat} (between : start ≤ later) (behind : ∀ place ∈ places, later ≤ place) :
    apartFrom length start places = apartFrom length later places := by
  cases places with
  | nil => rfl
  | cons place rest =>
    have after := behind place List.mem_cons_self
    rw [apartFrom, apartFrom, if_pos (between.trans after), if_pos after]

theorem pairwise_apartFrom (length start : Nat) (places : List Nat) :
    (∀ place ∈ apartFrom length start places, start ≤ place) ∧
      (apartFrom length start places).Pairwise fun first later => first + length ≤ later := by
  induction places generalizing start with
  | nil => exact ⟨List.forall_mem_nil _, .nil⟩
  | cons place rest ih =>
    rw [apartFrom]
    split
    next after =>
      obtain ⟨behind, apart⟩ := ih (place + length)
      refine ⟨List.forall_mem_cons.mpr ⟨after, fun other member => ?_⟩, List.pairwise_cons.mpr ⟨behind, apart⟩⟩
      have bound := behind other member
      omega
    next => exact ih start

theorem getElem?_ne_of_sublist {first : Nat} {kept rest : List Nat} {count : Nat} (sublist : kept.Sublist rest)
    (distinct : (first :: rest).Nodup) (inside : count ≤ rest.length) : kept[count]? ≠ (first :: rest)[count]? := by
  obtain ⟨onto, entries⟩ := List.sublist_iff_exists_orderEmbedding_getElem?_eq.mp sublist
  have present : count < (first :: rest).length := Nat.lt_succ_of_le inside
  intro same
  rw [entries] at same
  have shifted : (first :: rest)[count]? = (first :: rest)[onto count + 1]? := by
    rw [← same, List.getElem?_cons_succ]
  have equal := (List.getElem?_inj present distinct).mp shifted
  have least := onto.strictMono.le_apply (x := count)
  omega

/-- The places met agree with all places up to a given one exactly if there is none with that number, or none up to it
overlaps the one before. -/
theorem getElem?_apartFrom (sorted : places.Pairwise (· < ·)) (count : Nat) :
    (apartFrom length start places)[count]? = places[count]? ↔
      places.length ≤ count ∨ (∀ place ∈ places.take (count + 1), start ≤ place) ∧
        (places.take (count + 1)).Pairwise fun first later => first + length ≤ later := by
  induction places generalizing start count with
  | nil => simp [apartFrom]
  | cons place rest ih =>
    obtain ⟨after, sortedRest⟩ := List.pairwise_cons.mp sorted
    rw [apartFrom]
    split
    next first =>
      cases count with
      | zero => simp [first]
      | succ count =>
        have behind : ∀ other ∈ rest.take (count + 1), start ≤ other := fun other member =>
          first.trans (after other (List.mem_of_mem_take member)).le
        rw [List.getElem?_cons_succ, List.getElem?_cons_succ, ih sortedRest, List.take_succ_cons,
          List.pairwise_cons, List.forall_mem_cons, List.length_cons, Nat.succ_le_succ_iff]
        simp only [first, true_and]
        exact or_congr_right ⟨fun apart => ⟨behind, apart⟩, fun apart => apart.2⟩
    next before =>
      have kept := apartFrom_sublist length start rest
      constructor
      · intro same
        by_contra missing
        have inside : count ≤ rest.length := by
          have shorter := (not_or.mp missing).1
          rw [List.length_cons] at shorter
          omega
        exact getElem?_ne_of_sublist kept (sorted.imp Nat.ne_of_lt) inside same
      · rintro (short | ⟨bounded, _⟩)
        · rw [List.length_cons] at short
          have fewer := kept.length_le
          rw [List.getElem?_eq_none (by omega), List.getElem?_eq_none (by simpa using short)]
        · exact absurd (bounded place (by simp)) before

/-! ## Replacing them all -/

theorem replaceFrom_cons (char : Char) (rest : Text) (behind : ∀ place ∈ places, index + 1 ≤ place) :
    replaceFrom length new index (char :: rest) places = char :: replaceFrom length new (index + 1) rest places := by
  cases places with
  | nil => rfl
  | cons place others =>
    have after := behind place List.mem_cons_self
    obtain ⟨less, rfl⟩ : ∃ less, place = index + 1 + less := ⟨place - (index + 1), by omega⟩
    have taken : index + 1 + less - index = less + 1 := by omega
    have dropped : index + 1 + less + length - index = less + length + 1 := by omega
    have nextTaken : index + 1 + less - (index + 1) = less := by omega
    have nextDropped : index + 1 + less + length - (index + 1) = less + length := by omega
    simp only [replaceFrom, taken, dropped, nextTaken, nextDropped, List.take_succ_cons, List.drop_succ_cons,
      List.cons_append]

/-- The pieces between the occurrences met, joined by another text. `skip` counts the characters of the last occurrence
that are still to be passed over, `piece` is the current piece reversed. -/
theorem join_cut (nonempty : old ≠ []) (new piece text : Text) (skip index : Nat) :
    join new (cut old skip piece text) = piece.reverse ++
      replaceFrom old.length new (index + skip) (text.drop skip)
        (apartFrom old.length (index + skip) (occurrencesFrom old index text)) := by
  have some := List.length_pos_iff.mpr nonempty
  induction text generalizing skip piece index with
  | nil => cases skip <;> simp [cut, join, occurrencesFrom, apartFrom, replaceFrom]
  | cons char rest ih =>
    cases skip with
    | succ skip =>
      have passed : apartFrom old.length (index + (skip + 1)) (occurrencesFrom old index (char :: rest)) =
          apartFrom old.length (index + (skip + 1)) (occurrencesFrom old (index + 1) rest) := by
        rw [occurrencesFrom]
        split
        · rw [apartFrom, if_neg (by omega)]
        · rfl
      rw [cut, ih piece skip (index + 1), passed, List.drop_succ_cons, Nat.add_right_comm index 1 skip,
        Nat.add_assoc index skip 1]
    | zero =>
      rw [Nat.add_zero, List.drop_zero, cut, occurrencesFrom]
      split
      next here =>
        obtain ⟨less, long⟩ : ∃ less, old.length = less + 1 := ⟨old.length - 1, by omega⟩
        have behind : index + old.length - index = less + 1 := by omega
        have onward : index + 1 + less = index + old.length := by omega
        have shorter : old.length - 1 = less := by omega
        rw [join_cons (cut_ne_nil _ _ _ _), shorter, ih [] less (index + 1), apartFrom, if_pos (Nat.le_refl index),
          replaceFrom, Nat.sub_self, List.take_zero, behind, List.drop_succ_cons, onward]
        simp
      next absent =>
        have behind : ∀ place ∈ occurrencesFrom old (index + 1) rest, index + 1 ≤ place :=
          fun place member => le_of_mem_occurrencesFrom member
        have kept : ∀ place ∈ apartFrom old.length (index + 1) (occurrencesFrom old (index + 1) rest),
            index + 1 ≤ place := (pairwise_apartFrom _ _ _).1
        rw [ih (char :: piece) 0 (index + 1), apartFrom_of_le (Nat.le_succ index) behind,
          replaceFrom_cons char rest kept]
        simp

theorem replaceAll_eq_replaceAt (nonempty : old ≠ []) (new text : Text) :
    replaceAll old new text = replaceAt old.length new text (occurrencesApart old text) := by
  have filled : old.isEmpty = false := by simpa using nonempty
  rw [replaceAll, splitOn, filled, replaceAt, occurrencesApart, occurrences]
  simpa using join_cut nonempty new [] text 0 0

/-! ## Finding one -/

theorem find_eq_head? (nonempty : old ≠ []) (index : Nat) (text : Text) :
    (find old text).map (· + index) = (occurrencesFrom old index text).head? := by
  induction text generalizing index with
  | nil => simp [find, occurrencesFrom, nonempty]
  | cons char rest ih =>
    rw [find, occurrencesFrom]
    split
    · simp
    · rw [← ih (index + 1), Option.map_map]
      exact congrArg (Option.map · (find old rest)) (funext fun place => by simp only [Function.comp_apply]; omega)

theorem findFrom_eq_head? (nonempty : old ≠ []) (text : Text) (start : Nat) :
    findFrom old text start = (occurrencesFrom old start (text.drop start)).head? := by
  rw [findFrom]
  split
  · exact find_eq_head? nonempty start _
  next beyond =>
    rw [List.drop_eq_nil_of_le (by omega)]
    rfl

theorem occurrencesFrom_behind {rest : List Nat} (found : occurrencesFrom old index text = place :: rest) :
    rest = occurrencesFrom old (place + 1) (text.drop (place + 1 - index)) := by
  induction text generalizing index with
  | nil => cases found
  | cons char later ih =>
    rw [occurrencesFrom] at found
    split at found
    · obtain ⟨rfl, rfl⟩ := List.cons.inj found
      rw [Nat.add_sub_cancel_left, List.drop_succ_cons, List.drop_zero]
    · have behind : index + 1 ≤ place := le_of_mem_occurrencesFrom (found ▸ List.mem_cons_self)
      have passed : place + 1 - index = place + 1 - (index + 1) + 1 := by omega
      rw [passed, List.drop_succ_cons]
      exact ih found

/-! ## Replacing one -/

@[simp] theorem replaceAt_singleton (length : Nat) (new text : Text) (place : Nat) :
    replaceAt length new text [place] = text.take place ++ new ++ text.drop (place + length) := by
  simp [replaceAt, replaceFrom]

theorem exists_replaceAt_ne (nonempty : old ≠ []) (member : place ∈ occurrences old text) :
    ∃ new, replaceAt old.length new text [place] ≠ text := by
  have inside := add_length_le_of_mem nonempty member
  refine ⟨'x' :: old, fun same => ?_⟩
  have lengths := congrArg List.length same
  simp only [replaceAt_singleton, List.length_append, List.length_take, List.length_drop, List.length_cons] at lengths
  omega

theorem exists_replaceAt_ne_of_lt {later : Nat} (nonempty : old ≠ []) (before : place < later)
    (member : later ∈ occurrences old text) :
    ∃ new, replaceAt old.length new text [place] ≠ replaceAt old.length new text [later] := by
  have inside := add_length_le_of_mem nonempty member
  obtain ⟨char, other⟩ : ∃ char, text[place]? ≠ some char := by
    by_cases first : text[place]? = some 'a'
    · exact ⟨'b', by simp [first]⟩
    · exact ⟨'a', first⟩
  refine ⟨[char], fun same => other ?_⟩
  have kept : (replaceAt old.length [char] text [later])[place]? = text[place]? := by
    rw [replaceAt_singleton, List.append_assoc, List.getElem?_append_left (by simp; omega),
      List.getElem?_take_of_lt before]
  have changed : (replaceAt old.length [char] text [place])[place]? = some char := by
    have length : (text.take place).length = place := by simp; omega
    rw [replaceAt_singleton, List.append_assoc, List.getElem?_append_right length.le, length, Nat.sub_self]
    rfl
  rw [← kept, ← same, changed]

theorem eq_of_replaceAt_eq (nonempty : old ≠ []) {first second : Option Nat}
    (knownFirst : ∀ place ∈ first, place ∈ occurrences old text)
    (knownSecond : ∀ place ∈ second, place ∈ occurrences old text)
    (same : ∀ new, replaceAt old.length new text first.toList = replaceAt old.length new text second.toList) :
    first = second := by
  cases first with
  | none =>
    cases second with
    | none => rfl
    | some later =>
      obtain ⟨new, changed⟩ := exists_replaceAt_ne nonempty (knownSecond later rfl)
      exact absurd (same new).symm changed
  | some place =>
    cases second with
    | none =>
      obtain ⟨new, changed⟩ := exists_replaceAt_ne nonempty (knownFirst place rfl)
      exact absurd (same new) changed
    | some later =>
      rcases Nat.lt_trichotomy place later with before | rfl | after
      · obtain ⟨new, differ⟩ := exists_replaceAt_ne_of_lt nonempty before (knownSecond later rfl)
        exact absurd (same new) differ
      · rfl
      · obtain ⟨new, differ⟩ := exists_replaceAt_ne_of_lt nonempty after (knownFirst place rfl)
        exact absurd (same new).symm differ

end Worksheet.Text
