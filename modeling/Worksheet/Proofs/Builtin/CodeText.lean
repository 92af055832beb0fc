import Worksheet.Builtin.Logic
import Worksheet.Formula.Evaluation
import Worksheet.Proofs.Builtin.Conditional
import Worksheet.Proofs.Formula.Alternation
import Worksheet.Proofs.Text.Letter
import Worksheet.Proofs.Value.Order

/-! Error codes and the texts that show them. The functions that ask for the kind of a value tell a code from a text
spelled like it, and so does a call that is not made at all because of a code. Where values are compared by their
texts they are the same. -/

namespace Worksheet

namespace Text

/-! ## What is spelled like a code -/

theorem eq_hash_of_lowerChar {before after rest : Text} {char : Char} (small : lowerChar before char after = '#' :: rest) :
    char = '#' := by
  unfold lowerChar at small
  split at small
  next ascii =>
    have same := (List.cons.inj small).1
    revert same
    exact ascii_induction (by decide +kernel) char ascii
  next large =>
    split at small
    · exact absurd (List.cons.inj small).1 (by decide)
    next notTurkish =>
      split at small
      · have sigma := (List.cons.inj small).1
        split at sigma
        · exact absurd sigma (by decide)
        · exact absurd sigma (by decide)
      · have same := (List.cons.inj small).1
        rw [simpleLower, if_neg large, if_neg notTurkish, mapCode] at same
        split at same
        next run found =>
          have table : ∀ run ∈ lowerRuns, 128 ≤ run.last → 35 < run.first + run.offset := by decide +kernel
          have covers := List.find?_some found
          simp only [CaseRun.covers, Bool.and_eq_true, decide_eq_true_eq] at covers
          have above := table run (List.mem_of_find?_eq_some found) (by omega)
          have code := congrArg Char.toNat same
          rw [Char.toNat_ofNat] at code
          split at code
          · change _ = 35 at code
            omega
          · cases code
        · rw [Char.ofNat_toNat] at same
          exact same

theorem begins_of_lower {text rest : Text} (small : lower text = '#' :: rest) : ∃ later, text = '#' :: later := by
  cases text with
  | nil => cases small
  | cons char later =>
    refine ⟨later, ?_⟩
    change lowerChar [] char later ++ lowerFrom [char] later = '#' :: rest at small
    obtain ⟨first, others, own⟩ : ∃ first others, lowerChar [] char later = first :: others := by
      unfold lowerChar
      split
      · exact ⟨_, _, rfl⟩
      split
      · exact ⟨_, _, rfl⟩
      split
      · exact ⟨_, _, rfl⟩
      · exact ⟨_, _, rfl⟩
    rw [own] at small
    rw [(List.cons.inj small).1] at own
    rw [eq_hash_of_lowerChar own]

end Text

namespace Value

def SpelledLike (value : Value) (code : ErrorCode) : Prop :=
  ∃ text, value.toText = .ok text ∧ Text.lower text = Text.lower code.text

variable {value : Value} {code : ErrorCode}

theorem isNumeric_of_begins {rest : Text} : (text ('#' :: rest)).isNumeric = .ok false := by
  have unread : Number.readWhole ('#' :: rest) = .ok none :=
    Number.readWhole_eq_none (by decide) (Literal.read_eq_none (by decide) (by decide) (by decide) (by decide))
  rw [isNumeric, unread]
  rfl

theorem SpelledLike.readable (spelled : SpelledLike value code) : ∃ numeric, value.isNumeric = .ok numeric := by
  obtain ⟨shown, displayed, same⟩ := spelled
  cases value with
  | text own =>
    cases displayed
    have begins : ∃ rest, Text.lower code.text = '#' :: rest := by cases code <;> exact ⟨_, rfl⟩
    obtain ⟨rest, first⟩ := begins
    obtain ⟨later, rfl⟩ := Text.begins_of_lower (same.trans first)
    exact ⟨false, isNumeric_of_begins⟩
  | number own => exact ⟨true, rfl⟩
  | _ => exact ⟨false, rfl⟩

theorem equal_error (value : Value) (code : ErrorCode) :
    value.equal (.error code) = value.isNumeric >>= fun _ => value.toText >>= fun shown =>
      .ok (Text.lower shown == Text.lower code.text) := by
  have taken : blankAsZero value (.error code) = .ok (value, .error code) := by cases value <;> rfl
  have other : (error code).isNumeric = .ok false := rfl
  rw [equal, comparands, taken]
  cases numeric : value.isNumeric with
  | error failure => simp [bothNumeric, numeric, bind, Except.bind]
  | ok truth =>
    have texts : bothNumeric value (.error code) = .ok false := by
      rw [bothNumeric_eq_ok_false, numeric]
      cases truth with
      | true => exact Or.inr ⟨rfl, other⟩
      | false => exact Or.inl rfl
    cases shown : value.toText with
    | error failure => simp [texts, shown, bind, Except.bind]
    | ok own => simp [texts, shown, toText, bind, Except.bind, pure, Except.pure]

theorem equal_error_eq_true : value.equal (.error code) = .ok true ↔ SpelledLike value code := by
  rw [equal_error]
  constructor
  · intro equal
    obtain ⟨_, _, onward⟩ := bind_eq_ok.mp equal
    obtain ⟨shown, displayed, same⟩ := bind_eq_ok.mp onward
    exact ⟨shown, displayed, eq_of_beq (Except.ok.inj same)⟩
  · intro spelled
    obtain ⟨numeric, readable⟩ := spelled.readable
    obtain ⟨shown, displayed, same⟩ := spelled
    rw [readable, displayed]
    change Except.ok (Text.lower shown == Text.lower code.text) = .ok true
    rw [same, beq_self_eq_true]

/-! ## Values without codes -/

theorem firstError_eq_none {values : List Value} : firstError values = none ↔ ∀ value ∈ values, value.isError = false := by
  induction values with
  | nil => exact iff_of_true rfl (List.forall_mem_nil _)
  | cons value rest ih =>
    rw [List.forall_mem_cons]
    cases value with
    | error code => exact iff_of_false nofun fun none => Bool.noConfusion none.1
    | _ => exact ih.trans (iff_and_self.mpr fun _ => rfl)

end Value

namespace Builtin

theorem answer_of_noCode {arguments : List Value} (noCode : ∀ leaf ∈ Value.flatten arguments, leaf.isError = false)
    (builtin : Builtin) (ambient : Ambient) :
    builtin.answer ambient arguments =
      (builtin.run ambient (if builtin.flattens then Value.flatten arguments else arguments)).map Answer.ofValue := by
  have opened : Value.flatten (if builtin.flattens then Value.flatten arguments else arguments) = Value.flatten arguments := by
    split
    · exact flatten_of_flat (ne_list_of_mem_flatten arguments)
    · rfl
  rw [answer, opened, Value.firstError_eq_none.mpr noCode, ite_self]
  rfl

/-! ## The choice of a case -/

/-- What is chosen among cases for a value: the case whose result is taken, if it is one, and the result. -/
inductive Picks (value : Value) : List Value → Option Value → Value → Prop
  | here {candidate : Value} (result : Value) (rest : List Value) (equal : value.equal candidate = .ok true) :
    Picks value (candidate :: result :: rest) (some candidate) result
  | later {candidate result : Value} {rest : List Value} {chosen : Option Value} {picked : Value}
    (differs : value.equal candidate = .ok false) (further : Picks value rest chosen picked) :
    Picks value (candidate :: result :: rest) chosen picked
  | default (value' : Value) : Picks value [value'] none value'
  | nothing : Picks value [] none (.error .notAvailable)

variable {value : Value} {cases : List Value} {chosen : Option Value} {result : Value}

theorem Picks.equal_case {candidate : Value} (picks : Picks value cases (some candidate) result) :
    value.equal candidate = .ok true := by
  generalize named : some candidate = chosen at picks
  induction picks with
  | here _ _ equal =>
    cases named
    exact equal
  | later _ _ ih => exact ih named
  | default | nothing => cases named

theorem Picks.firstCase_eq (picks : Picks value cases chosen result) : firstCase value cases = .ok result := by
  induction picks with
  | here _ _ equal =>
    rw [firstCase, equal]
    rfl
  | later differs _ ih =>
    rw [firstCase, differs]
    exact ih
  | default | nothing => rfl

theorem firstCase_eq_ok : firstCase value cases = .ok result ↔ ∃ chosen, Picks value cases chosen result := by
  refine ⟨fun found => ?_, fun ⟨_, picks⟩ => picks.firstCase_eq⟩
  induction cases using firstCase.induct with
  | case1 candidate own rest ih =>
    rw [firstCase] at found
    obtain ⟨truth, compared, onward⟩ := bind_eq_ok.mp found
    cases truth with
    | true =>
      cases onward
      exact ⟨_, .here result rest compared⟩
    | false =>
      obtain ⟨chosen, picks⟩ := ih onward
      exact ⟨chosen, .later compared picks⟩
  | case2 =>
    cases found
    exact ⟨none, .default _⟩
  | case3 =>
    cases found
    exact ⟨none, .nothing⟩

theorem switch_of_noCode (noCode : value.isError = false) (enough : 2 ≤ cases.length) :
    switch (value :: cases) = firstCase value cases := by
  have counted : requireAtLeast "SWITCH" (value :: cases) 3 = .ok () := by
    apply requireAtLeast_of_le
    rw [List.length_cons]
    omega
  unfold switch
  rw [counted]
  cases value with
  | error code => cases noCode
  | _ => rfl

/-! ## Texts taken for codes -/

theorem isNotAvailable_of_noCode (noCode : value.isError = false) :
    isNotAvailable value = true ↔ value = .text ErrorCode.notAvailable.text := by
  cases value with
  | error code => cases noCode
  | text own => simp [isNotAvailable]
  | _ => exact iff_of_false nofun nofun

theorem ifNotAvailable_of_noCode (noCode : value.isError = false) (fallback : Value) :
    ifNotAvailable [value, fallback] =
      .ok (if value = .text ErrorCode.notAvailable.text then fallback else value) := by
  change Except.ok (if isNotAvailable value = true then fallback else value) = _
  simp only [isNotAvailable_of_noCode noCode]

/-- A value that is no code is never taken for one by a function that asks for its kind, and no call is answered with
a code because of it. The text that shows the code for a value that is not available is replaced as the code would be,
and a case that is a code is picked for exactly the values spelled like it. -/
theorem codes_against_texts {value : Value} (noCode : value.isError = false) (fallback : Value) :
    ifError [value, fallback] = .ok value ∧
      ask "ISERROR" (fun value => .ok value.isError) [value] = .ok (.bool false) ∧
      (ifNotAvailable [value, fallback] = .ok value ↔ (value = .text ErrorCode.notAvailable.text → fallback = value)) ∧
      (∀ values, (Value.firstError values = none ↔ ∀ other ∈ values, other.isError = false)) ∧
      (∀ (builtin : Builtin) (ambient : Ambient) (arguments : List Value),
        (∀ leaf ∈ Value.flatten arguments, leaf.isError = false) →
          builtin.answer ambient arguments =
            (builtin.run ambient (if builtin.flattens then Value.flatten arguments else arguments)).map Answer.ofValue) ∧
      (∀ cases result, 2 ≤ cases.length →
        (switch (value :: cases) = .ok result ↔ ∃ chosen, Picks value cases chosen result)) ∧
      ∀ code, (∃ cases result, 2 ≤ cases.length ∧ Picks value cases (some (.error code)) result) ↔ value.SpelledLike code := by
  refine ⟨?_, ?_, ?_, fun _ => Value.firstError_eq_none, fun builtin ambient arguments none => ?_,
    fun cases result enough => ?_, fun code => ⟨?_, fun spelled => ?_⟩⟩
  · change Except.ok (if value.isError = true then fallback else value) = _
    rw [noCode, if_neg Bool.false_ne_true]
  · change Except.ok (Value.bool value.isError) = _
    rw [noCode]
  · rw [ifNotAvailable_of_noCode noCode, Except.ok.injEq]
    split
    next shown => exact ⟨fun same _ => same, fun same => same shown⟩
    next other => exact iff_of_true rfl fun shown => absurd shown other
  · exact answer_of_noCode none builtin ambient
  · rw [switch_of_noCode noCode enough, firstCase_eq_ok]
  · rintro ⟨cases, result, -, picks⟩
    exact Value.equal_error_eq_true.mp picks.equal_case
  · exact ⟨[.error code, .empty], .empty, le_rfl, .here _ _ (Value.equal_error_eq_true.mpr spelled)⟩

theorem codes_against_name_text :
    (Value.text "#NAME?".toList).isError = false ∧
      ifError [.text "#NAME?".toList, .integer 0] = .ok (.text "#NAME?".toList) ∧
      ifNotAvailable [.text "#NAME?".toList, .integer 0] = .ok (.text "#NAME?".toList) ∧
      ∃ cases result, Picks (.text "#NAME?".toList) cases (some (.error .name)) result := by
  have noCode : (Value.text "#NAME?".toList).isError = false := rfl
  obtain ⟨kept, _, available, _, _, _, picked⟩ := codes_against_texts noCode (.integer 0)
  obtain ⟨cases, result, -, picks⟩ := (picked .name).mpr ⟨_, rfl, rfl⟩
  exact ⟨noCode, kept, available.mpr fun same => absurd same (by decide), cases, result, picks⟩

theorem texts_taken_for_codes :
    (Value.text "#N/A".toList).isError = false ∧
      ifNotAvailable [.text "#N/A".toList, .text "x".toList] = .ok (.text "x".toList) ∧
      (Value.text "#name?".toList).isError = false ∧
      switch [.text "#name?".toList, .error .name, .integer 1, .integer 2] = .ok (.integer 1) := by
  have spelled : (Value.text "#name?".toList).equal (.error .name) = .ok true :=
    Value.equal_error_eq_true.mpr ⟨_, rfl, by decide +kernel⟩
  refine ⟨rfl, rfl, rfl, ?_⟩
  rw [switch_of_noCode rfl (by decide)]
  exact (Picks.here (.integer 1) [.integer 2] spelled).firstCase_eq

end Builtin

end Worksheet
