import Worksheet.Proofs.Formula.Token

/-! Folded calls. The tokens are cut into pieces, single tokens and calls, and every piece becomes one token. A call
is a word with the group of parentheses directly behind it, up to the parenthesis that first brings the depth back to
zero. From left to right, every word that has such a group is taken together with it, and nothing else is. -/

namespace Worksheet.Token

variable {token word : Token} {tokens rest group after inner piece : List Token} {pieces : List (List Token)}

/-! ## Groups -/

/-- How many more parentheses the tokens open than they close. -/
def nesting (tokens : List Token) : Int :=
  tokens.count ['('] - tokens.count [')']

/-- Read at a depth, the tokens bring it to zero at their end and not before. -/
def Closes (depth : Int) (tokens : List Token) : Prop :=
  depth + nesting tokens = 0 ∧ ∀ part, part <+: tokens → depth + nesting part = 0 → part = tokens

def IsGroup (group : List Token) : Prop :=
  ∃ inner, group = ['('] :: inner ∧ Closes 1 inner

@[simp] theorem nesting_nil : nesting [] = 0 := rfl

theorem nesting_cons (token : Token) (tokens : List Token) : nesting (token :: tokens) = nesting [token] + nesting tokens := by
  simp only [nesting, List.count_cons, List.count_nil]
  omega

theorem nesting_open : nesting [['(']] = 1 := by decide

theorem nesting_close : nesting [[')']] = -1 := by decide

theorem nesting_other (notOpen : token ≠ ['(']) (notClose : token ≠ [')']) : nesting [token] = 0 := by
  simp [nesting, notOpen, notClose]

theorem nesting_cases (token : Token) :
    nesting [token] = 1 ∨ token = [')'] ∧ nesting [token] = -1 ∨ nesting [token] = 0 := by
  by_cases isOpen : token = ['(']
  · exact Or.inl (isOpen ▸ nesting_open)
  · by_cases isClose : token = [')']
    · exact Or.inr (Or.inl ⟨isClose, isClose ▸ nesting_close⟩)
    · exact Or.inr (Or.inr (nesting_other isOpen isClose))

theorem closes_nil {depth : Int} : Closes depth [] ↔ depth = 0 := by
  simp [Closes]

theorem closes_zero : Closes 0 tokens ↔ tokens = [] := by
  constructor
  · intro closes
    exact (closes.2 [] List.nil_prefix rfl).symm
  · rintro rfl
    exact closes_nil.mpr rfl

theorem closes_cons {depth : Int} :
    Closes depth (token :: tokens) ↔ depth ≠ 0 ∧ Closes (depth + nesting [token]) tokens := by
  constructor
  · rintro ⟨ends, first⟩
    rw [nesting_cons] at ends
    refine ⟨?_, by omega, fun part begins zero => ?_⟩
    · rintro rfl
      exact absurd (first [] List.nil_prefix rfl) (List.cons_ne_nil _ _).symm
    · have longer : token :: part <+: token :: tokens := List.cons_prefix_cons.mpr ⟨rfl, begins⟩
      have same := first (token :: part) longer (by rw [nesting_cons]; omega)
      exact (List.cons.inj same).2
  · rintro ⟨nonzero, ends, first⟩
    refine ⟨by rw [nesting_cons]; omega, fun part begins zero => ?_⟩
    cases part with
    | nil => exact absurd (by simpa using zero) nonzero
    | cons head part =>
      obtain ⟨rfl, later⟩ := List.cons_prefix_cons.mp begins
      rw [nesting_cons] at zero
      rw [first part later (by omega)]

theorem Closes.getLast? {depth : Int} (closes : Closes depth tokens) (positive : 0 < depth) :
    tokens.getLast? = some [')'] := by
  induction tokens generalizing depth with
  | nil => exact absurd (closes_nil.mp closes) (by omega)
  | cons token tokens ih =>
    obtain ⟨_, later⟩ := closes_cons.mp closes
    have step := nesting_cases token
    cases tokens with
    | nil =>
      have zero := closes_nil.mp later
      obtain ⟨rfl, -⟩ : token = [')'] ∧ nesting [token] = -1 := by
        rcases step with up | down | level
        · omega
        · exact down
        · omega
      rfl
    | cons next others =>
      have nonzero := (closes_cons.mp later).1
      rw [List.getLast?_cons_cons]
      exact ih later (by omega)

/-! ## What is taken as a group -/

theorem splits_cons {depth : Int} (nonzero : depth ≠ 0) :
    group ++ after = token :: rest ∧ Closes depth group ↔
      ∃ inner, group = token :: inner ∧ inner ++ after = rest ∧ Closes (depth + nesting [token]) inner := by
  constructor
  · rintro ⟨parts, closes⟩
    cases group with
    | nil => exact absurd (closes_nil.mp closes) nonzero
    | cons head inner =>
      obtain ⟨rfl, behind⟩ := List.cons.inj parts
      exact ⟨inner, rfl, behind, (closes_cons.mp closes).2⟩
  · rintro ⟨inner, rfl, rfl, closes⟩
    exact ⟨rfl, closes_cons.mpr ⟨nonzero, closes⟩⟩

theorem takeGroup_eq_some {depth : Nat} :
    takeGroup (depth + 1) tokens = some (group, after) ↔ group ++ after = tokens ∧ Closes (depth + 1) group := by
  induction tokens generalizing depth group with
  | nil =>
    simp only [takeGroup, reduceCtorEq, List.append_eq_nil_iff, false_iff]
    rintro ⟨⟨rfl, -⟩, closes⟩
    have := closes_nil.mp closes
    omega
  | cons token rest ih =>
    -- What is taken behind the first token, at the depth that this token leaves.
    have onward (next : Nat) (level : (depth : Int) + 1 + nesting [token] = next + 1) :
        (takeGroup (next + 1) rest).map (fun found => (token :: found.1, found.2)) = some (group, after) ↔
          ∃ inner, group = token :: inner ∧ inner ++ after = rest ∧ Closes (depth + 1 + nesting [token]) inner := by
      rw [Option.map_eq_some_iff, level]
      constructor
      · rintro ⟨⟨inner, behind⟩, found, same⟩
        cases same
        exact ⟨inner, rfl, ih.mp found⟩
      · rintro ⟨inner, rfl, found⟩
        exact ⟨(inner, after), ih.mpr found, rfl⟩
    rw [splits_cons (by omega), takeGroup]
    split
    next isOpen =>
      refine onward (depth + 1) ?_
      rw [isOpen, nesting_open]
      omega
    next notOpen =>
      split
      next isClose =>
        split
        next last =>
          have level : (depth : Int) + 1 + nesting [token] = 0 := by
            rw [isClose, nesting_close]
            omega
          rw [level]
          constructor
          · intro same
            cases same
            exact ⟨[], rfl, rfl, closes_zero.mpr rfl⟩
          · rintro ⟨inner, rfl, rfl, closes⟩
            rw [closes_zero.mp closes]
            rfl
        next deeper =>
          obtain ⟨next, rfl⟩ : ∃ next, depth = next + 1 := ⟨depth - 1, by omega⟩
          refine onward next ?_
          rw [isClose, nesting_close]
          omega
      next notClose =>
        refine onward depth ?_
        rw [nesting_other notOpen notClose]
        omega

theorem callGroup_eq_some : callGroup? token rest = some (group, after) ↔
    isWord token = true ∧ IsGroup group ∧ group ++ after = rest := by
  unfold callGroup?
  cases rest with
  | nil =>
    refine iff_of_false (by simp) ?_
    rintro ⟨-, ⟨inner, rfl, -⟩, parts⟩
    cases parts
  | cons first later =>
    by_cases opens : isWord token = true ∧ first = ['(']
    · obtain ⟨isWord, rfl⟩ := opens
      simp only [isWord, List.head?_cons, beq_self_eq_true, Bool.and_self, if_true, true_and]
      rw [takeGroup, if_pos rfl, Option.map_eq_some_iff]
      constructor
      · rintro ⟨⟨inner, behind⟩, found, same⟩
        cases same
        obtain ⟨parts, closes⟩ := takeGroup_eq_some.mp found
        exact ⟨⟨inner, rfl, closes⟩, congrArg _ parts⟩
      · rintro ⟨⟨inner, rfl, closes⟩, parts⟩
        exact ⟨(inner, after), takeGroup_eq_some.mpr ⟨(List.cons.inj parts).2, closes⟩, rfl⟩
    · refine iff_of_false ?_ ?_
      · rw [if_neg (by simpa using opens)]
        intro none
        cases none
      · rintro ⟨isWord, ⟨inner, rfl, -⟩, parts⟩
        exact opens ⟨isWord, (List.cons.inj parts).1.symm⟩

/-- No group is the beginning of another. -/
theorem IsGroup.eq_of_prefix (isWord : isWord token = true) {other : List Token} (isGroup : IsGroup group)
    (isOther : IsGroup other) (begins : group <+: rest) (beginsToo : other <+: rest) : group = other := by
  obtain ⟨behind, parts⟩ := begins
  obtain ⟨behindToo, partsToo⟩ := beginsToo
  have found := callGroup_eq_some.mpr ⟨isWord, isGroup, parts⟩
  rw [callGroup_eq_some.mpr ⟨isWord, isOther, partsToo⟩] at found
  cases found
  rfl

/-! ## Pieces -/

def IsCall (piece : List Token) : Prop :=
  ∃ word group, isWord word = true ∧ IsGroup group ∧ piece = word :: group

/-- The tokens cut up into single tokens and calls. Where a piece begins with a word that has a group behind it, the
piece is the call of both. -/
structure Folding (tokens : List Token) (pieces : List (List Token)) : Prop where
  joined : pieces.flatten = tokens
  parts : ∀ piece ∈ pieces, (∃ token, piece = [token]) ∨ IsCall piece
  greedy : ∀ before piece after word group, pieces = before ++ piece :: after →
    word :: group <+: (piece :: after).flatten → isWord word = true → IsGroup group → piece = word :: group

theorem Folding.nil : Folding [] [] where
  joined := rfl
  parts := List.forall_mem_nil _
  greedy before piece after word group cut := absurd cut (by simp)

theorem folding_cons : Folding tokens (piece :: pieces) ↔
    piece ++ pieces.flatten = tokens ∧ ((∃ token, piece = [token]) ∨ IsCall piece) ∧
      (∀ word group, word :: group <+: tokens → isWord word = true → IsGroup group → piece = word :: group) ∧
      Folding pieces.flatten pieces := by
  constructor
  · rintro ⟨rfl, parts, greedy⟩
    obtain ⟨own, later⟩ := List.forall_mem_cons.mp parts
    refine ⟨rfl, own, fun word group => greedy [] piece pieces word group rfl, rfl, later, ?_⟩
    intro before other after word group cut
    exact greedy (piece :: before) other after word group (congrArg _ cut)
  · rintro ⟨rfl, own, first, later⟩
    refine ⟨rfl, List.forall_mem_cons.mpr ⟨own, later.parts⟩, ?_⟩
    intro before other after word group cut
    cases before with
    | nil =>
      cases cut
      exact first word group
    | cons head before => exact later.greedy before other after word group (List.cons.inj cut).2

theorem Folding.call (folding : Folding after pieces) (found : callGroup? word rest = some (group, after)) :
    Folding (word :: rest) ((word :: group) :: pieces) := by
  obtain ⟨isWord, isGroup, rfl⟩ := callGroup_eq_some.mp found
  refine folding_cons.mpr ⟨?_, Or.inr ⟨word, group, isWord, isGroup, rfl⟩, ?_, ?_⟩
  · rw [folding.joined]
    rfl
  · intro other otherGroup begins _ isOtherGroup
    obtain ⟨rfl, behind⟩ := List.cons_prefix_cons.mp begins
    rw [isGroup.eq_of_prefix isWord isOtherGroup (List.prefix_append _ _) behind]
  · rwa [folding.joined]

theorem Folding.single (folding : Folding rest pieces) (none : callGroup? token rest = none) :
    Folding (token :: rest) ([token] :: pieces) := by
  refine folding_cons.mpr ⟨?_, Or.inl ⟨token, rfl⟩, ?_, ?_⟩
  · rw [folding.joined]
    rfl
  · intro word group begins isWord isGroup
    obtain ⟨rfl, behind, parts⟩ := List.cons_prefix_cons.mp begins
    rw [callGroup_eq_some.mpr ⟨isWord, isGroup, parts⟩] at none
    cases none
  · rwa [folding.joined]

theorem exists_folding (tokens : List Token) :
    ∃ pieces, Folding tokens pieces ∧ foldCalls tokens = pieces.map List.flatten := by
  induction tokens using foldCalls.induct with
  | case1 => exact ⟨[], .nil, by rw [foldCalls]; rfl⟩
  | case2 word rest group after found ih =>
    obtain ⟨pieces, folding, folded⟩ := ih
    refine ⟨_, folding.call found, ?_⟩
    rw [foldCalls_call found, folded]
    rfl
  | case3 token rest none ih =>
    obtain ⟨pieces, folding, folded⟩ := ih
    refine ⟨_, folding.single none, ?_⟩
    rw [foldCalls_single none, folded]
    simp

theorem Folding.ne_nil (folding : Folding tokens pieces) (member : piece ∈ pieces) : piece ≠ [] := by
  rcases folding.parts piece member with ⟨token, rfl⟩ | ⟨word, group, _, _, rfl⟩
  · exact List.cons_ne_nil _ _
  · exact List.cons_ne_nil _ _

/-- There is one way to cut the tokens up. -/
theorem Folding.unique {others : List (List Token)} (folding : Folding tokens pieces) (other : Folding tokens others) :
    others = pieces := by
  induction pieces generalizing tokens others with
  | nil =>
    cases others with
    | nil => rfl
    | cons piece others =>
      have none : (piece :: others).flatten = [] := other.joined.trans folding.joined.symm
      exact absurd (List.append_eq_nil_iff.mp none).1 (other.ne_nil List.mem_cons_self)
  | cons piece pieces ih =>
    cases others with
    | nil =>
      have none : (piece :: pieces).flatten = [] := folding.joined.trans other.joined.symm
      exact absurd (List.append_eq_nil_iff.mp none).1 (folding.ne_nil List.mem_cons_self)
    | cons first others =>
      obtain ⟨parts, own, greedy, later⟩ := folding_cons.mp folding
      obtain ⟨otherParts, otherOwn, otherGreedy, otherLater⟩ := folding_cons.mp other
      have same : first = piece := by
        rcases own with ⟨token, rfl⟩ | ⟨word, group, isWord, isGroup, rfl⟩
        · rcases otherOwn with ⟨otherToken, rfl⟩ | ⟨word, group, isWord, isGroup, rfl⟩
          · rw [← parts] at otherParts
            rw [(List.cons.inj otherParts).1]
          · exact (greedy word group ⟨_, otherParts⟩ isWord isGroup).symm
        · exact otherGreedy word group ⟨_, parts⟩ isWord isGroup
      subst same
      rw [← parts] at otherParts
      have rest := List.append_cancel_left otherParts
      rw [rest] at otherLater
      rw [ih later otherLater]

theorem IsCall.getLast? (isCall : IsCall piece) : piece.getLast? = some [')'] := by
  obtain ⟨word, group, -, ⟨inner, rfl, closes⟩, rfl⟩ := isCall
  have last := closes.getLast? (by decide)
  cases inner with
  | nil => cases last
  | cons first others => rwa [List.getLast?_cons_cons, List.getLast?_cons_cons]

theorem Folding.suffix {before after : List (List Token)} (folding : Folding tokens (before ++ after)) :
    Folding after.flatten after := by
  induction before generalizing tokens with
  | nil =>
    obtain rfl := folding.joined
    exact folding
  | cons piece before ih => exact ih (folding_cons.mp folding).2.2.2

theorem Folding.unclosed (folding : Folding (word :: ['('] :: rest) pieces)
    (unclosed : ∀ group, group <+: ['('] :: rest → ¬IsGroup group) : ∃ later, pieces = [word] :: [['(']] :: later := by
  have parts := folding.joined
  cases pieces with
  | nil => cases parts
  | cons piece pieces =>
    rcases folding.parts piece List.mem_cons_self with ⟨token, rfl⟩ | ⟨caller, group, _, isGroup, rfl⟩
    · obtain ⟨rfl, behind⟩ := List.cons.inj parts
      cases pieces with
      | nil => cases behind
      | cons next later =>
        rcases folding.parts next (by simp) with ⟨token, rfl⟩ | ⟨caller, group, isWord, _, rfl⟩
        · rw [(List.cons.inj behind).1]
          exact ⟨later, rfl⟩
        · rw [(List.cons.inj behind).1] at isWord
          exact absurd isWord (by decide)
    · exact absurd isGroup (unclosed group ⟨_, (List.cons.inj parts).2⟩)

/-- Folding calls always ends, and it only regroups the tokens: they are cut in one way into single tokens and calls,
and each piece is joined into one token, so that nothing is dropped or repeated. A call ends with the parenthesis that
closes it, every word that stands in no call before and has a group behind it is folded, and a word before a
parenthesis that is never closed stays alone, and so does the parenthesis. -/
theorem foldCalls_regroups (nonempty : ∀ token ∈ tokens, token ≠ []) :
    ∃ pieces, foldCalls? tokens = .ok (pieces.map List.flatten) ∧
      (pieces.map List.flatten).flatten = tokens.flatten ∧ Folding tokens pieces ∧
      (∀ piece ∈ pieces, IsCall piece → piece.getLast? = some [')']) ∧
      (∀ before after word rest, pieces = before ++ after → after.flatten = word :: ['('] :: rest → isWord word = true →
        (∀ group, group <+: ['('] :: rest → ¬IsGroup group) → ∃ later, after = [word] :: [['(']] :: later) ∧
      ∀ others, Folding tokens others → others = pieces := by
  obtain ⟨pieces, folding, folded⟩ := exists_folding tokens
  have filled : ¬(foldCalls tokens).contains [] = true := by
    rw [List.contains_iff_mem]
    exact fun member => ne_nil_of_mem_foldCalls nonempty member rfl
  refine ⟨pieces, ?_, ?_, folding, fun _ _ isCall => isCall.getLast?, ?_, fun _ other => folding.unique other⟩
  · rw [← folded]
    exact if_neg filled
  · rw [← folding.joined, ← List.flatten_flatten]
  · rintro before after word rest rfl begins _ unclosed
    exact (begins ▸ folding.suffix).unclosed unclosed

theorem foldCalls_regroups_unclosed :
    let tokens := ["F", "(", "A1", ")", "+", "G", "(", "H", "(", ")"].map String.toList
    let pieces := [["F", "(", "A1", ")"], ["+"], ["G"], ["("], ["H", "(", ")"]].map (·.map String.toList)
    (∀ token ∈ tokens, token ≠ []) ∧ foldCalls? tokens = .ok (["F(A1)", "+", "G", "(", "H()"].map String.toList) ∧
      Folding tokens pieces ∧ ∃ later, pieces.drop 2 = [['G']] :: [['(']] :: later := by
  intro tokens pieces
  have nonempty : ∀ token ∈ tokens, token ≠ [] := by decide
  have behind : Folding (tokens.drop 4) (pieces.drop 1) := by
    refine .single (.single (.single (.call .nil ?_) ?_) ?_) ?_
    · decide
    · decide
    · decide
    · decide
  have own : Folding tokens pieces := behind.call (by decide)
  obtain ⟨others, folded, -, folding, -, alone, unique⟩ := foldCalls_regroups nonempty
  obtain rfl := unique pieces own
  refine ⟨nonempty, folded, folding, alone (pieces.take 2) (pieces.drop 2) ['G'] (tokens.drop 7) rfl rfl (by decide) ?_⟩
  rintro group ⟨after, parts⟩ isGroup
  have found := callGroup_eq_some.mpr ⟨(by decide : isWord ['G'] = true), isGroup, parts⟩
  have none : callGroup? ['G'] (['('] :: tokens.drop 7) = none := by decide
  rw [none] at found
  cases found

end Worksheet.Token
