import Mathlib.Data.List.Forall2
import Worksheet.Proofs.Formula.Grammar
import Worksheet.Proofs.Value.Limits

/-! Operands with an operator between each two, as a list. The arithmetic on them cuts the list at the signs, reduces
every term from left to right and then combines the terms from left to right. -/

namespace Worksheet

structure Chain (α : Type) where
  first : α
  rest : List (Operator × α)

namespace Chain

variable {α β : Type}

def operands (chain : Chain α) : List α :=
  chain.first :: chain.rest.map Prod.snd

/-- Combines from left to right; an operand becomes a number when its turn comes. -/
def runFrom (number : α → Except Failure Number) (left : Number) : List (Operator × α) → Except Failure Number
  | [] => .ok left
  | (operator, operand) :: rest => do
    let right ← number operand
    runFrom number (← operator.apply left right) rest

def run (number : α → Except Failure Number) (chain : Chain α) : Except Failure Number := do
  runFrom number (← number chain.first) chain.rest

def cut (first : α) : List (Operator × α) → Chain (Chain α)
  | [] => ⟨⟨first, []⟩, []⟩
  | (operator, operand) :: rest =>
    let later := cut operand rest
    if operator.isSign then ⟨⟨first, []⟩, (operator, later.first) :: later.rest⟩
    else ⟨⟨first, (operator, operand) :: later.first.rest⟩, later.rest⟩

def terms (chain : Chain α) : Chain (Chain α) :=
  cut chain.first chain.rest

def mapM (image : α → Except Failure β) (chain : Chain α) : Except Failure (Chain β) := do
  let first ← image chain.first
  let rest ← chain.rest.mapM fun pair => do return (pair.1, ← image pair.2)
  return ⟨first, rest⟩

/-- First all operands become numbers, then all terms are reduced, then the terms are combined. -/
def twoPass (number : α → Except Failure Number) (chain : Chain α) : Except Failure Number := do
  let numbers ← chain.mapM number
  let reduced ← numbers.terms.mapM (run .ok)
  reduced.run .ok

theorem runFrom_append {number : α → Except Failure Number} (left : Number) (rest later : List (Operator × α)) :
    runFrom number left (rest ++ later) =
      runFrom number left rest >>= fun next => runFrom number next later := by
  induction rest generalizing left with
  | nil => rfl
  | cons pair rest ih => simp only [List.cons_append, runFrom, bind_assoc, ih]

theorem run_snoc (number : α → Except Failure Number) (first : α) (rest : List (Operator × α))
    (operator : Operator) (operand : α) :
    run number ⟨first, rest ++ [(operator, operand)]⟩ =
      run number ⟨first, rest⟩ >>= fun left => number operand >>= fun right => operator.apply left right := by
  simp only [run, runFrom_append, bind_assoc, runFrom]
  congr 1
  funext start
  congr 1
  funext left
  congr 1
  funext right
  exact bind_pure _

theorem cut_of_scales {first : α} {rest : List (Operator × α)} (scales : ∀ pair ∈ rest, pair.1.isSign = false) :
    cut first rest = ⟨⟨first, rest⟩, []⟩ := by
  induction rest generalizing first with
  | nil => rfl
  | cons pair rest ih =>
    obtain ⟨operator, second⟩ := pair
    have scale : operator.isSign = false := scales (operator, second) List.mem_cons_self
    rw [cut, ih fun pair member => scales pair (List.mem_cons_of_mem _ member)]
    simp only [scale, Bool.false_eq_true, ↓reduceIte]

theorem cut_append {first second : α} {rest later : List (Operator × α)} {operator : Operator}
    (sign : operator.isSign = true) :
    cut first (rest ++ (operator, second) :: later) =
      ⟨(cut first rest).first,
        (cut first rest).rest ++ (operator, (cut second later).first) :: (cut second later).rest⟩ := by
  induction rest generalizing first with
  | nil => simp only [List.nil_append, cut, sign, ↓reduceIte]
  | cons pair rest ih =>
    obtain ⟨other, third⟩ := pair
    simp only [List.cons_append, cut, ih]
    split
    · rfl
    · rfl

/-! ## Operands one by one -/

structure Related (relation : α → β → Prop) (chain : Chain α) (image : Chain β) : Prop where
  first : relation chain.first image.first
  rest : List.Forall₂ (fun left right => left.1 = right.1 ∧ relation left.2 right.2) chain.rest image.rest

theorem mapM_pairs_eq_ok {map : α → Except Failure β} {rest : List (Operator × α)}
    {image : List (Operator × β)} :
    (rest.mapM fun pair => do return (pair.1, ← map pair.2)) = .ok image ↔
      List.Forall₂ (fun left right => left.1 = right.1 ∧ map left.2 = .ok right.2) rest image := by
  have paired (left : Operator × α) (right : Operator × β) :
      (do return (left.1, ← map left.2) : Except Failure (Operator × β)) = .ok right ↔
        left.1 = right.1 ∧ map left.2 = .ok right.2 := by
    constructor
    · intro mapped
      obtain ⟨value, known, equal⟩ := bind_eq_ok.mp mapped
      cases equal
      exact ⟨rfl, known⟩
    · rintro ⟨same, known⟩
      rw [known, same]
      rfl
  rw [Worksheet.mapM_eq_ok]
  simp only [paired]

theorem mapM_eq_ok {map : α → Except Failure β} {chain : Chain α} {image : Chain β} :
    chain.mapM map = .ok image ↔ chain.Related (fun operand value => map operand = .ok value) image := by
  constructor
  · intro mapped
    obtain ⟨first, known, onward⟩ := bind_eq_ok.mp mapped
    obtain ⟨rest, others, equal⟩ := bind_eq_ok.mp onward
    cases equal
    exact ⟨known, mapM_pairs_eq_ok.mp others⟩
  · rintro ⟨known, others⟩
    rw [mapM, known, mapM_pairs_eq_ok.mpr others]
    rfl

theorem runFrom_congr {number : α → Except Failure Number} {number' : β → Except Failure Number}
    {rest : List (Operator × α)} {image : List (Operator × β)}
    (pairs : List.Forall₂ (fun left right => left.1 = right.1 ∧ number left.2 = number' right.2) rest image)
    (left : Number) : runFrom number left rest = runFrom number' left image := by
  induction pairs generalizing left with
  | nil => rfl
  | cons pair _ ih =>
    obtain ⟨operator, operand⟩ := pair
    simp only [runFrom, operator, operand, ih]

theorem run_congr {number : α → Except Failure Number} {number' : β → Except Failure Number}
    {chain : Chain α} {image : Chain β}
    (related : chain.Related (fun operand value => number operand = number' value) image) :
    chain.run number = image.run number' := by
  have onward := runFrom_congr related.rest
  simp only [run, related.first, onward]

theorem cut_related {relation : α → β → Prop} {first : α} {first' : β} {rest : List (Operator × α)}
    {image : List (Operator × β)} (same : relation first first')
    (pairs : List.Forall₂ (fun left right => left.1 = right.1 ∧ relation left.2 right.2) rest image) :
    (cut first rest).Related (Related relation) (cut first' image) := by
  induction pairs generalizing first first' with
  | nil => exact ⟨⟨same, .nil⟩, .nil⟩
  | @cons left right rest image pair _ ih =>
    obtain ⟨operator, operand⟩ := left
    obtain ⟨operator', operand'⟩ := right
    obtain ⟨equal, operands⟩ := pair
    cases equal
    obtain ⟨term, later⟩ := ih operands
    simp only [cut]
    split
    · exact ⟨⟨same, .nil⟩, .cons ⟨rfl, term⟩ later⟩
    · exact ⟨⟨same, .cons ⟨rfl, operands⟩ term.rest⟩, later⟩

theorem Related.terms {relation : α → β → Prop} {chain : Chain α} {image : Chain β}
    (related : chain.Related relation image) : chain.terms.Related (Related relation) image.terms :=
  cut_related related.first related.rest

theorem Related.mono {relation relation' : α → β → Prop} {chain : Chain α} {image : Chain β}
    (related : chain.Related relation image) (weaker : ∀ left right, relation left right → relation' left right) :
    chain.Related relation' image :=
  ⟨weaker _ _ related.first, related.rest.imp fun _ _ pair => ⟨pair.1, weaker _ _ pair.2⟩⟩

/-- Once all operands are numbers, the terms can be reduced one when it is met. -/
theorem run_terms_congr {number : α → Except Failure Number} {number' : β → Except Failure Number}
    {chain : Chain α} {image : Chain β}
    (related : chain.Related (fun operand value => number operand = number' value) image) :
    chain.terms.run (run number) = image.terms.run (run number') :=
  run_congr (related.terms.mono fun _ _ => run_congr)

/-! ## What a run needs -/

theorem exists_of_runFrom {number : α → Except Failure Number} {rest : List (Operator × α)}
    {left result : Number} (ok : runFrom number left rest = .ok result) :
    ∀ operand ∈ rest.map Prod.snd, ∃ value, number operand = .ok value := by
  induction rest generalizing left with
  | nil => simp
  | cons pair rest ih =>
    obtain ⟨right, found, combined⟩ := bind_eq_ok.mp ok
    obtain ⟨next, _, onward⟩ := bind_eq_ok.mp combined
    intro operand member
    rcases List.mem_cons.mp member with rfl | inside
    · exact ⟨right, found⟩
    · exact ih onward operand inside

theorem exists_of_run {number : α → Except Failure Number} {chain : Chain α} {result : Number}
    (ok : chain.run number = .ok result) : ∀ operand ∈ chain.operands, ∃ value, number operand = .ok value := by
  obtain ⟨left, start, onward⟩ := bind_eq_ok.mp ok
  intro operand member
  rcases List.mem_cons.mp member with rfl | inside
  · exact ⟨left, start⟩
  · exact exists_of_runFrom onward operand inside

theorem exists_image {map : α → Except Failure β} {rest : List (Operator × α)}
    (known : ∀ operand ∈ rest.map Prod.snd, ∃ value, map operand = .ok value) :
    ∃ image : List (Operator × β),
      List.Forall₂ (fun left right => left.1 = right.1 ∧ map left.2 = .ok right.2) rest image := by
  induction rest with
  | nil => exact ⟨[], .nil⟩
  | cons pair rest ih =>
    obtain ⟨value, found⟩ := known pair.2 (by simp)
    obtain ⟨image, others⟩ := ih fun operand member => known operand (List.mem_cons_of_mem pair.2 member)
    exact ⟨(pair.1, value) :: image, .cons ⟨rfl, found⟩ others⟩

theorem exists_mapM {map : α → Except Failure β} {chain : Chain α}
    (known : ∀ operand ∈ chain.operands, ∃ value, map operand = .ok value) :
    ∃ image, chain.mapM map = .ok image := by
  obtain ⟨value, start⟩ := known chain.first (by simp [operands])
  obtain ⟨image, others⟩ := exists_image fun operand member =>
    known operand (List.mem_cons_of_mem chain.first member)
  exact ⟨⟨value, image⟩, mapM_eq_ok.mpr ⟨start, others⟩⟩

theorem first_cut (first : α) (rest : List (Operator × α)) : (cut first rest).first.first = first := by
  cases rest with
  | nil => rfl
  | cons pair rest =>
    simp only [cut]
    split
    · rfl
    · rfl

theorem operands_cut (first : α) (rest : List (Operator × α)) :
    (cut first rest).operands.flatMap operands = first :: rest.map Prod.snd := by
  induction rest generalizing first with
  | nil => rfl
  | cons pair rest ih =>
    obtain ⟨operator, second⟩ := pair
    have later := ih second
    have start := first_cut second rest
    simp only [operands, List.flatMap_cons, start, List.cons_append] at later
    simp only [cut, List.map_cons, ← later]
    split
    · simp [operands, start]
    · simp [operands]

theorem operands_terms (chain : Chain α) : chain.terms.operands.flatMap operands = chain.operands :=
  operands_cut chain.first chain.rest

theorem exists_of_run_terms {number : α → Except Failure Number} {chain : Chain α} {result : Number}
    (ok : chain.terms.run (run number) = .ok result) :
    ∀ operand ∈ chain.operands, ∃ value, number operand = .ok value := by
  intro operand member
  rw [← operands_terms] at member
  obtain ⟨term, among, inside⟩ := List.mem_flatMap.mp member
  obtain ⟨value, reduced⟩ := exists_of_run ok term among
  exact exists_of_run reduced operand inside

/-! ## Both passes -/

theorem runFrom_onlyFails {number : α → Except Failure Number} {rest : List (Operator × α)} {causes : List Failure}
    (operands : ∀ operand, OnlyFails causes (number operand)) (left : Number) :
    OnlyFails (.outOfRange :: causes) (runFrom number left rest) := by
  induction rest generalizing left with
  | nil => exact .ok left
  | cons pair rest ih =>
    obtain ⟨operator, operand⟩ := pair
    refine ((operands operand).mono (by simp)).bind fun right _ => ?_
    exact ((operator.apply_onlyFails left right).mono (by simp)).bind fun next _ => ih next

theorem run_onlyFails {number : α → Except Failure Number} {causes : List Failure}
    (operands : ∀ operand, OnlyFails causes (number operand)) (chain : Chain α) :
    OnlyFails (.outOfRange :: causes) (chain.run number) :=
  ((operands chain.first).mono (by simp)).bind fun left _ => runFrom_onlyFails operands left

theorem mapM_onlyFails {map : α → Except Failure β} {causes : List Failure}
    (each : ∀ operand, OnlyFails causes (map operand)) (chain : Chain α) : OnlyFails causes (chain.mapM map) := by
  refine (each chain.first).bind fun first _ => ?_
  refine OnlyFails.bind (OnlyFails.mapM (fun pair => ?_) chain.rest) fun rest _ => .ok _
  exact (each pair.2).bind fun value _ => .ok _

/-- When every operand is a number, the passes fail for the same cause as the run from left to right. -/
theorem twoPass_of_mapM {number : α → Except Failure Number} {chain : Chain α} {numbers : Chain Number}
    (converted : chain.mapM number = .ok numbers) : chain.terms.run (run number) = chain.twoPass number := by
  have related := mapM_eq_ok.mp converted
  have exact (term : Chain Number) : OnlyFails [.outOfRange] (term.run .ok) :=
    run_onlyFails (fun operand => .ok operand) term
  rw [run_terms_congr related, twoPass, converted]
  change _ = numbers.terms.mapM (run .ok) >>= fun reduced => reduced.run .ok
  cases reduction : numbers.terms.mapM (run .ok) with
  | ok reduced => exact run_congr (mapM_eq_ok.mp reduction)
  | error failure =>
    have cause : failure = .outOfRange := by simpa using mapM_onlyFails exact _ failure reduction
    cases together : numbers.terms.run (run .ok) with
    | ok result =>
      obtain ⟨reduced, all⟩ := exists_mapM (exists_of_run together)
      rw [all] at reduction
      cases reduction
    | error other =>
      have whole : OnlyFails [.outOfRange] (numbers.terms.run (run .ok)) :=
        (run_onlyFails exact numbers.terms).mono (by simp)
      have cause' : other = .outOfRange := by simpa using whole other together
      rw [cause, cause']
      rfl

/-- The run from left to right and the two passes have the same results. -/
theorem toOption_twoPass (number : α → Except Failure Number) (chain : Chain α) :
    (chain.terms.run (run number)).toOption = (chain.twoPass number).toOption := by
  cases conversion : chain.mapM number with
  | ok numbers => rw [twoPass_of_mapM conversion]
  | error failure =>
    cases together : chain.terms.run (run number) with
    | ok result =>
      obtain ⟨numbers, converted⟩ := exists_mapM (exists_of_run_terms together)
      rw [converted] at conversion
      cases conversion
    | error other => rw [twoPass, conversion]; rfl

/-! ## Integers -/

def product (term : Chain Int) : Int :=
  term.first * (term.rest.map Prod.snd).prod

def signed : Operator × Int → Int
  | (.subtract, value) => -value
  | (_, value) => value

def value (chain : Chain Int) : Int :=
  chain.terms.first.product + (chain.terms.rest.map fun pair => signed (pair.1, pair.2.product)).sum

theorem isSign_of_mem_cut {first : α} {rest : List (Operator × α)} {pair : Operator × Chain α}
    (member : pair ∈ (cut first rest).rest) : pair.1.isSign = true := by
  induction rest generalizing first with
  | nil => cases member
  | cons next rest ih =>
    obtain ⟨operator, second⟩ := next
    simp only [cut] at member
    split at member
    next sign =>
      rcases List.mem_cons.mp member with rfl | later
      · exact sign
      · exact ih later
    next => exact ih member

theorem mem_of_mem_term {first : α} {rest : List (Operator × α)} {term : Chain α} {pair : Operator × α}
    (among : term ∈ (cut first rest).operands) (member : pair ∈ term.rest) :
    pair ∈ rest ∧ pair.1.isSign = false := by
  induction rest generalizing first term with
  | nil =>
    simp only [cut, operands, List.map_nil, List.mem_singleton] at among
    rw [among] at member
    cases member
  | cons next rest ih =>
    obtain ⟨operator, second⟩ := next
    have later {other : Chain α} (inside : other ∈ (cut second rest).operands) (found : pair ∈ other.rest) :
        pair ∈ (operator, second) :: rest ∧ pair.1.isSign = false := by
      obtain ⟨below, scale⟩ := ih inside found
      exact ⟨List.mem_cons_of_mem _ below, scale⟩
    simp only [cut] at among
    split at among
    next =>
      rcases List.mem_cons.mp among with rfl | inside
      · cases member
      · exact later inside member
    next scale =>
      rcases List.mem_cons.mp among with rfl | inside
      · rcases List.mem_cons.mp member with rfl | found
        · exact ⟨List.mem_cons_self, by simpa using scale⟩
        · exact later List.mem_cons_self found
      · exact later (List.mem_cons_of_mem _ inside) member

theorem runFrom_product {rest : List (Operator × Int)} (products : ∀ pair ∈ rest, pair.1 = .multiply)
    (left : Int) :
    runFrom (fun value => .ok (.integer value)) (.integer left) rest
      = .ok (.integer (left * (rest.map Prod.snd).prod)) := by
  induction rest generalizing left with
  | nil => simp [runFrom]
  | cons pair rest ih =>
    obtain ⟨operator, right⟩ := pair
    have multiplies : operator = .multiply := products (operator, right) List.mem_cons_self
    have onward := ih (fun pair member => products pair (List.mem_cons_of_mem _ member)) (left * right)
    rw [multiplies, List.map_cons, List.prod_cons, ← mul_assoc]
    exact onward

theorem run_product {term : Chain Int} (products : ∀ pair ∈ term.rest, pair.1 = .multiply) :
    term.run (fun value => .ok (.integer value)) = .ok (.integer term.product) :=
  runFrom_product products term.first

theorem runFrom_signed {number : α → Except Failure Number} {exact : α → Int} {rest : List (Operator × α)}
    (signs : ∀ pair ∈ rest, pair.1.isSign = true)
    (values : ∀ pair ∈ rest, number pair.2 = .ok (.integer (exact pair.2))) (left : Int) :
    runFrom number (.integer left) rest
      = .ok (.integer (left + (rest.map fun pair => signed (pair.1, exact pair.2)).sum)) := by
  induction rest generalizing left with
  | nil => simp [runFrom]
  | cons pair rest ih =>
    obtain ⟨operator, operand⟩ := pair
    have found : number operand = .ok (.integer (exact operand)) := values (operator, operand) List.mem_cons_self
    have sign : operator.isSign = true := signs (operator, operand) List.mem_cons_self
    have combined : operator.apply (.integer left) (.integer (exact operand))
        = .ok (.integer (left + signed (operator, exact operand))) := by
      cases operator with
      | add => rfl
      | subtract => rfl
      | multiply => cases sign
      | divide => cases sign
    have onward := ih (fun pair member => signs pair (List.mem_cons_of_mem _ member))
      (fun pair member => values pair (List.mem_cons_of_mem _ member)) (left + signed (operator, exact operand))
    rw [List.map_cons, List.sum_cons, ← add_assoc, ← onward]
    simp only [runFrom, found, bind, Except.bind, combined]

theorem run_integers {chain : Chain Int} (undivided : ∀ pair ∈ chain.rest, pair.1 ≠ .divide) :
    chain.terms.run (run fun value => .ok (.integer value)) = .ok (.integer chain.value) := by
  have products (term : Chain Int) (among : term ∈ chain.terms.operands) :
      term.run (fun value => .ok (.integer value)) = .ok (.integer term.product) := by
    refine run_product fun pair member => ?_
    obtain ⟨inside, scale⟩ := mem_of_mem_term among member
    have notDivide := undivided pair inside
    cases operator : pair.1 with
    | multiply => rfl
    | divide => exact absurd operator notDivide
    | add => rw [operator] at scale; cases scale
    | subtract => rw [operator] at scale; cases scale
  have start := products chain.terms.first List.mem_cons_self
  have later := runFrom_signed (fun pair member => isSign_of_mem_cut member)
    (fun pair member => products pair.2 (List.mem_cons_of_mem _ (List.mem_map_of_mem member)))
    chain.terms.first.product
  rw [run, start]
  exact later

end Chain

end Worksheet
