import Worksheet.Sheet.Basic
import Worksheet.Value.Equality

/-! Recalculation. Formula cells are evaluated again in row-major order, each over the sheet as it is by then, in
passes that end when one changes nothing, and after as many passes as there are formula cells. -/

namespace Worksheet

namespace Sheet

def formulaKeys : Sheet → Except Failure (List (Position × Text))
  | [] => .ok []
  | (key, .cell cell) :: rest =>
    match cell.formula? with
    | some _ => do
      let position ← Position.ofKey key
      return (position, key) :: (← formulaKeys rest)
    | none => formulaKeys rest
  | (_, .record _) :: rest => formulaKeys rest

def formulaOrder (sheet : Sheet) : Except Failure (List Text) := do
  let keys ← sheet.formulaKeys
  return (keys.mergeSort fun left right => left.1.before right.1).map (·.2)

/-- Evaluates the formula under a key; the flag says whether its result changed. -/
def refresh (setting : Setting) (sheet : Sheet) (key : Text) : Outcome (Sheet × Bool) :=
  match sheet.lookup? key with
  | some (.cell old) => do
    let new ← evaluated setting sheet old.style (old.formula.getD [])
    let changed := !Value.identical new.value old.value || new.error != old.error
    pure (put key (.cell new) sheet, changed)
  | _ => .succeed (sheet, false)

def pass (setting : Setting) (sheet : Sheet) : List Text → Outcome (Sheet × Bool)
  | [] => .succeed (sheet, false)
  | key :: rest => do
    let (next, changed) ← refresh setting sheet key
    let (last, laterChanged) ← pass setting next rest
    pure (last, changed || laterChanged)

def passes (setting : Setting) (keys : List Text) (sheet : Sheet) : Nat → Outcome (Sheet × Nat)
  | 0 => .succeed (sheet, 0)
  | limit + 1 => do
    let (next, changed) ← pass setting sheet keys
    if changed then
      let (last, count) ← passes setting keys next limit
      pure (last, count + 1)
    else pure (next, 1)

def recalculated (formulas passes : Nat) : Event :=
  { level := .info
    kind := .sheetRecalculated
    context := [("formula_cells".toList, .ofNat formulas), ("passes".toList, .ofNat passes)]
    message := "Recalculated ".toList ++ Text.ofNat formulas ++ " formula cells".toList
    errorCode := none }

/-- Evaluates every formula cell of a sheet until nothing changes. -/
def recalculate (setting : Setting) (sheet : Sheet) : Outcome Sheet := do
  let cells ← Outcome.ofExcept sheet.toCells
  let keys ← Outcome.ofExcept cells.formulaOrder
  let (last, count) ← passes setting keys cells (max keys.length 1)
  Outcome.report (recalculated keys.length count) last

end Sheet

end Worksheet
