import Worksheet.Yaml.Quoted

/-! The tokens of YAML. Block collections begin and end with the indentation. A token that stands where a key may
stand turns out to be one when a colon follows it on its line; the tokens that say so are then put in front of it.
Anchors, tags, directives and block scalars are not read. -/

namespace Worksheet.Yaml

inductive Token where
  | blockSequence
  | blockMapping
  | blockEnd
  | flowSequence
  | flowSequenceEnd
  | flowMapping
  | flowMappingEnd
  | dash
  | comma
  | key
  | colon
  | scalar (isPlain : Bool) (text : Text)
  | documentStart
  | documentEnd
  deriving DecidableEq

/-- A token that is a key if a colon follows: the number of tokens before it, whether a colon has to follow,
and where it stands. -/
structure Candidate where
  position : Nat
  isRequired : Bool
  index : Nat
  line : Nat
  column : Nat

/-- How far reading has come. The tokens are newest first; `enclosing` holds the candidates of the flow
collections around the current one, and `outer` the indentations around the current one. -/
structure Scan where
  rest : Text
  index : Nat := 0
  line : Nat := 0
  column : Nat := 0
  tokens : List Token := []
  indent : Int := -1
  outer : List Int := []
  candidate : Option Candidate := none
  enclosing : List (Option Candidate) := []
  allowsKey : Bool := true

namespace Scan

def byteOrderMark : Char := Char.ofNat 0xFEFF

def inFlow (scan : Scan) : Bool :=
  !scan.enclosing.isEmpty

def skip : Nat → Scan → Scan
  | 0, scan => scan
  | count + 1, scan =>
    match scan.rest with
    | [] => scan
    | char :: rest =>
      skip count
        (if isBreak char then { scan with rest := rest, index := scan.index + 1, line := scan.line + 1, column := 0 }
        else if char = byteOrderMark then { scan with rest := rest, index := scan.index + 1 }
        else { scan with rest := rest, index := scan.index + 1, column := scan.column + 1 })

def emit (token : Token) (scan : Scan) : Scan :=
  { scan with tokens := token :: scan.tokens }

def commentLength : Text → Nat
  | '#' :: rest => (rest.takeWhile (!isBreak ·)).length + 1
  | _ => 0

/-- Passes over spaces, comments and line breaks; behind a line break in a block a key may stand. -/
def skipToToken : Nat → Scan → Scan
  | 0, scan => scan
  | fuel + 1, scan =>
    let scan := scan.skip (scan.rest.takeWhile (· == ' ')).length
    let scan := scan.skip (commentLength scan.rest)
    match scan.rest with
    | char :: _ =>
      if isBreak char then
        skipToToken fuel { scan.skip 1 with allowsKey := scan.allowsKey || !scan.inFlow }
      else scan
    | [] => scan

def keyReach : Nat := 1024

/-- A candidate is given up on the next line and beyond the reach of keys. -/
def isStale (scan : Scan) (candidate : Candidate) : Bool :=
  candidate.line != scan.line || scan.index - candidate.index > keyReach

def keepFresh (scan : Scan) : Option Candidate → Except Failure (Option Candidate)
  | none => .ok none
  | some candidate =>
    if isStale scan candidate then
      if candidate.isRequired then .error .badMarkup else .ok none
    else .ok (some candidate)

def dropStale (scan : Scan) : Except Failure Scan := do
  let candidate ← keepFresh scan scan.candidate
  let enclosing ← scan.enclosing.mapM (keepFresh scan)
  return { scan with candidate := candidate, enclosing := enclosing }

def dropCandidate (scan : Scan) : Except Failure Scan :=
  match scan.candidate with
  | some candidate => if candidate.isRequired then .error .badMarkup else .ok { scan with candidate := none }
  | none => .ok scan

def noteCandidate (scan : Scan) : Except Failure Scan :=
  if scan.allowsKey then do
    let scan ← scan.dropCandidate
    return { scan with
      candidate := some
        { position := scan.tokens.length
          isRequired := !scan.inFlow && scan.indent == scan.column
          index := scan.index
          line := scan.line
          column := scan.column } }
  else .ok scan

def closeBlocks (column : Int) (scan : Scan) : List Int → Scan
  | [] => scan
  | outer :: others =>
    if column < scan.indent then
      closeBlocks column { (scan.emit .blockEnd) with indent := outer, outer := others } others
    else scan

def unindent (column : Int) (scan : Scan) : Scan :=
  if scan.inFlow then scan else closeBlocks column scan scan.outer

def indentTo (column : Int) (scan : Scan) : Scan :=
  { scan with indent := column, outer := scan.indent :: scan.outer }

def mark (token : Token) (scan : Scan) : Scan :=
  (scan.skip 1).emit token

def openFlow (token : Token) (scan : Scan) : Except Failure Scan := do
  let scan ← scan.noteCandidate
  return { (scan.mark token) with
    candidate := none, enclosing := scan.candidate :: scan.enclosing, allowsKey := true }

def closeFlow (token : Token) (scan : Scan) : Except Failure Scan :=
  match scan.enclosing with
  | [] => .error .badMarkup
  | candidate :: others =>
    .ok { (scan.mark token) with candidate := candidate, enclosing := others, allowsKey := false }

def comma (scan : Scan) : Except Failure Scan := do
  let scan ← scan.dropCandidate
  return { (scan.mark .comma) with allowsKey := true }

/-- A dash or a question mark in a block, which begins a block of its own if it is indented further. -/
def startEntry (block token : Token) (scan : Scan) : Except Failure Scan :=
  if scan.inFlow then do
    let scan ← scan.dropCandidate
    return { (scan.mark token) with allowsKey := token == .dash }
  else if !scan.allowsKey then .error .badMarkup
  else do
    let scan := if scan.indent < scan.column then (scan.indentTo scan.column).emit block else scan
    let scan ← scan.dropCandidate
    return { (scan.mark token) with allowsKey := true }

def insert (position : Nat) (token : Token) (scan : Scan) : Scan :=
  { scan with tokens := scan.tokens.insertIdx (scan.tokens.length - position) token }

def colon (scan : Scan) : Except Failure Scan :=
  match scan.candidate with
  | some candidate =>
    let scan := scan.insert candidate.position .key
    let scan :=
      if !scan.inFlow && scan.indent < candidate.column then
        (scan.indentTo candidate.column).insert candidate.position .blockMapping
      else scan
    .ok { (scan.mark .colon) with candidate := none, allowsKey := false }
  | none =>
    if scan.inFlow then .ok { (scan.mark .colon) with allowsKey := false }
    else if !scan.allowsKey then .error .badMarkup
    else
      let scan :=
        if scan.indent < scan.column then (scan.indentTo scan.column).emit .blockMapping else scan
      .ok { (scan.mark .colon) with allowsKey := true }

def documentMark (token : Token) (scan : Scan) : Except Failure Scan := do
  let scan ← (scan.unindent (-1)).dropCandidate
  return { (scan.skip 3).emit token with allowsKey := false }

def quoted (quote : Char) (scan : Scan) : Except Failure Scan := do
  let scan ← scan.noteCandidate
  let text := scan.rest.drop 1
  let (codes, rest) ← readQuoted quote (text.length + 1) text
  return { (scan.skip (scan.rest.length - rest.length)).emit (.scalar false (Text.ofCodes codes)) with
    allowsKey := false }

/-- Reads the words of a plain scalar behind those read so far and the space that follows these; the lines of
the scalar are indented to a column at least. -/
def plainWords (column : Int) : Nat → Text → Text → Scan → Text × Scan
  | 0, text, _, scan => (text, scan)
  | fuel + 1, text, space, scan =>
    let length := if scan.rest.head? = some '#' then 0 else plainWord scan.inFlow scan.rest
    if length = 0 then (text, scan)
    else
      let text := text ++ space ++ scan.rest.take length
      let scan := scan.skip length
      let gap := plainSpace scan.rest
      let scan := { scan.skip gap.length with allowsKey := gap.breaksLine }
      if gap.text.isEmpty || (!scan.inFlow && scan.column < column) then (text, scan)
      else plainWords column fuel text gap.text scan

def plain (scan : Scan) : Except Failure Scan := do
  let scan ← scan.noteCandidate
  let (text, scan) := plainWords (scan.indent + 1) (scan.rest.length + 1) [] [] scan
  return scan.emit (.scalar true text)

def token (char : Char) (rest : Text) (scan : Scan) : Except Failure Scan :=
  if scan.column = 0 ∧ startsDocument scan.rest then
    scan.documentMark (if char = '-' then .documentStart else .documentEnd)
  else if scan.column = 0 ∧ char = '%' then .error .badMarkup
  else
    match char with
    | '[' => scan.openFlow .flowSequence
    | ']' => scan.closeFlow .flowSequenceEnd
    | '{' => scan.openFlow .flowMapping
    | '}' => scan.closeFlow .flowMappingEnd
    | ',' => scan.comma
    | '"' => scan.quoted '"'
    | '\'' => scan.quoted '\''
    | other =>
      if other = '-' ∧ endsWord rest then scan.startEntry .blockSequence .dash
      else if other = '?' ∧ (scan.inFlow ∨ endsWord rest) then scan.startEntry .blockMapping .key
      else if other = ':' ∧ (scan.inFlow ∨ endsWord rest) then scan.colon
      else if startsPlain scan.inFlow scan.rest then scan.plain
      else .error .badMarkup

def finish : Nat → Scan → Except Failure (List Token)
  | 0, _ => .error .badMarkup
  | fuel + 1, scan => do
    let scan ← (skipToToken (scan.rest.length + 1) scan).dropStale
    let scan := scan.unindent scan.column
    match scan.rest with
    | [] => do
      let scan ← (scan.unindent (-1)).dropCandidate
      return scan.tokens.reverse
    | char :: rest => do finish fuel (← scan.token char rest)

end Scan

def Token.ofText (text : Text) : Except Failure (List Token) :=
  let text := if text.head? = some Scan.byteOrderMark then text.drop 1 else text
  Scan.finish (text.length + 1) { rest := text }

end Worksheet.Yaml
