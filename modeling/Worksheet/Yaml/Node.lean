import Worksheet.Yaml.Token

/-! The nodes of a YAML document: scalars, sequences, and mappings of nodes to nodes. A place where a node may stand
and none does holds the empty plain scalar. -/

namespace Worksheet.Yaml

inductive Node where
  | scalar (isPlain : Bool) (text : Text)
  | sequence (items : List Node)
  | mapping (pairs : List (Node × Node))

namespace Node

def blank : Node := .scalar true []

abbrev Reading (α : Type) := Except Failure (α × List Token)

def startsWith (expected : List Token) (tokens : List Token) : Bool :=
  tokens.head?.any (expected.contains ·)

/-- Reads a node unless a token stands there that cannot begin one. -/
def orBlank (ends : List Token) (tokens : List Token) (read : List Token → Reading Node) : Reading Node :=
  if startsWith ends tokens then .ok (blank, tokens) else read tokens

def afterColon (ends : List Token) (tokens : List Token) (read : List Token → Reading Node) : Reading Node :=
  match tokens with
  | .colon :: rest => orBlank ends rest read
  | _ => .ok (blank, tokens)

def blockEnds : List Token := [.key, .colon, .blockEnd]

mutual

/-- A node; `inBlock` allows block collections, and `inPair` a block sequence that is not indented. -/
def read (inBlock inPair : Bool) : Nat → List Token → Except Failure (Node × List Token)
  | 0, _ => .error .badMarkup
  | fuel + 1, tokens =>
    match tokens with
    | .scalar isPlain text :: rest => .ok (.scalar isPlain text, rest)
    | .flowSequence :: rest => do
      let (items, rest) ← flowItems fuel rest
      return (.sequence items, rest)
    | .flowMapping :: rest => do
      let (pairs, rest) ← flowPairs fuel rest
      return (.mapping pairs, rest)
    | .blockSequence :: rest =>
      if inBlock then do
        let (items, rest) ← blockItems true fuel rest
        return (.sequence items, rest)
      else .error .badMarkup
    | .blockMapping :: rest =>
      if inBlock then do
        let (pairs, rest) ← blockPairs fuel rest
        return (.mapping pairs, rest)
      else .error .badMarkup
    | .dash :: rest =>
      if inPair then do
        let (items, rest) ← blockItems false fuel (.dash :: rest)
        return (.sequence items, rest)
      else .error .badMarkup
    | _ => .error .badMarkup

def blockItems (isIndented : Bool) : Nat → List Token → Except Failure (List Node × List Token)
  | 0, _ => .error .badMarkup
  | fuel + 1, tokens =>
    match tokens with
    | .dash :: rest => do
      let ends := if isIndented then [.dash, .blockEnd] else .dash :: blockEnds
      let (item, rest) ← orBlank ends rest (read true false fuel)
      let (items, rest) ← blockItems isIndented fuel rest
      return (item :: items, rest)
    | .blockEnd :: rest => .ok ([], if isIndented then rest else .blockEnd :: rest)
    | other => if isIndented then .error .badMarkup else .ok ([], other)

def blockPairs : Nat → List Token → Except Failure (List (Node × Node) × List Token)
  | 0, _ => .error .badMarkup
  | fuel + 1, tokens =>
    match tokens with
    | .key :: rest => do
      let (key, rest) ← orBlank blockEnds rest (read true true fuel)
      let (value, rest) ← afterColon blockEnds rest (read true true fuel)
      let (pairs, rest) ← blockPairs fuel rest
      return ((key, value) :: pairs, rest)
    | .blockEnd :: rest => .ok ([], rest)
    | _ => .error .badMarkup

/-- The items of a flow sequence; a pair among them is a mapping of its own. -/
def flowItems : Nat → List Token → Except Failure (List Node × List Token)
  | 0, _ => .error .badMarkup
  | fuel + 1, tokens =>
    match tokens with
    | .flowSequenceEnd :: rest => .ok ([], rest)
    | tokens => do
      let (item, rest) ←
        match tokens with
        | .key :: rest => do
          let (key, rest) ← orBlank [.colon, .comma, .flowSequenceEnd] rest (read false false fuel)
          let (value, rest) ← afterColon [.comma, .flowSequenceEnd] rest (read false false fuel)
          pure (.mapping [(key, value)], rest)
        | tokens => read false false fuel tokens
      match rest with
      | .comma :: rest => do
        let (items, rest) ← flowItems fuel rest
        return (item :: items, rest)
      | .flowSequenceEnd :: rest => return ([item], rest)
      | _ => .error .badMarkup

/-- The pairs of a flow mapping; a node without a colon is a key. -/
def flowPairs : Nat → List Token → Except Failure (List (Node × Node) × List Token)
  | 0, _ => .error .badMarkup
  | fuel + 1, tokens =>
    match tokens with
    | .flowMappingEnd :: rest => .ok ([], rest)
    | tokens => do
      let (pair, rest) ←
        match tokens with
        | .key :: rest => do
          let (key, rest) ← orBlank [.colon, .comma, .flowMappingEnd] rest (read false false fuel)
          let (value, rest) ← afterColon [.comma, .flowMappingEnd] rest (read false false fuel)
          pure ((key, value), rest)
        | tokens => do
          let (key, rest) ← read false false fuel tokens
          pure ((key, blank), rest)
      match rest with
      | .comma :: rest => do
        let (pairs, rest) ← flowPairs fuel rest
        return (pair :: pairs, rest)
      | .flowMappingEnd :: rest => return ([pair], rest)
      | _ => .error .badMarkup

end

def ofTokens (tokens : List Token) : Except Failure (Option Node) := do
  let fuel := 2 * tokens.length + 2
  match tokens with
  | [] => return none
  | .documentStart :: rest => do
    let (node, rest) ←
      if rest.isEmpty then .ok (blank, rest)
      else orBlank [.documentStart, .documentEnd] rest (read true false fuel)
    alone node rest
  | tokens => do
    let (node, rest) ← read true false fuel tokens
    alone node rest
where
  alone (node : Node) (rest : List Token) : Except Failure (Option Node) :=
    if rest.all (· == .documentEnd) then .ok (some node) else .error .badMarkup

end Node

end Worksheet.Yaml
