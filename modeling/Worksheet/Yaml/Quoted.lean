import Worksheet.Failure
import Worksheet.Text.Hex
import Worksheet.Yaml.Layout

/-! Quoted scalars of YAML. Between single quotes a quote is written twice; between double quotes a backslash begins
an escape, and at the end of a line it joins the next line without a space. -/

namespace Worksheet.Yaml

def simpleEscape? : Char → Option Nat
  | '0' => some 0
  | 'a' => some 7
  | 'b' => some 8
  | 't' => some 9
  | '\t' => some 9
  | 'n' => some 10
  | 'v' => some 11
  | 'f' => some 12
  | 'r' => some 13
  | 'e' => some 27
  | ' ' => some 32
  | '"' => some 34
  | '\\' => some 92
  | '/' => some 47
  | 'N' => some 0x85
  | '_' => some 0xA0
  | 'L' => some 0x2028
  | 'P' => some 0x2029
  | _ => none

def codeWidth? : Char → Option Nat
  | 'x' => some 2
  | 'u' => some 4
  | 'U' => some 8
  | _ => none

/-- The line breaks among the gaps at the start of a line, and the text behind them. No document may begin
on one of the lines. -/
def quotedBreaks : Nat → Text → Except Failure (Text × Text)
  | 0, _ => .error .badMarkup
  | fuel + 1, text =>
    if startsDocument text then .error .badMarkup
    else
      match text.dropWhile isGap with
      | [] => .ok ([], [])
      | char :: rest =>
        if isBreak char then
          (quotedBreaks fuel rest).map fun (breaks, after) => (lineBreak char :: breaks, after)
        else .ok ([], char :: rest)

def codes (text : Text) : List Nat :=
  text.map Char.toNat

def readQuoted (quote : Char) : Nat → Text → Except Failure (List Nat × Text)
  | 0, _ => .error .badMarkup
  | fuel + 1, text =>
    let more (found : List Nat) (rest : Text) : Except Failure (List Nat × Text) :=
      (readQuoted quote fuel rest).map fun (later, after) => (found ++ later, after)
    match text with
    | [] => .error .badMarkup
    | char :: rest =>
      if isGap char then
        match rest.dropWhile isGap with
        | [] => .error .badMarkup
        | next :: _ =>
          if isBreak next then readQuoted quote fuel (rest.dropWhile isGap)
          else more (codes (char :: rest.takeWhile isGap)) (rest.dropWhile isGap)
      else if isBreak char then do
        let (breaks, rest) ← quotedBreaks (rest.length + 1) rest
        more (codes (joinLines char breaks)) rest
      else if char = quote then
        match quote, rest with
        | '\'', '\'' :: rest => more [39] rest
        | _, _ => .ok ([], rest)
      else if char = '\\' ∧ quote = '"' then
        match rest with
        | [] => .error .badMarkup
        | mark :: rest =>
          match simpleEscape? mark, codeWidth? mark with
          | some code, _ => more [code] rest
          | none, some width =>
            match Text.readHex? (rest.take width) with
            | some code =>
              if rest.length < width then .error .badMarkup
              else if code > 0x10FFFF then .error .unreadable
              else more [code] (rest.drop width)
            | none => .error .badMarkup
          | none, none =>
            if isBreak mark then do
              let (breaks, rest) ← quotedBreaks (rest.length + 1) rest
              more (codes breaks) rest
            else .error .badMarkup
      else more [char.toNat] rest

end Worksheet.Yaml
