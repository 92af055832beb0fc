import Worksheet.Text.Basic

/-! Hexadecimal digits, and texts given by the numbers of their code points. A pair of surrogates, the high one first,
stands for one code point beyond the first plane; any other surrogate stands for no character. -/

namespace Worksheet.Text

def hexDigit (value : Nat) : Char :=
  if value < 10 then Char.ofNat (48 + value) else Char.ofNat (87 + value)

def writeHex : Nat → Nat → Text
  | 0, _ => []
  | width + 1, number => writeHex width (number / 16) ++ [hexDigit (number % 16)]

def hexValue? (char : Char) : Option Nat :=
  if '0' ≤ char ∧ char ≤ '9' then some (char.toNat - 48)
  else if 'a' ≤ char ∧ char ≤ 'f' then some (char.toNat - 87)
  else if 'A' ≤ char ∧ char ≤ 'F' then some (char.toNat - 55)
  else none

def readHex? (digits : Text) : Option Nat :=
  digits.foldlM (fun value char => (hexValue? char).map (16 * value + ·)) 0

def isHighSurrogate (code : Nat) : Bool :=
  0xD800 ≤ code && code ≤ 0xDBFF

def isLowSurrogate (code : Nat) : Bool :=
  0xDC00 ≤ code && code ≤ 0xDFFF

def replacement : Char := Char.ofNat 0xFFFD

def charOfCode (code : Nat) : Char :=
  if isHighSurrogate code || isLowSurrogate code then replacement else Char.ofNat code

def joinSurrogates (high low : Nat) : Char :=
  Char.ofNat (0x10000 + (high - 0xD800) * 0x400 + (low - 0xDC00))

def ofCodes : List Nat → Text
  | [] => []
  | [code] => [charOfCode code]
  | high :: low :: rest =>
    if isHighSurrogate high && isLowSurrogate low then joinSurrogates high low :: ofCodes rest
    else charOfCode high :: ofCodes (low :: rest)

/-- The code point of a character, or its pair of surrogates if it is beyond the first plane. -/
def codeUnits (char : Char) : List Nat :=
  let code := char.toNat
  if code < 0x10000 then [code]
  else [0xD800 + (code - 0x10000) / 0x400, 0xDC00 + (code - 0x10000) % 0x400]

end Worksheet.Text
