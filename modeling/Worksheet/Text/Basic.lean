/-! Text as a list of code points: every count, cut and search of the formula language is by code point. White space
is the Unicode property together with the four information separators. Decimal digits are those of every script
(Unicode 14, general category Nd): blocks of ten code points in order. -/

namespace Worksheet

abbrev Text := List Char

namespace Text

def blankRanges : List (Nat × Nat) :=
  [(0x09, 0x0D), (0x1C, 0x20), (0x85, 0x85), (0xA0, 0xA0), (0x1680, 0x1680), (0x2000, 0x200A),
   (0x2028, 0x2029), (0x202F, 0x202F), (0x205F, 0x205F), (0x3000, 0x3000)]

def inRanges (ranges : List (Nat × Nat)) (code : Nat) : Bool :=
  ranges.any fun range => range.1 ≤ code && code ≤ range.2

def isBlank (char : Char) : Bool :=
  inRanges blankRanges char.toNat

def stripLeft (text : Text) : Text :=
  text.dropWhile isBlank

def stripRight (text : Text) : Text :=
  (text.reverse.dropWhile isBlank).reverse

def strip (text : Text) : Text :=
  stripRight (stripLeft text)

theorem length_stripLeft_le (text : Text) : (stripLeft text).length ≤ text.length :=
  (List.dropWhile_sublist isBlank).length_le

theorem length_stripRight_le (text : Text) : (stripRight text).length ≤ text.length := by
  have shorter := (List.dropWhile_sublist (l := text.reverse) isBlank).length_le
  simpa [stripRight] using shorter

theorem length_strip_le (text : Text) : (strip text).length ≤ text.length :=
  Nat.le_trans (length_stripRight_le _) (length_stripLeft_le _)

def join (separator : Text) : List Text → Text
  | [] => []
  | [piece] => piece
  | piece :: rest => piece ++ separator ++ join separator rest

def zeroFill (width : Nat) (text : Text) : Text :=
  List.replicate (width - text.length) '0' ++ text

def padRight (width : Nat) (text : Text) : Text :=
  text ++ List.replicate (width - text.length) ' '

def toString (text : Text) : String :=
  String.ofList text

/-- The text without one line feed at its very end, if it has one there. -/
def dropFinalNewline (text : Text) : Text :=
  match text.getLast? with
  | some '\n' => text.dropLast
  | _ => text

/-- The code points of the zeros; the nine digits that follow each are the next nine code points. -/
def zeroDigits : List Nat :=
  [0x30, 0x660, 0x6F0, 0x7C0, 0x966, 0x9E6, 0xA66, 0xAE6, 0xB66, 0xBE6, 0xC66, 0xCE6, 0xD66, 0xDE6,
   0xE50, 0xED0, 0xF20, 0x1040, 0x1090, 0x17E0, 0x1810, 0x1946, 0x19D0, 0x1A80, 0x1A90, 0x1B50,
   0x1BB0, 0x1C40, 0x1C50, 0xA620, 0xA8D0, 0xA900, 0xA9D0, 0xA9F0, 0xAA50, 0xABF0, 0xFF10, 0x104A0,
   0x10D30, 0x11066, 0x110F0, 0x11136, 0x111D0, 0x112F0, 0x11450, 0x114D0, 0x11650, 0x116C0,
   0x11730, 0x118E0, 0x11950, 0x11C50, 0x11D50, 0x11DA0, 0x16A60, 0x16AC0, 0x16B50, 0x1D7CE,
   0x1D7D8, 0x1D7E2, 0x1D7EC, 0x1D7F6, 0x1E140, 0x1E2F0, 0x1E950, 0x1FBF0]

def digitValue? (char : Char) : Option Nat :=
  if char.toNat < 128 then
    if '0' ≤ char ∧ char ≤ '9' then some (char.toNat - 48) else none
  else
    (zeroDigits.find? fun first => first ≤ char.toNat && char.toNat < first + 10).map (char.toNat - ·)

def isDigit (char : Char) : Bool :=
  (digitValue? char).isSome

def digitsValue (digits : Text) : Nat :=
  digits.foldl (fun value char => 10 * value + (digitValue? char).getD 0) 0

def ofNat (number : Nat) : Text :=
  Nat.toDigits 10 number

def ofInt (number : Int) : Text :=
  if number < 0 then '-' :: ofNat number.natAbs else ofNat number.natAbs

/-! ## Finding, cutting and replacing, from left to right and without overlap -/

def find (needle : Text) : Text → Option Nat
  | [] => if needle.isEmpty then some 0 else none
  | char :: rest =>
    if needle.isPrefixOf (char :: rest) then some 0
    else (find needle rest).map (· + 1)

def findFrom (needle text : Text) (start : Nat) : Option Nat :=
  if start ≤ text.length then (find needle (text.drop start)).map (· + start) else none

/-- The pieces between the occurrences of a separator that is not empty; `skip` counts the characters
of the current occurrence that are still to be passed over, `piece` is the current piece reversed. -/
def cut (separator : Text) : Nat → Text → Text → List Text
  | _, piece, [] => [piece.reverse]
  | skip + 1, piece, _ :: rest => cut separator skip piece rest
  | 0, piece, char :: rest =>
    if separator.isPrefixOf (char :: rest) then
      piece.reverse :: cut separator (separator.length - 1) [] rest
    else cut separator 0 (char :: piece) rest

def splitOn (separator text : Text) : List Text :=
  if separator.isEmpty then [text] else cut separator 0 [] text

def replaceAll (old new text : Text) : Text :=
  join new (splitOn old text)

def occursIn (needle text : Text) : Bool :=
  (find needle text).isSome

end Text

end Worksheet
