import Worksheet.Failure
import Worksheet.Text.Hex

/-! Text as bytes in UTF-8. Decoding accepts any bytes: each longest beginning of an encoded character that is not
completed, and each byte that begins none, becomes one replacement character. -/

namespace Worksheet

abbrev Bytes := List UInt8

namespace Text

def encodeChar (char : Char) : Bytes :=
  let code := char.toNat
  if code < 0x80 then [code.toUInt8]
  else if code < 0x800 then [(0xC0 + code / 0x40).toUInt8, (0x80 + code % 0x40).toUInt8]
  else if code < 0x10000 then
    [(0xE0 + code / 0x1000).toUInt8, (0x80 + code / 0x40 % 0x40).toUInt8, (0x80 + code % 0x40).toUInt8]
  else
    [(0xF0 + code / 0x40000).toUInt8, (0x80 + code / 0x1000 % 0x40).toUInt8,
      (0x80 + code / 0x40 % 0x40).toUInt8, (0x80 + code % 0x40).toUInt8]

def encode (text : Text) : Bytes :=
  text.flatMap encodeChar

/-- What a first byte promises: how many bytes follow, its own part of the code point, and the range of
the second byte. -/
structure Lead where
  following : Nat
  bits : Nat
  low : Nat
  high : Nat

def Lead.ofByte? (byte : Nat) : Option Lead :=
  if 0xC2 ≤ byte ∧ byte ≤ 0xDF then some ⟨1, byte - 0xC0, 0x80, 0xBF⟩
  else if byte = 0xE0 then some ⟨2, 0, 0xA0, 0xBF⟩
  else if byte = 0xED then some ⟨2, 0xD, 0x80, 0x9F⟩
  else if 0xE1 ≤ byte ∧ byte ≤ 0xEF then some ⟨2, byte - 0xE0, 0x80, 0xBF⟩
  else if byte = 0xF0 then some ⟨3, 0, 0x90, 0xBF⟩
  else if byte = 0xF4 then some ⟨3, 4, 0x80, 0x8F⟩
  else if 0xF1 ≤ byte ∧ byte ≤ 0xF3 then some ⟨3, byte - 0xF0, 0x80, 0xBF⟩
  else none

/-- `pending` is what the bytes read so far of an unfinished character promise for the rest of it. -/
def decodeFrom : Option Lead → Bytes → Text
  | none, [] => []
  | some _, [] => [replacement]
  | none, byte :: rest =>
    if byte.toNat < 0x80 then Char.ofNat byte.toNat :: decodeFrom none rest
    else
      match Lead.ofByte? byte.toNat with
      | some lead => decodeFrom (some lead) rest
      | none => replacement :: decodeFrom none rest
  | some lead, byte :: rest =>
    if lead.low ≤ byte.toNat ∧ byte.toNat ≤ lead.high then
      let bits := lead.bits * 0x40 + byte.toNat % 0x40
      if lead.following ≤ 1 then Char.ofNat bits :: decodeFrom none rest
      else decodeFrom (some ⟨lead.following - 1, bits, 0x80, 0xBF⟩) rest
    else if byte.toNat < 0x80 then replacement :: Char.ofNat byte.toNat :: decodeFrom none rest
    else
      match Lead.ofByte? byte.toNat with
      | some lead => replacement :: decodeFrom (some lead) rest
      | none => replacement :: replacement :: decodeFrom none rest

def decode (bytes : Bytes) : Text :=
  decodeFrom none bytes

def decodeExactly (bytes : Bytes) : Except Failure Text :=
  let text := decode bytes
  if encode text = bytes then .ok text else .error .unreadable

end Text

end Worksheet
