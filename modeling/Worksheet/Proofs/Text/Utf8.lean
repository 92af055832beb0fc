import Worksheet.Text.Utf8

/-! UTF-8: every text is decoded from what encodes it, and a byte below 128 stands for a character of its own. -/

namespace Worksheet.Text

theorem toNat_toUInt8 {number : Nat} (bound : number < 256) : number.toUInt8.toNat = number := by
  rw [Nat.toUInt8, UInt8.toNat_ofNat']
  omega

theorem decodeFrom_lead {byte : Nat} {lead : Lead} (bound : byte < 256) (high : 0x80 ≤ byte)
    (promise : Lead.ofByte? byte = some lead) (rest : Bytes) :
    decodeFrom none (byte.toUInt8 :: rest) = decodeFrom (some lead) rest := by
  rw [decodeFrom, toNat_toUInt8 bound, if_neg (by omega), promise]

theorem decodeFrom_last {bits low high byte : Nat} (bound : byte < 256) (above : low ≤ byte) (below : byte ≤ high)
    (rest : Bytes) :
    decodeFrom (some ⟨1, bits, low, high⟩) (byte.toUInt8 :: rest)
      = Char.ofNat (bits * 0x40 + byte % 0x40) :: decodeFrom none rest := by
  rw [decodeFrom, toNat_toUInt8 bound, if_pos ⟨above, below⟩, if_pos (Nat.le_refl 1)]

theorem decodeFrom_next {following bits low high byte : Nat} (bound : byte < 256) (above : low ≤ byte)
    (below : byte ≤ high) (rest : Bytes) :
    decodeFrom (some ⟨following + 2, bits, low, high⟩) (byte.toUInt8 :: rest)
      = decodeFrom (some ⟨following + 1, bits * 0x40 + byte % 0x40, 0x80, 0xBF⟩) rest := by
  have more : ¬following + 2 ≤ 1 := by omega
  rw [decodeFrom, toNat_toUInt8 bound, if_pos ⟨above, below⟩, if_neg more]
  rfl

theorem ofNat_of_eq (char : Char) {code : Nat} (equal : code = char.toNat) : Char.ofNat code = char := by
  rw [equal, Char.ofNat_toNat]

theorem lead_of_two {code : Nat} (more : 0x80 ≤ code) (two : code < 0x800) :
    Lead.ofByte? (0xC0 + code / 0x40) = some ⟨1, code / 0x40, 0x80, 0xBF⟩ := by
  rw [Lead.ofByte?, if_pos (by omega)]
  simp

theorem lead_of_three {code : Nat} (more : 0x800 ≤ code) (three : code < 0x10000)
    (noSurrogate : code < 0xD800 ∨ 0xDFFF < code) :
    ∃ low high, Lead.ofByte? (0xE0 + code / 0x1000) = some ⟨2, code / 0x1000, low, high⟩ ∧
      low ≤ 0x80 + code / 0x40 % 0x40 ∧ 0x80 + code / 0x40 % 0x40 ≤ high := by
  unfold Lead.ofByte?
  rw [if_neg (by omega)]
  split
  next first => exact ⟨0xA0, 0xBF, by simp; omega, by omega, by omega⟩
  split
  next surrogates => exact ⟨0x80, 0x9F, by simp; omega, by omega, by omega⟩
  rw [if_pos (by omega)]
  exact ⟨0x80, 0xBF, by simp, by omega, by omega⟩

theorem lead_of_four {code : Nat} (more : 0x10000 ≤ code) (four : code < 0x110000) :
    ∃ low high, Lead.ofByte? (0xF0 + code / 0x40000) = some ⟨3, code / 0x40000, low, high⟩ ∧
      low ≤ 0x80 + code / 0x1000 % 0x40 ∧ 0x80 + code / 0x1000 % 0x40 ≤ high := by
  unfold Lead.ofByte?
  rw [if_neg (by omega), if_neg (by omega), if_neg (by omega), if_neg (by omega)]
  split
  next first => exact ⟨0x90, 0xBF, by simp; omega, by omega, by omega⟩
  split
  next final => exact ⟨0x80, 0x8F, by simp; omega, by omega, by omega⟩
  rw [if_pos (by omega)]
  exact ⟨0x80, 0xBF, by simp, by omega, by omega⟩

theorem decodeFrom_encodeChar (char : Char) (rest : Bytes) :
    decodeFrom none (encodeChar char ++ rest) = char :: decodeFrom none rest := by
  have ranges : char.toNat < 0xD800 ∨ (0xDFFF < char.toNat ∧ char.toNat < 0x110000) := char.valid
  generalize held : char.toNat = code at ranges
  unfold encodeChar
  simp only [held]
  split
  next one =>
    rw [List.singleton_append, decodeFrom, toNat_toUInt8 (by omega), if_pos one, ofNat_of_eq char held.symm]
  split
  next two =>
    simp only [List.cons_append, List.nil_append]
    rw [decodeFrom_lead (by omega) (by omega) (lead_of_two (by omega) two),
      decodeFrom_last (by omega) (by omega) (by omega), ofNat_of_eq char (by omega)]
  split
  next three =>
    obtain ⟨low, high, promise, above, below⟩ := lead_of_three (by omega) three (by omega)
    simp only [List.cons_append, List.nil_append]
    rw [decodeFrom_lead (by omega) (by omega) promise, decodeFrom_next (by omega) above below,
      decodeFrom_last (by omega) (by omega) (by omega), ofNat_of_eq char (by omega)]
  next four =>
    obtain ⟨low, high, promise, above, below⟩ := lead_of_four (Nat.le_of_not_lt four) (by omega)
    simp only [List.cons_append, List.nil_append]
    rw [decodeFrom_lead (by omega) (by omega) promise, decodeFrom_next (by omega) above below,
      decodeFrom_next (by omega) (by omega) (by omega), decodeFrom_last (by omega) (by omega) (by omega),
      ofNat_of_eq char (by omega)]

theorem decode_encode_append (text : Text) (rest : Bytes) : decode (encode text ++ rest) = text ++ decode rest := by
  induction text with
  | nil => rfl
  | cons char others ih =>
    have first := decodeFrom_encodeChar char (encode others ++ rest)
    rw [encode, List.flatMap_cons, List.append_assoc]
    change decodeFrom none (encodeChar char ++ (encode others ++ rest)) = _
    rw [first]
    exact congrArg (char :: ·) ih

/-- A byte below 128 of an encoded text is a character of the text. -/
theorem ofNat_mem_of_mem_encode {text : Text} {byte : UInt8} (member : byte ∈ encode text) (low : byte.toNat < 0x80) :
    Char.ofNat byte.toNat ∈ text := by
  obtain ⟨char, among, own⟩ := List.mem_flatMap.mp member
  have ranges : char.toNat < 0xD800 ∨ (0xDFFF < char.toNat ∧ char.toNat < 0x110000) := char.valid
  have equal : char.toNat = byte.toNat := by
    unfold encodeChar at own
    simp only at own
    split at own
    · rw [List.mem_singleton.mp own, toNat_toUInt8 (by omega)]
    split at own
    · simp only [List.mem_cons, List.not_mem_nil, or_false] at own
      rcases own with rfl | rfl <;> rw [toNat_toUInt8 (by omega)] at low <;> omega
    split at own
    · simp only [List.mem_cons, List.not_mem_nil, or_false] at own
      rcases own with rfl | rfl | rfl <;> rw [toNat_toUInt8 (by omega)] at low <;> omega
    · simp only [List.mem_cons, List.not_mem_nil, or_false] at own
      rcases own with rfl | rfl | rfl | rfl <;> rw [toNat_toUInt8 (by omega)] at low <;> omega
  rw [← equal, Char.ofNat_toNat]
  exact among

end Worksheet.Text
