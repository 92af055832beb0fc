import Worksheet.Json.Reader
import Worksheet.Json.Writer

/-! Texts in JSON. A written text consists of printable ASCII characters and is read back as it was, a character
beyond the first plane from its pair of surrogates. -/

namespace Worksheet

namespace Text

/-! ## Code units -/

theorem toNat_ranges (char : Char) : char.toNat < 0xD800 ∨ (0xDFFF < char.toNat ∧ char.toNat < 0x110000) :=
  char.valid

theorem ofCodes_cons {code : Nat} (alone : isHighSurrogate code = false) (rest : List Nat) :
    ofCodes (code :: rest) = charOfCode code :: ofCodes rest := by
  cases rest with
  | nil => rfl
  | cons next others =>
    rw [ofCodes, alone]
    rfl

theorem ofCodes_codeUnits (char : Char) (rest : List Nat) :
    ofCodes (codeUnits char ++ rest) = char :: ofCodes rest := by
  have ranges := toNat_ranges char
  unfold codeUnits
  simp only
  split
  next inPlane =>
    have high : isHighSurrogate char.toNat = false := by
      simp only [isHighSurrogate, Bool.and_eq_false_iff, decide_eq_false_iff_not]
      omega
    have low : isLowSurrogate char.toNat = false := by
      simp only [isLowSurrogate, Bool.and_eq_false_iff, decide_eq_false_iff_not]
      omega
    rw [List.singleton_append, ofCodes_cons high, charOfCode, high, low]
    simp
  next beyond =>
    have high : isHighSurrogate (0xD800 + (char.toNat - 0x10000) / 0x400) = true := by
      simp only [isHighSurrogate, Bool.and_eq_true, decide_eq_true_eq]
      omega
    have low : isLowSurrogate (0xDC00 + (char.toNat - 0x10000) % 0x400) = true := by
      simp only [isLowSurrogate, Bool.and_eq_true, decide_eq_true_eq]
      omega
    have joined : 0x10000 + (0xD800 + (char.toNat - 0x10000) / 0x400 - 0xD800) * 0x400
        + (0xDC00 + (char.toNat - 0x10000) % 0x400 - 0xDC00) = char.toNat := by omega
    rw [List.cons_append, List.singleton_append, ofCodes, high, low, Bool.and_self, if_pos rfl, joinSurrogates, joined,
      Char.ofNat_toNat]

theorem ofCodes_flatMap (text : Text) : ofCodes (text.flatMap codeUnits) = text := by
  induction text with
  | nil => rfl
  | cons char rest ih => rw [List.flatMap_cons, ofCodes_codeUnits, ih]

theorem lt_of_mem_codeUnits {char : Char} {unit : Nat} (member : unit ∈ codeUnits char) : unit < 0x10000 := by
  have ranges := toNat_ranges char
  unfold codeUnits at member
  simp only at member
  split at member
  · rw [List.mem_singleton.mp member]
    assumption
  · simp only [List.mem_cons, List.not_mem_nil, or_false] at member
    omega

/-! ## Hexadecimal digits -/

theorem hexValue_hexDigit {digit : Nat} (bound : digit < 16) : hexValue? (hexDigit digit) = some digit := by
  have table : ∀ digit < 16, hexValue? (hexDigit digit) = some digit := by decide
  exact table digit bound

theorem writeHex_four (unit : Nat) :
    writeHex 4 unit = [hexDigit (unit / 4096 % 16), hexDigit (unit / 256 % 16), hexDigit (unit / 16 % 16),
      hexDigit (unit % 16)] := by
  simp [writeHex, Nat.div_div_eq_div_mul]

theorem readHex_writeHex {unit : Nat} (bound : unit < 0x10000) : readHex? (writeHex 4 unit) = some unit := by
  rw [writeHex_four]
  have first := hexValue_hexDigit (show unit / 4096 % 16 < 16 by omega)
  have second := hexValue_hexDigit (show unit / 256 % 16 < 16 by omega)
  have third := hexValue_hexDigit (show unit / 16 % 16 < 16 by omega)
  have fourth := hexValue_hexDigit (show unit % 16 < 16 by omega)
  simp only [readHex?, List.foldlM_cons, List.foldlM_nil, first, second, third, fourth, Option.map_some, bind,
    Option.bind_some, pure, Option.some.injEq]
  omega

end Text

namespace Json

/-- Writing the units of a text from a place on leaves them in front of what is read later. -/
def withUnits (units : List Nat) (later : Reading (List Nat)) : Reading (List Nat) :=
  later.map fun (others, rest) => (units ++ others, rest)

theorem readUnits_escapeUnit {unit : Nat} (bound : unit < 0x10000) (rest : Text) :
    readUnits (escapeUnit unit ++ rest) = withUnits [unit] (readUnits rest) := by
  have read := Text.readHex_writeHex bound
  rw [Text.writeHex_four] at read
  simp only [escapeUnit, Text.writeHex_four, List.cons_append, List.nil_append]
  rw [readUnits, read]
  rfl

theorem readUnits_escapeUnits {units : List Nat} (bound : ∀ unit ∈ units, unit < 0x10000) (rest : Text) :
    readUnits (units.flatMap escapeUnit ++ rest) = withUnits units (readUnits rest) := by
  induction units with
  | nil =>
    cases later : readUnits rest <;> simp [withUnits, later, Except.map]
  | cons unit others ih =>
    obtain ⟨own, after⟩ := List.forall_mem_cons.mp bound
    rw [List.flatMap_cons, List.append_assoc, readUnits_escapeUnit own, ih after]
    cases readUnits rest <;> rfl

theorem readUnits_simple {char : Char} {unit : Nat} (escape : simpleEscape? char = some unit) (rest : Text) :
    readUnits ('\\' :: char :: rest) = withUnits [unit] (readUnits rest) := by
  have notUnit : char ≠ 'u' := by
    rintro rfl
    cases escape
  rw [readUnits]
  · rw [escape]
    rfl
  · intro a b c d others equal
    exact absurd equal notUnit

theorem readUnits_plain {char : Char} (noQuote : char ≠ '"') (noEscape : char ≠ '\\') (visible : ¬char < ' ')
    (rest : Text) : readUnits (char :: rest) = withUnits [char.toNat] (readUnits rest) := by
  rw [readUnits]
  · rw [if_neg visible]
    rfl
  · exact noQuote
  · intro _ _ _ _ _ equal
    exact absurd equal noEscape
  · intro _ _ equal
    exact absurd equal noEscape

theorem readUnits_writeChar (char : Char) (rest : Text) :
    readUnits (writeChar char ++ rest) = withUnits (Text.codeUnits char) (readUnits rest) := by
  unfold writeChar
  split
  next mark =>
    rcases mark with rfl | rfl
    · exact readUnits_simple rfl rest
    · exact readUnits_simple rfl rest
  next unmarked =>
    split
    next equal =>
      subst equal
      exact readUnits_simple rfl rest
    split
    next equal =>
      subst equal
      exact readUnits_simple rfl rest
    split
    next equal =>
      subst equal
      exact readUnits_simple rfl rest
    split
    next equal =>
      subst equal
      exact readUnits_simple rfl rest
    split
    next equal =>
      subst equal
      exact readUnits_simple rfl rest
    split
    next printable =>
      obtain ⟨noQuote, noEscape⟩ := not_or.mp unmarked
      have inPlane : char.toNat < 0x10000 := by
        have bound : char.toNat ≤ 126 := printable.2
        omega
      rw [Text.codeUnits, if_pos inPlane]
      exact readUnits_plain noQuote noEscape (Char.not_lt.mpr printable.1) rest
    next => exact readUnits_escapeUnits (fun _ => Text.lt_of_mem_codeUnits) rest

theorem readUnits_flatMap (text rest : Text) :
    readUnits (text.flatMap writeChar ++ rest) = withUnits (text.flatMap Text.codeUnits) (readUnits rest) := by
  induction text with
  | nil => cases later : readUnits rest <;> simp [withUnits, later, Except.map]
  | cons char others ih =>
    rw [List.flatMap_cons, List.append_assoc, readUnits_writeChar, ih]
    cases readUnits rest <;> simp [withUnits, Except.map]

theorem readText_writeText (text rest : Text) :
    readText (text.flatMap writeChar ++ '"' :: rest) = .ok (text, rest) := by
  rw [readText, readUnits_flatMap, readUnits]
  simp [withUnits, Except.map, Text.ofCodes_flatMap]

theorem writeText_append (text rest : Text) :
    writeText text ++ rest = '"' :: (text.flatMap writeChar ++ '"' :: rest) := by
  simp [writeText]

/-! ## Printable characters -/

def Printable (text : Text) : Prop :=
  ∀ char ∈ text, 32 ≤ char.toNat ∧ char.toNat ≤ 126

instance (text : Text) : Decidable (Printable text) :=
  decidable_of_iff ((text.all fun char => 32 ≤ char.toNat && char.toNat ≤ 126) = true)
    (by simp [Printable, List.all_eq_true])

theorem Printable.append {text others : Text} (first : Printable text) (second : Printable others) :
    Printable (text ++ others) :=
  fun char member => (List.mem_append.mp member).elim (first char) (second char)

theorem printable_nil : Printable [] :=
  fun _ member => absurd member List.not_mem_nil

theorem printable_cons {char : Char} {text : Text} :
    Printable (char :: text) ↔ (32 ≤ char.toNat ∧ char.toNat ≤ 126) ∧ Printable text :=
  List.forall_mem_cons

theorem printable_escapeUnit (unit : Nat) : Printable (escapeUnit unit) := by
  have table : ∀ digit < 16, 32 ≤ (Text.hexDigit digit).toNat ∧ (Text.hexDigit digit).toNat ≤ 126 := by decide
  have digit (number : Nat) := table (number % 16) (Nat.mod_lt _ (by decide))
  simp only [escapeUnit, Text.writeHex_four, printable_cons, digit, printable_nil, and_true]
  decide

theorem printable_writeChar (char : Char) : Printable (writeChar char) := by
  unfold writeChar
  split
  next mark => rcases mark with rfl | rfl <;> simp only [printable_cons, printable_nil, and_true] <;> decide
  next unmarked =>
    have escaped {other : Char} (visible : 32 ≤ other.toNat ∧ other.toNat ≤ 126) : Printable ['\\', other] := by
      simp only [printable_cons, visible, printable_nil, and_true]
      decide
    iterate 5
      split
      · exact escaped (by decide)
    split
    next printable => exact printable_cons.mpr ⟨⟨printable.1, printable.2⟩, printable_nil⟩
    next =>
      intro other member
      obtain ⟨unit, _, own⟩ := List.mem_flatMap.mp member
      exact printable_escapeUnit unit other own

theorem printable_writeText (text : Text) : Printable (writeText text) := by
  refine printable_cons.mpr ⟨by decide, Printable.append (fun char member => ?_) ?_⟩
  · obtain ⟨source, _, own⟩ := List.mem_flatMap.mp member
    exact printable_writeChar source char own
  · exact printable_cons.mpr ⟨by decide, printable_nil⟩

end Json

end Worksheet
