import Worksheet.Proofs.Number.Whole

/-! The texts that are numbers as a grammar: digits with at most one point among them, a sign before them if there is
one, an exponent behind them if there is one, and white space around. A number is read from these texts and from no
others. -/

namespace Worksheet

namespace Literal

/-! ## The grammar -/

def IsSign (text : Text) : Prop :=
  text = [] ∨ text = ['+'] ∨ text = ['-']

/-- The point may stand at either end, but not alone. -/
inductive IsMantissa : Text → Prop
  | whole {digits : Text} (nonempty : digits ≠ []) (allDigits : ∀ char ∈ digits, Text.isDigit char = true) :
    IsMantissa digits
  | pointed {digits places : Text} (nonempty : digits ++ places ≠ [])
    (allDigits : ∀ char ∈ digits ++ places, Text.isDigit char = true) : IsMantissa (digits ++ '.' :: places)

inductive IsExponent : Text → Prop
  | absent : IsExponent []
  | present {mark : Char} {sign digits : Text} (marked : mark = 'e' ∨ mark = 'E') (isSign : IsSign sign)
    (nonempty : digits ≠ []) (allDigits : ∀ char ∈ digits, Text.isDigit char = true) :
    IsExponent (mark :: (sign ++ digits))

variable {text rest digits places sign mantissa exponent : Text}

/-! ## What is read -/

theorem exists_of_readSign {negative : Bool} (read : readSign text = (negative, rest)) :
    ∃ sign, IsSign sign ∧ text = sign ++ rest := by
  unfold readSign at read
  split at read
  · cases read
    exact ⟨['-'], Or.inr (Or.inr rfl), rfl⟩
  · cases read
    exact ⟨['+'], Or.inr (Or.inl rfl), rfl⟩
  · cases read
    exact ⟨[], Or.inl rfl, rfl⟩

theorem readSign_append {first : Char} (isSign : IsSign sign) (noSign : first ≠ '+' ∧ first ≠ '-') (rest : Text) :
    ∃ negative, readSign (sign ++ first :: rest) = (negative, first :: rest) := by
  rcases isSign with rfl | rfl | rfl
  · refine ⟨false, ?_⟩
    rw [List.nil_append]
    unfold readSign
    split
    next same => exact absurd (List.cons.inj same).1 noSign.2
    next same => exact absurd (List.cons.inj same).1 noSign.1
    next => rfl
  · exact ⟨false, rfl⟩
  · exact ⟨true, rfl⟩

theorem of_readDigits (read : readDigits text = (digits, rest)) :
    (∀ char ∈ digits, Text.isDigit char = true) ∧ text = digits ++ rest := by
  cases read
  exact ⟨fun _ => List.mem_takeWhile_imp, List.takeWhile_append_dropWhile.symm⟩

theorem exists_of_readMantissa {whole : Text} {fraction : Option Text}
    (read : readMantissa text = some (whole, fraction, rest)) : ∃ mantissa, IsMantissa mantissa ∧ text = mantissa ++ rest := by
  obtain ⟨digits, later, scanned⟩ : ∃ digits later, readDigits text = (digits, later) := ⟨_, _, rfl⟩
  obtain ⟨allDigits, parts⟩ := of_readDigits scanned
  unfold readMantissa at read
  simp only [scanned] at read
  split at read
  next behind =>
    obtain ⟨places, tail, scannedPlaces⟩ : ∃ places tail, readDigits behind = (places, tail) := ⟨_, _, rfl⟩
    obtain ⟨allPlaces, partsBehind⟩ := of_readDigits scannedPlaces
    simp only [scannedPlaces] at read
    split at read
    · cases read
    next some =>
      cases read
      refine ⟨[] ++ '.' :: places, .pointed (by simpa using some) allPlaces, ?_⟩
      rw [parts, partsBehind, List.append_assoc, List.cons_append]
  next => cases read
  next first others behind =>
    obtain ⟨places, tail, scannedPlaces⟩ : ∃ places tail, readDigits behind = (places, tail) := ⟨_, _, rfl⟩
    obtain ⟨allPlaces, partsBehind⟩ := of_readDigits scannedPlaces
    simp only [scannedPlaces] at read
    cases read
    refine ⟨first :: others ++ '.' :: places, .pointed (by simp) ?_, ?_⟩
    · exact List.forall_mem_append.mpr ⟨allDigits, allPlaces⟩
    · rw [parts, partsBehind, List.append_assoc]
      rfl
  next =>
    cases read
    exact ⟨_, .whole (List.cons_ne_nil _ _) allDigits, parts⟩

theorem readMantissa_of_isMantissa (isMantissa : IsMantissa mantissa)
    (stops : ∀ char ∈ rest.head?, Text.isDigit char = false ∧ char ≠ '.') :
    ∃ whole fraction, readMantissa (mantissa ++ rest) = some (whole, fraction, rest) := by
  cases isMantissa with
  | whole nonempty allDigits => exact ⟨_, _, readMantissa_append nonempty allDigits stops⟩
  | @pointed digits places nonempty allDigits =>
    obtain ⟨allWhole, allPlaces⟩ := List.forall_mem_append.mp allDigits
    have scanned : readDigits (digits ++ '.' :: (places ++ rest)) = (digits, '.' :: (places ++ rest)) := by
      refine readDigits_append allWhole ?_
      rintro char ⟨⟩
      decide
    have scannedPlaces := readDigits_append allPlaces fun char member => (stops char member).1
    refine ⟨digits, some places, ?_⟩
    rw [List.append_assoc, List.cons_append]
    cases digits with
    | nil =>
      have some : ¬places.isEmpty = true := by simpa using nonempty
      simp only [readMantissa, scanned, scannedPlaces, if_neg some]
    | cons first others => simp only [readMantissa, scanned, scannedPlaces]

theorem isExponent_of_readExponent {part : Option (Bool × Text)} (read : readExponent text = (part, [])) :
    IsExponent text := by
  unfold readExponent at read
  split at read
  next => exact .absent
  next mark rest =>
    split at read
    next marked =>
      obtain ⟨negative, unsigned, signed⟩ : ∃ negative unsigned, readSign rest = (negative, unsigned) := ⟨_, _, rfl⟩
      obtain ⟨digits, tail, scanned⟩ : ∃ digits tail, readDigits unsigned = (digits, tail) := ⟨_, _, rfl⟩
      simp only [signed, scanned] at read
      split at read
      · cases read
      next some =>
        cases read
        obtain ⟨sign, isSign, rfl⟩ := exists_of_readSign signed
        obtain ⟨allDigits, rfl⟩ := of_readDigits scanned
        rw [List.append_nil]
        exact .present marked isSign (by simpa using some) allDigits
    next => cases read

theorem ne_sign_of_isDigit {char : Char} (digit : Text.isDigit char = true) : char ≠ '+' ∧ char ≠ '-' := by
  constructor
  · rintro rfl
    exact absurd digit (by decide)
  · rintro rfl
    exact absurd digit (by decide)

theorem readExponent_of_isExponent (isExponent : IsExponent text) : ∃ part, readExponent text = (part, []) := by
  cases isExponent with
  | absent => exact ⟨none, rfl⟩
  | @present mark sign digits marked isSign nonempty allDigits =>
    obtain ⟨first, later, rfl⟩ := List.exists_cons_of_ne_nil nonempty
    have noSign := ne_sign_of_isDigit (allDigits first List.mem_cons_self)
    obtain ⟨negative, signed⟩ := readSign_append isSign noSign later
    have scanned : readDigits (first :: later) = (first :: later, []) := by
      have whole : readDigits (first :: later ++ []) = (first :: later, []) := readDigits_append allDigits nofun
      rwa [List.append_nil] at whole
    refine ⟨some (negative, first :: later), ?_⟩
    simp [readExponent, marked, signed, scanned]

theorem exists_readSign_append (isSign : IsSign sign) (isMantissa : IsMantissa mantissa) (rest : Text) :
    ∃ negative, readSign (sign ++ (mantissa ++ rest)) = (negative, mantissa ++ rest) := by
  cases isMantissa with
  | whole nonempty allDigits =>
    obtain ⟨first, later, rfl⟩ := List.exists_cons_of_ne_nil nonempty
    exact readSign_append isSign (ne_sign_of_isDigit (allDigits first List.mem_cons_self)) (later ++ rest)
  | @pointed digits places _ allDigits =>
    cases digits with
    | nil => exact readSign_append isSign (by decide) (places ++ rest)
    | cons first later =>
      exact readSign_append isSign (ne_sign_of_isDigit (allDigits first (by simp))) (later ++ '.' :: places ++ rest)

theorem stops_of_mark {mark : Char} (marked : mark = 'e' ∨ mark = 'E') (rest : Text) :
    ∀ char ∈ (mark :: rest).head?, Text.isDigit char = false ∧ char ≠ '.' := by
  rintro char ⟨⟩
  rcases marked with rfl | rfl
  · decide
  · decide

/-! ## The texts that are literals -/

theorem exists_read_iff : (∃ literal, read text = some (literal, [])) ↔
    ∃ sign mantissa exponent, IsSign sign ∧ IsMantissa mantissa ∧ IsExponent exponent ∧
      text = sign ++ (mantissa ++ exponent) := by
  constructor
  · rintro ⟨literal, found⟩
    obtain ⟨negative, unsigned, signed⟩ : ∃ negative unsigned, readSign text = (negative, unsigned) := ⟨_, _, rfl⟩
    obtain ⟨sign, isSign, rfl⟩ := exists_of_readSign signed
    simp only [read, signed] at found
    split at found
    next => cases found
    next whole fraction rest scanned =>
      obtain ⟨part, last, ended⟩ : ∃ part last, readExponent rest = (part, last) := ⟨_, _, rfl⟩
      rw [ended] at found
      cases found
      obtain ⟨mantissa, isMantissa, rfl⟩ := exists_of_readMantissa scanned
      exact ⟨sign, mantissa, rest, isSign, isMantissa, isExponent_of_readExponent ended, rfl⟩
  · rintro ⟨sign, mantissa, exponent, isSign, isMantissa, isExponent, rfl⟩
    have stops : ∀ char ∈ exponent.head?, Text.isDigit char = false ∧ char ≠ '.' := by
      cases isExponent with
      | absent => rintro char ⟨⟩
      | present marked _ _ _ => exact stops_of_mark marked _
    obtain ⟨negative, signed⟩ := exists_readSign_append isSign isMantissa exponent
    obtain ⟨whole, fraction, scanned⟩ := readMantissa_of_isMantissa isMantissa stops
    obtain ⟨part, ended⟩ := readExponent_of_isExponent isExponent
    refine ⟨⟨negative, whole, fraction, part⟩, ?_⟩
    simp only [read, signed, scanned, ended]

end Literal

namespace Text

open Literal in
def IsNumeral (text : Text) : Prop :=
  ∃ sign mantissa exponent, IsSign sign ∧ IsMantissa mantissa ∧ IsExponent exponent ∧
    strip text = sign ++ (mantissa ++ exponent)

theorem any_read_iff {text : Text} :
    ((Literal.read (strip text)).any fun found => found.2.isEmpty) = true ↔ IsNumeral text := by
  rw [IsNumeral, ← Literal.exists_read_iff, Option.any_eq_true]
  constructor
  · rintro ⟨⟨literal, rest⟩, found, ended⟩
    obtain rfl := List.isEmpty_iff.mp ended
    exact ⟨literal, found⟩
  · rintro ⟨literal, found⟩
    exact ⟨_, found, rfl⟩

instance (text : Text) : Decidable (IsNumeral text) :=
  decidable_of_iff _ any_read_iff

end Text

theorem Number.readWhole_eq_none_iff {text : Text} : readWhole text = .ok none ↔ ¬Text.IsNumeral text := by
  rw [Text.IsNumeral, ← Literal.exists_read_iff, readWhole]
  split
  next literal found =>
    refine iff_of_false (fun same => ?_) fun none => none ⟨literal, found⟩
    obtain ⟨number, _, absurdity⟩ := bind_eq_ok.mp same
    cases absurdity
  next none =>
    refine iff_of_true rfl ?_
    rintro ⟨literal, found⟩
    exact none literal found

end Worksheet
