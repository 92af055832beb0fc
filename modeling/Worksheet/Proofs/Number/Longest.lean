import Worksheet.Proofs.Formula.Literal
import Worksheet.Proofs.Number.Numeral
import Worksheet.Value.Coercion

/-! The number that a text begins with. It is read from the longest beginning of the text that is a number as a whole:
each reader takes as much as it can, and what it took is read in the same way when it stands alone. So a text that is
a number as a whole is the same number wherever a number is asked for. -/

namespace Worksheet

namespace Literal

variable {text before rest digits whole sign mantissa exponent : Text} {negative : Bool} {fraction : Option Text}
  {literal : Literal}

/-! ## What was read, alone -/

theorem readSign_alone (nonempty : before ≠ []) (signed : readSign text = (negative, before ++ rest)) :
    ∃ part, text = part ++ rest ∧ readSign part = (negative, before) := by
  unfold readSign at signed
  split at signed
  next later =>
    obtain ⟨rfl, rfl⟩ := Prod.mk.inj signed
    exact ⟨'-' :: before, rfl, rfl⟩
  next later =>
    obtain ⟨rfl, rfl⟩ := Prod.mk.inj signed
    exact ⟨'+' :: before, rfl, rfl⟩
  next noMinus noPlus =>
    obtain ⟨rfl, rfl⟩ := Prod.mk.inj signed
    refine ⟨before, rfl, ?_⟩
    unfold readSign
    split
    next later => exact absurd rfl (noMinus (later ++ rest))
    next later => exact absurd rfl (noPlus (later ++ rest))
    next => rfl

theorem readDigits_alone (scanned : readDigits text = (digits, before ++ rest)) :
    ∃ part, text = part ++ rest ∧ readDigits part = (digits, before) := by
  obtain ⟨allDigits, parts⟩ := of_readDigits scanned
  refine ⟨digits ++ before, by rw [parts, List.append_assoc], readDigits_append allDigits fun char first => ?_⟩
  have begins : (text.dropWhile Text.isDigit).head? = some char := by
    rw [(Prod.mk.inj scanned).2, List.head?_append_of_ne_nil _ (List.ne_nil_of_mem (List.mem_of_mem_head? first))]
    exact first
  have stops := List.head?_dropWhile_not Text.isDigit text
  rw [begins] at stops
  simpa using stops

theorem readMantissa_alone (scanned : readMantissa text = some (whole, fraction, before ++ rest)) :
    ∃ part, text = part ++ rest ∧ readMantissa part = some (whole, fraction, before) := by
  obtain ⟨digits, later, first⟩ : ∃ digits later, readDigits text = (digits, later) := ⟨_, _, rfl⟩
  unfold readMantissa at scanned
  simp only [first] at scanned
  split at scanned
  next behind =>
    obtain ⟨places, tail, second⟩ : ∃ places tail, readDigits behind = (places, tail) := ⟨_, _, rfl⟩
    simp only [second] at scanned
    split at scanned
    · cases scanned
    next some =>
      cases scanned
      obtain ⟨behindPart, rfl, ownPlaces⟩ := readDigits_alone second
      obtain ⟨part, rfl, own⟩ := readDigits_alone (show readDigits text = (_, ('.' :: behindPart) ++ _) from first)
      exact ⟨part, rfl, by simp only [readMantissa, own, ownPlaces, if_neg some]⟩
  next => cases scanned
  next behind =>
    obtain ⟨places, tail, second⟩ : ∃ places tail, readDigits behind = (places, tail) := ⟨_, _, rfl⟩
    simp only [second] at scanned
    cases scanned
    obtain ⟨behindPart, rfl, ownPlaces⟩ := readDigits_alone second
    obtain ⟨part, rfl, own⟩ := readDigits_alone (show readDigits text = (_, ('.' :: behindPart) ++ _) from first)
    exact ⟨part, rfl, by simp only [readMantissa, own, ownPlaces]⟩
  next noPoint =>
    cases scanned
    obtain ⟨part, rfl, own⟩ := readDigits_alone first
    refine ⟨part, rfl, ?_⟩
    simp only [readMantissa, own]
    cases before with
    | nil => rfl
    | cons char others =>
      split
      next empty _ => cases empty
      next empty _ => cases empty
      next same => exact (noPoint _ (congrArg (· ++ rest) same)).elim
      next => rfl

theorem readExponent_alone {part : Option (Bool × Text)} (ended : readExponent text = (part, rest)) :
    ∃ exponent, text = exponent ++ rest ∧ readExponent exponent = (part, []) := by
  unfold readExponent at ended
  split at ended
  next =>
    cases ended
    exact ⟨[], rfl, rfl⟩
  next mark later =>
    split at ended
    next marked =>
      obtain ⟨minus, unsigned, signed⟩ : ∃ minus unsigned, readSign later = (minus, unsigned) := ⟨_, _, rfl⟩
      obtain ⟨digits, tail, scanned⟩ : ∃ digits tail, readDigits unsigned = (digits, tail) := ⟨_, _, rfl⟩
      simp only [signed, scanned] at ended
      split at ended
      · cases ended
        exact ⟨[], rfl, rfl⟩
      next some =>
        cases ended
        obtain ⟨digitPart, rfl, ownDigits⟩ := readDigits_alone (show readDigits unsigned = (_, [] ++ _) from scanned)
        have nonempty : digitPart ≠ [] := by
          rintro rfl
          cases ownDigits
          exact some rfl
        obtain ⟨signedPart, rfl, own⟩ := readSign_alone nonempty signed
        exact ⟨mark :: signedPart, rfl, by simp only [readExponent, if_pos marked, own, ownDigits, if_neg some]⟩
    next =>
      cases ended
      exact ⟨[], rfl, rfl⟩

theorem read_alone (found : read text = some (literal, rest)) :
    ∃ part, text = part ++ rest ∧ read part = some (literal, []) := by
  obtain ⟨negative, unsigned, signed⟩ : ∃ negative unsigned, readSign text = (negative, unsigned) := ⟨_, _, rfl⟩
  simp only [read, signed] at found
  split at found
  next => cases found
  next whole fraction behind scanned =>
    obtain ⟨part, last, ended⟩ : ∃ part last, readExponent behind = (part, last) := ⟨_, _, rfl⟩
    rw [ended] at found
    cases found
    obtain ⟨exponent, rfl, ownExponent⟩ := readExponent_alone ended
    obtain ⟨mantissa, rfl, ownMantissa⟩ := readMantissa_alone scanned
    have nonempty : mantissa ≠ [] := by
      rintro rfl
      cases ownMantissa
    obtain ⟨whole, rfl, own⟩ := readSign_alone nonempty signed
    exact ⟨whole, rfl, by simp only [read, own, ownMantissa, ownExponent]⟩

/-! ## How much is read -/

theorem readDigits_isSuffix (text : Text) : (readDigits text).2 <:+ text :=
  List.dropWhile_suffix _

theorem readExponent_isSuffix (text : Text) : (readExponent text).2 <:+ text := by
  obtain ⟨part, rest, ended⟩ : ∃ part rest, readExponent text = (part, rest) := ⟨_, _, rfl⟩
  obtain ⟨exponent, rfl, _⟩ := readExponent_alone ended
  rw [ended]
  exact List.suffix_append exponent rest

theorem readDigits_of_digits (allDigits : ∀ char ∈ digits, Text.isDigit char = true) (rest : Text) :
    readDigits (digits ++ rest) = (digits ++ (readDigits rest).1, (readDigits rest).2) := by
  rw [readDigits, readDigits, List.takeWhile_append_of_pos allDigits, List.dropWhile_append_of_pos allDigits]

theorem exists_readMantissa_append (isMantissa : IsMantissa mantissa) (rest : Text) :
    ∃ whole fraction after, readMantissa (mantissa ++ rest) = some (whole, fraction, after) ∧ after <:+ rest := by
  have suffix := readDigits_isSuffix rest
  cases isMantissa with
  | whole nonempty allDigits =>
    obtain ⟨first, others, rfl⟩ := List.exists_cons_of_ne_nil nonempty
    have scanned := readDigits_of_digits allDigits rest
    rw [List.cons_append] at scanned
    simp only [readMantissa, List.cons_append, scanned]
    split
    next empty _ => cases empty
    next empty _ => cases empty
    next behind _ point =>
      rw [point] at suffix
      exact ⟨_, _, _, rfl, (readDigits_isSuffix behind).trans ((List.suffix_cons _ _).trans suffix)⟩
    next => exact ⟨_, _, _, rfl, suffix⟩
  | @pointed digits places nonempty allDigits =>
    obtain ⟨allWhole, allPlaces⟩ := List.forall_mem_append.mp allDigits
    have scanned : readDigits (digits ++ '.' :: (places ++ rest)) = (digits, '.' :: (places ++ rest)) := by
      refine readDigits_append allWhole ?_
      rintro char ⟨⟩
      decide
    have scannedPlaces := readDigits_of_digits allPlaces rest
    refine ⟨digits, some (places ++ (readDigits rest).1), (readDigits rest).2, ?_, suffix⟩
    rw [List.append_assoc, List.cons_append]
    cases digits with
    | nil =>
      have some : ¬(places ++ (readDigits rest).1).isEmpty = true := by
        simpa using fun empty => absurd empty nonempty
      simp only [readMantissa, scanned, scannedPlaces, if_neg some]
    | cons first others => simp only [readMantissa, scanned, scannedPlaces]

theorem exists_readExponent_append {mark : Char} (marked : mark = 'e' ∨ mark = 'E') (isSign : IsSign sign)
    (nonempty : digits ≠ []) (allDigits : ∀ char ∈ digits, Text.isDigit char = true) (rest : Text) :
    (readExponent (mark :: (sign ++ digits) ++ rest)).2 <:+ rest := by
  obtain ⟨first, others, rfl⟩ := List.exists_cons_of_ne_nil nonempty
  have noSign := ne_sign_of_isDigit (allDigits first List.mem_cons_self)
  obtain ⟨negative, signed⟩ := readSign_append isSign noSign (others ++ rest)
  have scanned := readDigits_of_digits allDigits rest
  rw [List.cons_append] at scanned
  have some : ¬(first :: others ++ (readDigits rest).1).isEmpty = true := by simp
  rw [List.cons_append, List.append_assoc, List.cons_append]
  simp only [readExponent, if_pos marked, signed, scanned, if_neg some]
  exact readDigits_isSuffix rest

/-- Of a text that begins with a number, the literal at its start takes up at least this number. -/
theorem exists_read_append (own : ∃ literal, read text = some (literal, [])) (rest : Text) :
    ∃ literal after, read (text ++ rest) = some (literal, after) ∧ after <:+ rest := by
  obtain ⟨sign, mantissa, exponent, isSign, isMantissa, isExponent, rfl⟩ := exists_read_iff.mp own
  obtain ⟨negative, signed⟩ := exists_readSign_append isSign isMantissa (exponent ++ rest)
  rw [List.append_assoc, List.append_assoc]
  simp only [read, signed]
  cases isExponent with
  | absent =>
    obtain ⟨whole, fraction, after, scanned, suffix⟩ := exists_readMantissa_append isMantissa rest
    rw [List.nil_append, scanned]
    exact ⟨_, _, rfl, (readExponent_isSuffix after).trans suffix⟩
  | @present mark sign digits marked isSign nonempty allDigits =>
    obtain ⟨whole, fraction, scanned⟩ :=
      readMantissa_of_isMantissa isMantissa (stops_of_mark marked (sign ++ digits ++ rest))
    rw [← List.cons_append] at scanned
    rw [scanned]
    exact ⟨_, _, rfl, exists_readExponent_append marked isSign nonempty allDigits rest⟩

theorem not_isBlank_of_isPart {char : Char} (part : isPart char = true) : Text.isBlank char = false := by
  simp only [isPart, Bool.or_eq_true, beq_iff_eq] at part
  rcases part with ((((digit | rfl) | rfl) | rfl) | rfl) | rfl
  · exact Text.not_isBlank_of_isDigit digit
  · decide
  · decide
  · decide
  · decide
  · decide

theorem eq_nil_of_blank {more : Text} (own : read (text ++ more) = some (literal, [])) (blank : Text.Blank more) :
    more = [] := by
  refine List.eq_nil_iff_forall_not_mem.mpr fun char member => ?_
  have visible := not_isBlank_of_isPart (made_of_read own char (List.mem_append_right text member))
  rw [blank char member] at visible
  cases visible

theorem read_append_blank (own : read text = some (literal, [])) {tail : Text} (blank : Text.Blank tail) :
    read (text ++ tail) = some (literal, tail) := by
  obtain ⟨other, after, found, ⟨more, rfl⟩⟩ := exists_read_append ⟨literal, own⟩ tail
  obtain ⟨part, parts, alone⟩ := read_alone found
  obtain rfl : text ++ more = part := by
    rw [← List.append_assoc] at parts
    exact List.append_cancel_right parts
  obtain rfl := eq_nil_of_blank alone (List.forall_mem_append.mp blank).1
  rw [List.append_nil, own] at alone
  cases alone
  exact found

theorem not_infinity_of_read (found : read text = some (literal, rest)) :
    ¬Number.infinityWord.isPrefixOf (readSign text).2 = true := by
  intro infinite
  obtain ⟨later, word⟩ := List.isPrefixOf_iff_prefix.mp infinite
  simp only [read, ← word] at found
  cases found

end Literal

namespace Text

def IsRead (text : Text) : Prop :=
  ∃ number, Number.readWhole text = .ok (some number)

variable {text part : Text}

theorem exists_strip_of_prefix (begins : part <+: stripLeft text) : ∃ tail, Blank tail ∧ part = strip part ++ tail := by
  obtain ⟨lead, tail, blankLead, blankTail, parts⟩ := exists_strip part
  cases lead with
  | nil => exact ⟨tail, blankTail, parts⟩
  | cons first others =>
    obtain ⟨rest, whole⟩ := begins
    have visible := List.head?_dropWhile_not isBlank text
    rw [show text.dropWhile isBlank = stripLeft text from rfl, ← whole, parts] at visible
    have blank := blankLead first List.mem_cons_self
    simp [blank] at visible

end Text

theorem Literal.exists_read_stripLeft {text : Text} {literal : Literal}
    (own : read (Text.strip text) = some (literal, [])) :
    ∃ tail, read (Text.stripLeft text) = some (literal, tail) := by
  obtain ⟨tail, blank, same⟩ := Text.exists_strip_of_prefix (List.prefix_refl (Text.stripLeft text))
  rw [Text.strip_stripLeft] at same
  rw [same]
  exact ⟨tail, read_append_blank own blank⟩

namespace Number

variable {text rest : Text} {literal : Literal} {number : Number}

theorem readPrefix_of_read (found : Literal.read (Text.stripLeft text) = some (literal, rest)) :
    readPrefix text = literal.value.map some := by
  simp only [readPrefix, if_neg (Literal.not_infinity_of_read found), found]

theorem readPrefix_infinity {sign : Text} (isSign : Literal.IsSign sign)
    (begins : Text.stripLeft text = sign ++ (infinityWord ++ rest)) :
    readPrefix text = .ok (some (.double (if sign = ['-'] then negativeInfinity else Double.infinity))) := by
  simp only [readPrefix, begins]
  rcases isSign with rfl | rfl | rfl
  · rfl
  · rfl
  · rfl

theorem readPrefix_of_unread (unread : Literal.read (Text.stripLeft text) = none)
    (finite : ∀ sign rest, Literal.IsSign sign → Text.stripLeft text ≠ sign ++ (infinityWord ++ rest)) :
    readPrefix text = .ok none := by
  obtain ⟨negative, unsigned, signed⟩ : ∃ negative unsigned, Literal.readSign (Text.stripLeft text) = (negative, unsigned) :=
    ⟨_, _, rfl⟩
  obtain ⟨sign, isSign, parts⟩ := Literal.exists_of_readSign signed
  have noWord : ¬infinityWord.isPrefixOf unsigned = true := by
    intro infinite
    obtain ⟨rest, word⟩ := List.isPrefixOf_iff_prefix.mp infinite
    exact finite sign rest isSign (by rw [parts, word])
  simp only [readPrefix, signed, if_neg noWord, unread]

theorem exists_value (found : Literal.read text = some (literal, []))
    (short : ∀ digits, digits <:+: text → (∀ char ∈ digits, Text.isDigit char = true) → digits.length ≤ Text.digitLimit) :
    ∃ number, literal.value = .ok number := by
  obtain ⟨negative, whole, fraction, exponent⟩ := literal
  cases fraction with
  | some fraction => exact ⟨_, rfl⟩
  | none =>
    cases exponent with
    | some exponent => exact ⟨_, rfl⟩
    | none =>
      have isWhole := Literal.read_eq_whole.mp found
      have inside : whole <:+: text := by
        cases isWhole with
        | unsigned => exact List.infix_rfl
        | plus => exact (List.suffix_cons _ _).isInfix
        | minus => exact (List.suffix_cons _ _).isInfix
      have few := short whole inside isWhole.readSign.2.2
      exact ⟨_, by rw [value_whole, if_neg (Nat.not_lt.mpr few)]⟩

theorem exists_read_of_isRead {part : Text} (read : part.IsRead) :
    ∃ literal, Literal.read (Text.strip part) = some (literal, []) := by
  obtain ⟨number, whole⟩ := read
  obtain ⟨literal, found, _⟩ := read_of_readWhole whole
  exact ⟨literal, found⟩

theorem length_le_of_isRead {part taken : Text} (begins : part <+: Text.stripLeft text) (read : part.IsRead)
    (parts : Text.stripLeft text = taken ++ rest) (own : Literal.read taken = some (literal, []))
    (whole : Literal.read (Text.stripLeft text) = some (literal, rest)) :
    part.length ≤ (taken ++ rest.takeWhile Text.isBlank).length := by
  obtain ⟨tail, blank, same⟩ := Text.exists_strip_of_prefix begins
  obtain ⟨behind, split⟩ := begins
  have visible : Text.stripLeft text = Text.strip part ++ (tail ++ behind) := by
    rw [← List.append_assoc, ← same, split]
  obtain ⟨other, after, found, ⟨more, further⟩⟩ := Literal.exists_read_append (exists_read_of_isRead read) (tail ++ behind)
  rw [← visible, whole] at found
  cases found
  have joined : taken ++ rest = Text.strip part ++ more ++ rest := by
    rw [← parts, visible, ← further, List.append_assoc]
  obtain rfl : taken = Text.strip part ++ more := List.append_cancel_right joined
  have lengths := congrArg List.length same
  rcases List.append_eq_append_iff.mp further with ⟨between, rfl, rfl⟩ | ⟨between, rfl, _⟩
  · -- The literal ends in the white space behind the part, and so it ends with the part.
    obtain ⟨blankMore, blankBetween⟩ := List.forall_mem_append.mp blank
    obtain rfl := Literal.eq_nil_of_blank own blankMore
    rw [List.takeWhile_append_of_pos blankBetween]
    simp only [List.nil_append, List.append_nil, List.length_append] at lengths ⊢
    omega
  · simp only [List.length_append] at lengths ⊢
    omega

theorem readWhole_strip (text : Text) : readWhole (Text.strip text) = readWhole text := by
  rw [readWhole, Text.strip_strip, readWhole]

theorem operand_of_readWhole (read : readWhole text = .ok (some number)) :
    (Value.text text).toOperand = .ok number := by
  obtain ⟨literal, found, _⟩ := read_of_readWhole read
  have nonempty : ¬(Text.strip text).isEmpty = true := by
    intro empty
    rw [List.isEmpty_iff.mp empty] at found
    cases found
  have finite : Value.signedInfinity? (Text.strip text) = none := by
    refine if_neg fun word => Literal.not_infinity_of_read found ?_
    exact List.isPrefixOf_iff_prefix.mpr (word ▸ List.prefix_rfl)
  simp only [Value.toOperand, if_neg nonempty, finite, readWhole_strip, read]
  rfl

theorem not_isRead_of_unread {part : Text} (unread : Literal.read (Text.stripLeft text) = none)
    (begins : part <+: Text.stripLeft text) : ¬part.IsRead := by
  intro read
  obtain ⟨tail, _, same⟩ := Text.exists_strip_of_prefix begins
  obtain ⟨behind, split⟩ := begins
  obtain ⟨literal, after, found, _⟩ := Literal.exists_read_append (exists_read_of_isRead read) (tail ++ behind)
  rw [← List.append_assoc, ← same, split, unread] at found
  cases found

/-- The longest beginning that is a number is what the literal took, with the white space behind it. -/
theorem exists_longest (whole : Literal.read (Text.stripLeft text) = some (literal, rest))
    (short : ∀ digits, digits <:+: text → (∀ char ∈ digits, Text.isDigit char = true) → digits.length ≤ Text.digitLimit) :
    ∃ longest, longest <+: Text.stripLeft text ∧ Text.IsRead longest ∧
      (∀ other, other <+: Text.stripLeft text → Text.IsRead other → other.length ≤ longest.length) ∧
      readPrefix text = readWhole longest := by
  obtain ⟨taken, parts, own⟩ := Literal.read_alone whole
  have inside : taken <:+: text := by
    have begins : taken <+: Text.stripLeft text := ⟨rest, parts.symm⟩
    exact begins.isInfix.trans (Text.stripLeft_isSuffix text).isInfix
  obtain ⟨number, value⟩ := exists_value own fun digits within => short digits (within.trans inside)
  have stripped : Text.strip (taken ++ rest.takeWhile Text.isBlank) = taken := by
    rw [Text.strip_append_blank taken fun _ => List.mem_takeWhile_imp]
    exact Text.strip_eq_self_of_visible fun char member =>
      Literal.not_isBlank_of_isPart (Literal.made_of_read own char member)
  have read : readWhole (taken ++ rest.takeWhile Text.isBlank) = literal.value.map some := by
    rw [readWhole, stripped, own]
  refine ⟨taken ++ rest.takeWhile Text.isBlank, ?_, ⟨number, by rw [read, value]; rfl⟩,
    fun other begins isRead => length_le_of_isRead begins isRead parts own whole, ?_⟩
  · rw [parts]
    exact List.prefix_append_right_inj taken |>.mpr (List.takeWhile_prefix _)
  · rw [read, readPrefix_of_read whole]

theorem readPrefix_of_readWhole (read : readWhole text = .ok (some number)) : readPrefix text = .ok (some number) := by
  obtain ⟨literal, found, value⟩ := read_of_readWhole read
  obtain ⟨tail, begins⟩ := Literal.exists_read_stripLeft found
  exact (readPrefix_of_read begins).trans value

theorem isNumeric_of_readWhole (read : readWhole text = .ok (some number)) : (Value.text text).isNumeric = .ok true := by
  rw [Value.isNumeric, read]
  rfl

theorem toNumber_of_readWhole (read : readWhole text = .ok (some number)) : (Value.text text).toNumber = .ok number := by
  rw [Value.toNumber, readPrefix_of_readWhole read]
  rfl

/-- Of a text that begins with the word for infinity, with or without a sign before it, the infinity is read. Of any
other text without more than 4300 digits in a row the longest beginning is read that is a number, white space in front
aside, and nothing if there is none. A text that is a number as a whole is this number as the beginning of a text, in
a function and in arithmetic alike. -/
theorem readPrefix_longest (text : Text) :
    (∀ sign rest, Literal.IsSign sign → Text.stripLeft text = sign ++ (infinityWord ++ rest) →
      readPrefix text = .ok (some (.double (if sign = ['-'] then negativeInfinity else Double.infinity)))) ∧
    ((∀ digits, digits <:+: text → (∀ char ∈ digits, Text.isDigit char = true) → digits.length ≤ Text.digitLimit) →
      (∀ sign rest, Literal.IsSign sign → Text.stripLeft text ≠ sign ++ (infinityWord ++ rest)) →
      (∃ longest, longest <+: Text.stripLeft text ∧ Text.IsRead longest ∧
        (∀ other, other <+: Text.stripLeft text → Text.IsRead other → other.length ≤ longest.length) ∧
        readPrefix text = readWhole longest) ∨
      (∀ part, part <+: Text.stripLeft text → ¬Text.IsRead part) ∧ readPrefix text = .ok none) ∧
    ∀ number, readWhole text = .ok (some number) →
      readPrefix text = .ok (some number) ∧ (Value.text text).toNumber = .ok number ∧
        (Value.text text).toOperand = .ok number := by
  refine ⟨fun sign rest isSign begins => readPrefix_infinity isSign begins, fun short finite => ?_, fun number read => ?_⟩
  · cases whole : Literal.read (Text.stripLeft text) with
    | none => exact Or.inr ⟨fun part begins => not_isRead_of_unread whole begins, readPrefix_of_unread whole finite⟩
    | some found => exact Or.inl (exists_longest whole short)
  · have first := readPrefix_of_readWhole read
    refine ⟨first, ?_, operand_of_readWhole read⟩
    rw [Value.toNumber, first]
    rfl

theorem readPrefix_longest_samples :
    readPrefix " -Infinity!".toList = .ok (some (.double negativeInfinity)) ∧
      (∃ longest, longest <+: Text.stripLeft " +12e+ px".toList ∧ Text.IsRead longest ∧
        (∀ other, other <+: Text.stripLeft " +12e+ px".toList → Text.IsRead other → other.length ≤ longest.length) ∧
        readPrefix " +12e+ px".toList = readWhole longest) ∧
      (Value.text " -7\t".toList).toOperand = .ok (.integer (-7)) := by
  obtain ⟨infinite, _, _⟩ := readPrefix_longest " -Infinity!".toList
  obtain ⟨_, finite, _⟩ := readPrefix_longest " +12e+ px".toList
  obtain ⟨_, _, whole⟩ := readPrefix_longest " -7\t".toList
  refine ⟨infinite ['-'] ['!'] (Or.inr (Or.inr rfl)) rfl, ?_, (whole (.integer (-7)) rfl).2.2⟩
  have short : ∀ digits, digits <:+: " +12e+ px".toList → (∀ char ∈ digits, Text.isDigit char = true) →
      digits.length ≤ Text.digitLimit := fun digits inside _ => inside.length_le.trans (by decide)
  have noWord : ∀ sign rest, Literal.IsSign sign →
      Text.stripLeft " +12e+ px".toList ≠ sign ++ (infinityWord ++ rest) := by
    rintro sign rest (rfl | rfl | rfl) same
    · cases same
    · cases same
    · cases same
  have found : readPrefix " +12e+ px".toList = .ok (some (.integer 12)) := rfl
  rcases finite short noWord with longest | ⟨_, none⟩
  · exact longest
  · rw [found] at none
    cases none

end Number

end Worksheet
