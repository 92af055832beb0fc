import Worksheet.Proofs.Json.Number
import Worksheet.Proofs.Json.Text
import Worksheet.Proofs.Outcome
import Worksheet.Proofs.Text.Cut

/-! JSON is read back as it was written. A value that JSON has a form for is written in printable ASCII characters,
and the value is read from what is written. -/

namespace Worksheet

def Text.fits (number : Int) : Bool :=
  decide ((Text.ofNat number.natAbs).length ≤ Text.digitLimit)

namespace Value

variable (accepts : Int → Bool)

mutual

/-- A value that JSON has a form for: its integers are accepted, its doubles finite, and in each of its records no
name stands twice. -/
def isJson : Value → Bool
  | empty => true
  | bool _ => true
  | number (.integer value) => accepts value
  | number (.double x) => x.isFinite
  | text _ => true
  | error _ => false
  | list values => allJson values
  | record fields => decide (fields.map (·.1)).Nodup && fieldsJson fields
  | date _ => false
  | moment _ => false

def allJson : List Value → Bool
  | [] => true
  | value :: rest => value.isJson && allJson rest

def fieldsJson : List (Text × Value) → Bool
  | [] => true
  | (_, value) :: rest => value.isJson && fieldsJson rest

end

end Value

namespace Field

theorem put_of_notMem {fields : Value.Fields} {name : Text} (value : Value) (absent : name ∉ fields.map (·.1)) :
    put name value fields = fields ++ [(name, value)] := by
  induction fields with
  | nil => rfl
  | cons first rest ih =>
    obtain ⟨apart, later⟩ := not_or.mp (mt List.mem_cons.mpr absent)
    rw [put, if_neg (by simpa using Ne.symm apart), ih later, List.cons_append]

theorem keepLast_of_nodup {fields : Value.Fields} (distinct : (fields.map (·.1)).Nodup) : keepLast fields = fields := by
  have onward : ∀ (later kept : Value.Fields), ((kept ++ later).map (·.1)).Nodup →
      later.foldl (fun kept field => put field.1 field.2 kept) kept = kept ++ later := by
    intro later
    induction later with
    | nil => intro kept _; rw [List.foldl_nil, List.append_nil]
    | cons field rest ih =>
      intro kept distinct
      have absent : field.1 ∉ kept.map (·.1) := by
        intro member
        rw [List.map_append] at distinct
        exact (List.disjoint_of_nodup_append distinct) member (by simp)
      rw [List.foldl_cons, put_of_notMem _ absent, ih _ (by simpa using distinct), List.append_assoc]
      rfl
  exact onward fields [] distinct

end Field

namespace Json

def Begins (text : Text) : Prop :=
  ∃ first others, text = first :: others ∧ isSpace first = false ∧ first ≠ ']' ∧ first ≠ '}'

theorem Begins.skipSpace {text : Text} (begins : Begins text) : skipSpace text = text := by
  obtain ⟨first, others, rfl, visible, _⟩ := begins
  simp [Json.skipSpace, visible]

theorem Begins.append {text : Text} (begins : Begins text) (rest : Text) : Begins (text ++ rest) := by
  obtain ⟨first, others, rfl, facts⟩ := begins
  exact ⟨first, others ++ rest, rfl, facts⟩

/-! ## Numbers -/

theorem literal_of_number {number : Number} (json : (Value.number number).isJson Text.fits = true) :
    ∃ literal : Literal, write (.number number) = .ok literal.written ∧ literal.Standard ∧
      literal.value = .ok number := by
  cases number with
  | integer value =>
    have short : (Text.ofNat value.natAbs).length ≤ Text.digitLimit := of_decide_eq_true json
    refine ⟨⟨decide (value < 0), Text.ofNat value.natAbs, none, none⟩, ?_, ⟨fun _ => Text.isDigit_of_mem_ofNat, ?_,
      fun _ equal => (by cases equal), fun _ _ equal => (by cases equal)⟩, ?_⟩
    · rw [write, Text.writeInt_eq_ok.mpr ⟨short, rfl⟩]
      by_cases negative : value < 0 <;>
        simp [Literal.written, Literal.fractionText, Literal.exponentText, Text.ofInt, negative]
    · rcases Nat.eq_zero_or_pos value.natAbs with zero | positive
      · exact Or.inl (by rw [zero]; rfl)
      · exact Or.inr (Text.ofNat_begins positive)
    · simp only [Literal.value, Text.readNat_ofNat short, decide_eq_true_eq]
      change Except.ok _ = _
      congr 2
      split <;> omega
  | double x =>
    have finite : x.isFinite = true := json
    obtain ⟨literal, written, standard, _, value⟩ := Double.write_eq_written finite
    refine ⟨literal, ?_, standard, value⟩
    rw [write, writeDouble, Double.isNaN_of_isFinite finite, Double.isInf_of_isFinite finite, ← written]
    rfl

theorem toNat_of_isDigit {char : Char} (digit : char.isDigit = true) : 48 ≤ char.toNat ∧ char.toNat ≤ 57 := by
  simp only [Char.isDigit, Bool.and_eq_true, decide_eq_true_eq, ge_iff_le, UInt32.le_iff_toNat_le] at digit
  exact digit

theorem printable_digits {digits : Text} (allDigits : ∀ char ∈ digits, char.isDigit = true) : Printable digits := by
  intro char member
  have := toNat_of_isDigit (allDigits char member)
  omega

theorem printable_written {literal : Literal} (standard : literal.Standard) : Printable literal.written := by
  have fraction : Printable literal.fractionText := by
    unfold Literal.fractionText
    cases held : literal.fraction with
    | none => exact printable_nil
    | some digits => exact printable_cons.mpr ⟨by decide, printable_digits (standard.fraction digits held).2⟩
  have exponent : Printable literal.exponentText := by
    unfold Literal.exponentText
    cases held : literal.exponent with
    | none => exact printable_nil
    | some part =>
      obtain ⟨negative, digits⟩ := part
      have later := printable_digits (standard.exponent negative digits held).2
      exact printable_cons.mpr ⟨by decide, printable_cons.mpr ⟨by cases negative <;> decide, later⟩⟩
  have sign : Printable (if literal.negative then ['-'] else []) := by
    split
    · exact printable_cons.mpr ⟨by decide, printable_nil⟩
    · exact printable_nil
  exact ((sign.append (printable_digits standard.whole)).append fraction).append exponent

theorem written_begins {literal : Literal} (standard : literal.Standard) :
    ∃ first others, first.isDigit = true ∧
      (literal.written = first :: others ∨ literal.written = '-' :: first :: others) := by
  obtain ⟨first, others, whole⟩ : ∃ first others, literal.whole = first :: others := by
    rcases standard.begins with zero | ⟨first, others, whole, _⟩
    · exact ⟨'0', [], zero⟩
    · exact ⟨first, others, whole⟩
  refine ⟨first, others ++ literal.fractionText ++ literal.exponentText,
    standard.whole first (whole ▸ List.mem_cons_self), ?_⟩
  unfold Literal.written
  rw [whole]
  cases literal.negative with
  | true => exact Or.inr rfl
  | false => exact Or.inl rfl

theorem begins_written {literal : Literal} (standard : literal.Standard) : Begins literal.written := by
  obtain ⟨first, others, digit, written | written⟩ := written_begins standard
  · have bounds := toNat_of_isDigit digit
    have other {mark : Char} (outside : mark.toNat < 48 ∨ 57 < mark.toNat) : first ≠ mark := by
      rintro rfl
      omega
    refine ⟨first, others, written, ?_, other (by decide), other (by decide)⟩
    simp [isSpace, other]
  · exact ⟨'-', _, written, by decide, by decide, by decide⟩

theorem readWord_written {literal : Literal} (standard : literal.Standard) (rest : Text) :
    readWord? (literal.written ++ rest) = none := by
  obtain ⟨first, others, digit, written⟩ := written_begins standard
  have bounds := toNat_of_isDigit digit
  have other {mark : Char} (outside : 57 < mark.toNat) : mark ≠ first := by
    rintro rfl
    omega
  have n := other (show 57 < 'n'.toNat by decide)
  have t := other (show 57 < 't'.toNat by decide)
  have f := other (show 57 < 'f'.toNat by decide)
  have N := other (show 57 < 'N'.toNat by decide)
  have I := other (show 57 < 'I'.toNat by decide)
  have minus : '-' ≠ first := by
    rintro rfl
    cases digit
  rcases written with written | written
  · simp [written, readWord?, words, List.isPrefixOf, n, t, f, N, I, minus]
  · simp [written, readWord?, words, List.isPrefixOf, I]

/-! ## What is written -/

structure Written (text : Text) : Prop where
  begins : Begins text
  printable : Printable text

theorem printable_join {parts : List Text} (each : ∀ part ∈ parts, Written part) :
    Printable (Text.join ", ".toList parts) := by
  induction parts with
  | nil => exact printable_nil
  | cons first rest ih =>
    obtain ⟨own, later⟩ := List.forall_mem_cons.mp each
    cases rest with
    | nil => exact own.printable
    | cons second others =>
      rw [Text.join_cons (List.cons_ne_nil _ _)]
      exact (own.printable.append (by decide)).append (ih later)

theorem begins_join {parts : List Text} (each : ∀ part ∈ parts, Written part) (more : parts ≠ []) :
    Begins (Text.join ", ".toList parts) := by
  cases parts with
  | nil => exact absurd rfl more
  | cons first rest =>
    have own := (each first List.mem_cons_self).begins
    cases rest with
    | nil => exact own
    | cons second others =>
      rw [Text.join_cons (List.cons_ne_nil _ _), List.append_assoc]
      exact own.append _

theorem written_bracketed {first last : Char} {inner : Text} (begins : Begins [first])
    (visible : Printable [first, last]) (printable : Printable inner) : Written (first :: inner ++ [last]) := by
  obtain ⟨_, _, equal, facts⟩ := begins
  obtain ⟨rfl, rfl⟩ := List.cons.inj equal
  obtain ⟨own, later⟩ := printable_cons.mp visible
  exact ⟨⟨first, _, rfl, facts⟩, printable_cons.mpr ⟨own, printable.append later⟩⟩

mutual

theorem exists_write : (value : Value) → value.isJson Text.fits = true → ∃ text, write value = .ok text ∧ Written text
  | .empty, _ => ⟨_, rfl, ⟨'n', _, rfl, by decide, by decide, by decide⟩, by decide⟩
  | .bool true, _ => ⟨_, rfl, ⟨'t', _, rfl, by decide, by decide, by decide⟩, by decide⟩
  | .bool false, _ => ⟨_, rfl, ⟨'f', _, rfl, by decide, by decide, by decide⟩, by decide⟩
  | .number number, json => by
    obtain ⟨literal, written, standard, _⟩ := literal_of_number json
    exact ⟨_, written, begins_written standard, printable_written standard⟩
  | .text text, _ => ⟨_, rfl, ⟨'"', _, rfl, by decide, by decide, by decide⟩, printable_writeText text⟩
  | .list values, json => by
    obtain ⟨parts, written, each⟩ := exists_writeAll values json
    refine ⟨_, by rw [write, written]; rfl, written_bracketed ⟨'[', _, rfl, by decide, by decide, by decide⟩
      (by decide) (printable_join each)⟩
  | .record fields, json => by
    obtain ⟨parts, written, each⟩ := exists_writeFields fields (Bool.and_eq_true_iff.mp json).2
    refine ⟨_, by rw [write, written]; rfl, written_bracketed ⟨'\x7b', _, rfl, by decide, by decide, by decide⟩
      (by decide) (printable_join each)⟩

theorem exists_writeAll : (values : List Value) → Value.allJson Text.fits values = true →
    ∃ parts, writeAll values = .ok parts ∧ ∀ part ∈ parts, Written part
  | [], _ => ⟨[], rfl, by simp⟩
  | value :: rest, json => by
    obtain ⟨own, later⟩ := Bool.and_eq_true_iff.mp json
    obtain ⟨text, written, facts⟩ := exists_write value own
    obtain ⟨parts, others, each⟩ := exists_writeAll rest later
    exact ⟨text :: parts, by rw [writeAll, written, others]; rfl, List.forall_mem_cons.mpr ⟨facts, each⟩⟩

theorem exists_writeFields : (fields : List (Text × Value)) → Value.fieldsJson Text.fits fields = true →
    ∃ parts, writeFields fields = .ok parts ∧ ∀ part ∈ parts, Written part
  | [], _ => ⟨[], rfl, by simp⟩
  | (name, value) :: rest, json => by
    obtain ⟨own, later⟩ := Bool.and_eq_true_iff.mp json
    obtain ⟨text, written, facts⟩ := exists_write value own
    obtain ⟨parts, others, each⟩ := exists_writeFields rest later
    refine ⟨_ :: parts, by rw [writeFields, written, others]; rfl, List.forall_mem_cons.mpr ⟨?_, each⟩⟩
    exact ⟨⟨'"', _, rfl, by decide, by decide, by decide⟩,
      ((printable_writeText name).append (by decide)).append facts.printable⟩

end

theorem written_of_write {value : Value} {text : Text} (json : value.isJson Text.fits = true)
    (written : write value = .ok text) : Written text := by
  obtain ⟨same, again, facts⟩ := exists_write value json
  exact Except.ok.inj (written.symm.trans again) ▸ facts

variable {accepts : Int → Bool}

mutual

theorem write_of_long : (value : Value) → value.isJson accepts = true → value.isJson Text.fits = false →
    write value = .error .unreadable
  | .number (.integer value), _, long => by
    have beyond : (Text.ofNat value.natAbs).length > Text.digitLimit := Nat.lt_of_not_le (of_decide_eq_false long)
    rw [write, Text.writeInt, if_pos beyond]
  | .number (.double x), json, long => by
    have finite : x.isFinite = true := json
    rw [Value.isJson, finite] at long
    cases long
  | .list values, json, long => by
    rw [write, writeAll_of_long values json long]
    rfl
  | .record fields, json, long => by
    obtain ⟨distinct, inside⟩ := Bool.and_eq_true_iff.mp json
    rw [Value.isJson, distinct, Bool.true_and] at long
    rw [write, writeFields_of_long fields inside long]
    rfl

theorem writeAll_of_long : (values : List Value) → Value.allJson accepts values = true →
    Value.allJson Text.fits values = false → writeAll values = .error .unreadable
  | value :: rest, json, long => by
    obtain ⟨own, later⟩ := Bool.and_eq_true_iff.mp json
    cases short : value.isJson Text.fits with
    | false =>
      rw [writeAll, write_of_long value own short]
      rfl
    | true =>
      rw [Value.allJson, short, Bool.true_and] at long
      obtain ⟨text, written, _⟩ := exists_write value short
      rw [writeAll, written, writeAll_of_long rest later long]
      rfl

theorem writeFields_of_long : (fields : List (Text × Value)) → Value.fieldsJson accepts fields = true →
    Value.fieldsJson Text.fits fields = false → writeFields fields = .error .unreadable
  | (_, value) :: rest, json, long => by
    obtain ⟨own, later⟩ := Bool.and_eq_true_iff.mp json
    cases short : value.isJson Text.fits with
    | false =>
      rw [writeFields, write_of_long value own short]
      rfl
    | true =>
      rw [Value.fieldsJson, short, Bool.true_and] at long
      obtain ⟨text, written, _⟩ := exists_write value short
      rw [writeFields, written, writeFields_of_long rest later long]
      rfl

end

/-! ## What is read -/

theorem endsNumber_cons {char : Char} (ends : char.isDigit = false ∧ char ≠ '.' ∧ char ≠ 'e' ∧ char ≠ 'E') (rest : Text) :
    EndsNumber (char :: rest) := by
  rintro _ ⟨⟩
  exact ends

theorem readValue_number {literal : Literal} (standard : literal.Standard) {number : Number}
    (value : literal.value = .ok number) {rest : Text} (ends : EndsNumber rest) (fuel : Nat) :
    readValue (fuel + 1) (literal.written ++ rest) = .ok (.number number, rest) := by
  have none := readWord_written standard rest
  have read := readNumber_written standard value ends
  obtain ⟨first, others, digit, written⟩ := written_begins standard
  have noMark {mark : Char} (outside : mark.isDigit = false ∧ mark ≠ '-') :
      ∀ later, literal.written ++ rest ≠ mark :: later := by
    intro later equal
    rcases written with written | written
    · rw [written] at equal
      rw [(List.cons.inj equal).1, outside.1] at digit
      cases digit
    · rw [written] at equal
      exact outside.2 (List.cons.inj equal).1.symm
  rw [readValue]
  · rw [none]
    exact read
  · exact noMark (by decide)
  · exact noMark (by decide)
  · exact noMark (by decide)

theorem readValue_text (text rest : Text) (fuel : Nat) :
    readValue (fuel + 1) (writeText text ++ rest) = .ok (.text text, rest) := by
  rw [writeText_append, readValue, readText_writeText]
  rfl

theorem endsNumber_comma (rest : Text) : EndsNumber (", ".toList ++ rest) :=
  endsNumber_cons (by decide) (' ' :: rest)

theorem writeAll_cons_eq_ok {value : Value} {values : List Value} {parts : List Text} :
    writeAll (value :: values) = .ok parts ↔
      ∃ first others, write value = .ok first ∧ writeAll values = .ok others ∧ parts = first :: others := by
  simp only [writeAll, bind_eq_ok, pure, Except.pure, Except.ok.injEq]
  constructor
  · rintro ⟨first, own, others, later, rfl⟩
    exact ⟨first, others, own, later, rfl⟩
  · rintro ⟨first, others, own, later, rfl⟩
    exact ⟨first, own, others, later, rfl⟩

theorem writeFields_cons_eq_ok {name : Text} {value : Value} {fields : List (Text × Value)} {parts : List Text} :
    writeFields ((name, value) :: fields) = .ok parts ↔
      ∃ first others, write value = .ok first ∧ writeFields fields = .ok others ∧
        parts = (writeText name ++ ": ".toList ++ first) :: others := by
  simp only [writeFields, bind_eq_ok, pure, Except.pure, Except.ok.injEq]
  constructor
  · rintro ⟨first, own, others, later, rfl⟩
    exact ⟨first, others, own, later, rfl⟩
  · rintro ⟨first, others, own, later, rfl⟩
    exact ⟨first, own, others, later, rfl⟩

variable {fuel : Nat} {text inner rest after : Text} {name : Text} {value : Value}

theorem readValue_list {values : List Value} (begins : Begins inner)
    (read : readItems fuel inner = .ok (values, rest)) : readValue (fuel + 1) ('[' :: inner) = .ok (.list values, rest) := by
  rw [readValue, begins.skipSpace]
  obtain ⟨first, others, rfl, _, noEnd, _⟩ := begins
  split
  · next equal => exact absurd (List.cons.inj equal).1 noEnd
  · rw [read]
    rfl

theorem readValue_record {fields : Value.Fields} (begins : Begins inner)
    (read : readFields fuel inner = .ok (fields, rest)) (distinct : (fields.map (·.1)).Nodup) :
    readValue (fuel + 1) ('\x7b' :: inner) = .ok (.record fields, rest) := by
  rw [readValue, begins.skipSpace]
  obtain ⟨first, others, rfl, _, _, noEnd⟩ := begins
  split
  · next equal => exact absurd (List.cons.inj equal).1 noEnd
  · rw [read]
    exact congrArg (fun kept => Except.ok (Value.record kept, rest)) (Field.keepLast_of_nodup distinct)

theorem readItems_last (read : readValue fuel text = .ok (value, ']' :: rest)) :
    readItems (fuel + 1) text = .ok ([value], rest) := by
  rw [readItems, read]
  rfl

theorem readItems_next (read : readValue fuel (text ++ (", ".toList ++ inner)) = .ok (value, ", ".toList ++ inner))
    (onward : Begins inner) :
    readItems (fuel + 1) (text ++ ", ".toList ++ inner)
      = (readItems fuel inner).map fun (values, rest) => (value :: values, rest) := by
  have skipped : skipSpace (' ' :: inner) = inner := onward.skipSpace
  rw [List.append_assoc, readItems, read]
  change (readItems fuel (skipSpace (' ' :: inner))).map _ = _
  rw [skipped]

theorem readFields_name (begins : Begins text) :
    readFields (fuel + 1) (writeText name ++ ": ".toList ++ text) = ((do
      let (value, rest) ← readValue fuel text
      match skipSpace rest with
      | '\x7d' :: rest => .ok ([(name, value)], rest)
      | ',' :: rest =>
        (readFields fuel (skipSpace rest)).map fun (fields, rest) => ((name, value) :: fields, rest)
      | _ => .error .malformed) : Except Fault (List (Text × Value) × Text)) := by
  have skipped : skipSpace (' ' :: text) = text := begins.skipSpace
  rw [List.append_assoc, writeText_append, readFields, readText_writeText]
  change Except.bind (readValue fuel (skipSpace (' ' :: text))) _ = _
  rw [skipped]
  rfl

theorem readFields_last (begins : Begins text) (read : readValue fuel (text ++ '\x7d' :: rest) = .ok (value, '\x7d' :: rest)) :
    readFields (fuel + 1) (writeText name ++ ": ".toList ++ text ++ '\x7d' :: rest) = .ok ([(name, value)], rest) := by
  rw [List.append_assoc, readFields_name (begins.append _), read]
  rfl

theorem readFields_next (begins : Begins text)
    (read : readValue fuel (text ++ (", ".toList ++ inner)) = .ok (value, ", ".toList ++ inner))
    (onward : Begins inner) :
    readFields (fuel + 1) (writeText name ++ ": ".toList ++ text ++ ", ".toList ++ inner)
      = (readFields fuel inner).map fun (fields, rest) => ((name, value) :: fields, rest) := by
  have skipped : skipSpace (' ' :: inner) = inner := onward.skipSpace
  rw [List.append_assoc, List.append_assoc, readFields_name (begins.append _), read]
  change (readFields fuel (skipSpace (' ' :: inner))).map _ = _
  rw [skipped]

theorem begins_writeAll {values : List Value} {parts : List Text} (json : Value.allJson Text.fits values = true)
    (written : writeAll values = .ok parts) (more : parts ≠ []) : Begins (Text.join ", ".toList parts) := by
  obtain ⟨same, again, each⟩ := exists_writeAll values json
  exact begins_join (Except.ok.inj (written.symm.trans again) ▸ each) more

theorem begins_writeFields {fields : List (Text × Value)} {parts : List Text}
    (json : Value.fieldsJson Text.fits fields = true) (written : writeFields fields = .ok parts) (more : parts ≠ []) :
    Begins (Text.join ", ".toList parts) := by
  obtain ⟨same, again, each⟩ := exists_writeFields fields json
  exact begins_join (Except.ok.inj (written.symm.trans again) ▸ each) more

theorem length_bracketed (first last : Char) (inner : Text) : (first :: inner ++ [last]).length = inner.length + 2 := by
  simp

-- The induction is on the value. The fuel exceeds the length of the text: a value inside is shorter by the marks
-- around it, and the rest of a list or of a record by the value and the comma in front of it.
mutual

/-- A written value is read back, and what follows it is left, as long as that does not go on with a number. -/
theorem readValue_write : (value : Value) → value.isJson Text.fits = true → ∀ {text rest : Text} {fuel : Nat},
    write value = .ok text → text.length < fuel → EndsNumber rest → readValue fuel (text ++ rest) = .ok (value, rest)
  | .empty, _, _, _, _ + 1, written, _, _ => by cases written; rfl
  | .bool true, _, _, _, _ + 1, written, _, _ => by cases written; rfl
  | .bool false, _, _, _, _ + 1, written, _, _ => by cases written; rfl
  | .number number, json, _, _, fuel + 1, written, _, ends => by
    obtain ⟨literal, same, standard, value⟩ := literal_of_number json
    cases same.symm.trans written
    exact readValue_number standard value ends fuel
  | .text text, _, _, rest, fuel + 1, written, _, _ => by
    cases written
    exact readValue_text text rest fuel
  | .list [], _, _, _, _ + 1, written, _, _ => by cases written; rfl
  | .list (value :: values), json, _, rest, fuel + 1, written, enough, _ => by
    obtain ⟨parts, each, whole⟩ := bind_eq_ok.mp written
    cases whole
    rw [length_bracketed] at enough
    obtain ⟨first, others, _, _, rfl⟩ := writeAll_cons_eq_ok.mp each
    have begins := begins_writeAll json each (List.cons_ne_nil _ _)
    rw [List.append_assoc, List.cons_append]
    exact readValue_list (begins.append _) (readItems_write value values json each (by omega))
  | .record [], _, _, _, _ + 1, written, _, _ => by cases written; rfl
  | .record ((name, value) :: fields), json, _, rest, fuel + 1, written, enough, _ => by
    obtain ⟨distinct, inside⟩ := Bool.and_eq_true_iff.mp json
    obtain ⟨parts, each, whole⟩ := bind_eq_ok.mp written
    cases whole
    rw [length_bracketed] at enough
    obtain ⟨first, others, _, _, rfl⟩ := writeFields_cons_eq_ok.mp each
    have begins := begins_writeFields inside each (List.cons_ne_nil _ _)
    rw [List.append_assoc, List.cons_append]
    exact readValue_record (begins.append _) (readFields_write name value fields inside each (by omega))
      (of_decide_eq_true distinct)

theorem readItems_write : (value : Value) → (values : List Value) → Value.allJson Text.fits (value :: values) = true →
    ∀ {parts : List Text} {rest : Text} {fuel : Nat}, writeAll (value :: values) = .ok parts →
    (Text.join ", ".toList parts).length + 1 < fuel →
    readItems fuel (Text.join ", ".toList parts ++ ']' :: rest) = .ok (value :: values, rest)
  | value, [], json, _, rest, fuel + 1, written, enough => by
    obtain ⟨own, _⟩ := Bool.and_eq_true_iff.mp json
    obtain ⟨first, others, text, ⟨⟩, rfl⟩ := writeAll_cons_eq_ok.mp written
    have short : first.length + 1 < fuel + 1 := enough
    exact readItems_last (readValue_write value own text (by omega) (endsNumber_cons (by decide) _))
  | value, next :: values, json, _, rest, fuel + 1, written, enough => by
    obtain ⟨own, later⟩ := Bool.and_eq_true_iff.mp json
    obtain ⟨first, parts, text, after, rfl⟩ := writeAll_cons_eq_ok.mp written
    obtain ⟨second, others, _, _, rfl⟩ := writeAll_cons_eq_ok.mp after
    have begins := begins_writeAll later after (List.cons_ne_nil _ _)
    have comma : ", ".toList.length = 2 := rfl
    rw [Text.join_cons (List.cons_ne_nil _ _)] at enough ⊢
    rw [List.length_append, List.length_append] at enough
    have read (onward : Text) := readValue_write value own text (show _ < fuel by omega) (endsNumber_comma onward)
    rw [List.append_assoc, readItems_next (read _) (begins.append _), readItems_write next values later after (by omega)]
    rfl

theorem readFields_write : (name : Text) → (value : Value) → (fields : List (Text × Value)) →
    Value.fieldsJson Text.fits ((name, value) :: fields) = true → ∀ {parts : List Text} {rest : Text} {fuel : Nat},
    writeFields ((name, value) :: fields) = .ok parts → (Text.join ", ".toList parts).length + 1 < fuel →
    readFields fuel (Text.join ", ".toList parts ++ '\x7d' :: rest) = .ok ((name, value) :: fields, rest)
  | name, value, [], json, _, rest, fuel + 1, written, enough => by
    obtain ⟨own, _⟩ := Bool.and_eq_true_iff.mp json
    obtain ⟨first, others, text, ⟨⟩, rfl⟩ := writeFields_cons_eq_ok.mp written
    have short : (writeText name ++ ": ".toList ++ first).length + 1 < fuel + 1 := enough
    rw [List.length_append] at short
    exact readFields_last (written_of_write own text).begins
      (readValue_write value own text (by omega) (endsNumber_cons (by decide) _))
  | name, value, (following, next) :: fields, json, _, rest, fuel + 1, written, enough => by
    obtain ⟨own, later⟩ := Bool.and_eq_true_iff.mp json
    obtain ⟨first, parts, text, after, rfl⟩ := writeFields_cons_eq_ok.mp written
    obtain ⟨second, others, _, _, rfl⟩ := writeFields_cons_eq_ok.mp after
    have begins := begins_writeFields later after (List.cons_ne_nil _ _)
    have comma : ", ".toList.length = 2 := rfl
    rw [Text.join_cons (List.cons_ne_nil _ _)] at enough ⊢
    rw [List.length_append, List.length_append, List.length_append] at enough
    have read (onward : Text) := readValue_write value own text (show _ < fuel by omega) (endsNumber_comma onward)
    rw [List.append_assoc, readFields_next (written_of_write own text).begins (read _) (begins.append _),
      readFields_write following next fields later after (by omega)]
    rfl

end

theorem read_write {value : Value} (json : value.isJson Text.fits = true) :
    ∃ text, write value = .ok text ∧ Printable text ∧ read text = .ok value := by
  obtain ⟨text, written, facts⟩ := exists_write value json
  refine ⟨text, written, facts.printable, ?_⟩
  have whole := readValue_write value json written (Nat.lt_succ_self _) endsNumber_nil
  rw [List.append_nil] at whole
  rw [read, facts.begins.skipSpace, whole]
  rfl

end Json

end Worksheet
