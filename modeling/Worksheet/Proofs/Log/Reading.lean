import Mathlib.Data.List.Basic
import Worksheet.Log.Reading
import Worksheet.Proofs.Outcome
import Worksheet.Proofs.Value.Decidable

/-! Reading a log of any content. A line that is no JSON costs nothing but itself. A line of JSON that is no object,
and one with an integer of too many digits, may cost all others. -/

namespace Worksheet.Log

def windowLines (window : Int) (content : Bytes) : List Text :=
  lines (Text.decode (tail window content))

def fieldMatches (wanted : Option Text) (name : String) (fields : Value.Fields) : Bool :=
  match wanted with
  | none => true
  | some text =>
    match Field.lookup? fields name with
    | some (.text found) => found == text
    | _ => false

def Filter.holds (filter : Filter) (fields : Value.Fields) : Bool :=
  fieldMatches filter.level "level" fields && fieldMatches filter.kind "event_type" fields

def objectOn? (line : Text) : Option Value.Fields :=
  match Json.read (Text.strip line) with
  | .ok (.record fields) => some fields
  | _ => none

def objects (filter : Filter) (lines : List Text) : List Value.Fields :=
  (lines.filterMap objectOn?).filter filter.holds

/-- A line that holds an object, or no JSON at all. -/
def Harmless (line : Text) : Prop :=
  Json.read (Text.strip line) = .error .malformed ∨ (objectOn? line).isSome = true

instance (line : Text) : Decidable (Harmless line) :=
  inferInstanceAs (Decidable (_ ∨ _))

def Filter.asks (filter : Filter) : Prop :=
  filter.level.isSome = true ∨ filter.kind.isSome = true

variable {filter : Filter} {line : Text} {rest : List Text}

theorem objectOn_eq_some {fields : Value.Fields} :
    objectOn? line = some fields ↔ Json.read (Text.strip line) = .ok (.record fields) := by
  unfold objectOn?
  split
  next found => simp [found]
  next other =>
    constructor
    · intro found
      cases found
    · exact fun read => absurd read (other fields)

theorem readLine_of_object {fields : Value.Fields} (object : objectOn? line = some fields) :
    readLine line = .ok (some (.record fields)) := by
  simp only [readLine, objectOn_eq_some.mp object]

theorem readLine_of_malformed (malformed : Json.read (Text.strip line) = .error .malformed) :
    readLine line = .ok none := by
  simp only [readLine, malformed]

theorem accepts_record (filter : Filter) (fields : Value.Fields) :
    filter.accepts (.record fields) = .ok (filter.holds fields) := by
  have field (wanted : Option Text) (name : String) :
      fieldIs wanted name (.record fields) = .ok (fieldMatches wanted name fields) := by
    cases wanted with
    | none => rfl
    | some text => rfl
  unfold Filter.accepts Filter.holds
  rw [field, field]
  cases fieldMatches filter.level "level" fields <;> rfl

theorem accepts_of_asks {entry : Value} (asks : filter.asks) (bare : ∀ fields, entry ≠ .record fields) :
    filter.accepts entry = .error .notARecord := by
  have field {text : Text} {name : String} : fieldIs (some text) name entry = .error .notARecord := by
    cases entry with
    | record fields => exact absurd rfl (bare fields)
    | _ => rfl
  unfold Filter.accepts
  cases level : filter.level with
  | some text => rw [field]; rfl
  | none =>
    cases kind : filter.kind with
    | some text => rw [field]; rfl
    | none => simp [Filter.asks, level, kind] at asks

theorem accepts_of_not_asks (entry : Value) (free : ¬filter.asks) : filter.accepts entry = .ok true := by
  obtain ⟨level, kind⟩ := filter
  cases level with
  | some text => exact absurd (Or.inl rfl) free
  | none =>
    cases kind with
    | some text => exact absurd (Or.inr rfl) free
    | none => rfl

/-! ## Lines one by one -/

theorem select_of_entry {entry : Value} (read : readLine line = .ok (some entry)) :
    select filter (line :: rest) =
      match filter.accepts entry with
      | .error failure => .error failure
      | .ok true => (select filter rest).map (entry :: ·)
      | .ok false => select filter rest := by
  rw [select, read]
  cases accepted : filter.accepts entry with
  | error failure =>
    simp only [bind, Except.bind, accepted]
  | ok accepts =>
    cases accepts with
    | false => simp [bind, Except.bind, accepted]
    | true => cases select filter rest <;> simp [bind, Except.bind, accepted, pure, Except.pure, Except.map]

theorem select_of_object {fields : Value.Fields} (object : objectOn? line = some fields) :
    select filter (line :: rest) =
      if filter.holds fields then (select filter rest).map (.record fields :: ·) else select filter rest := by
  rw [select_of_entry (readLine_of_object object), accepts_record]
  cases filter.holds fields <;> rfl

theorem select_of_malformed (malformed : Json.read (Text.strip line) = .error .malformed) :
    select filter (line :: rest) = select filter rest := by
  rw [select, readLine_of_malformed malformed]
  rfl

theorem select_of_tooLong (long : Json.read (Text.strip line) = .error .tooLong) :
    select filter (line :: rest) = .error .unreadable := by
  simp only [select, readLine, long]
  rfl

theorem line_cases (line : Text) :
    Json.read (Text.strip line) = .error .malformed ∨ (∃ fields, objectOn? line = some fields) ∨
      Json.read (Text.strip line) = .error .tooLong ∨
      ∃ entry, Json.read (Text.strip line) = .ok entry ∧ objectOn? line = none ∧ ∀ fields, entry ≠ .record fields := by
  cases found : Json.read (Text.strip line) with
  | error fault => cases fault <;> simp
  | ok entry =>
    cases entry with
    | record fields => exact Or.inr (Or.inl ⟨fields, objectOn_eq_some.mpr found⟩)
    | _ => exact Or.inr (Or.inr (Or.inr ⟨_, rfl, by simp [objectOn?, found], fun fields => by simp⟩))

theorem not_harmless_of_tooLong (long : Json.read (Text.strip line) = .error .tooLong) : ¬Harmless line := by
  simp [Harmless, objectOn?, long]

theorem not_harmless_of_other {entry : Value} (found : Json.read (Text.strip line) = .ok entry)
    (none : objectOn? line = none) : ¬Harmless line := by
  simp [Harmless, found, none]

def fieldsOf? : Value → Option Value.Fields
  | .record fields => some fields
  | _ => none

/-- Neither an integer of too many digits nor, where the filter asks for a field, a value without fields. -/
def Passable (filter : Filter) (line : Text) : Prop :=
  Json.read (Text.strip line) ≠ .error .tooLong ∧ (filter.asks → Harmless line)

theorem objects_of_object {fields : Value.Fields} (object : objectOn? line = some fields) :
    objects filter (line :: rest) =
      if filter.holds fields then fields :: objects filter rest else objects filter rest := by
  rw [objects, List.filterMap_cons, object, List.filter_cons]
  rfl

theorem objects_of_none (none : objectOn? line = none) : objects filter (line :: rest) = objects filter rest := by
  rw [objects, List.filterMap_cons, none]
  rfl

theorem select_of_passable {lines : List Text} (passable : ∀ line ∈ lines, Passable filter line) :
    ∃ entries, select filter lines = .ok entries ∧ entries.filterMap fieldsOf? = objects filter lines ∧
      (filter.asks ∨ (∀ line ∈ lines, Harmless line) → entries = (objects filter lines).map .record) := by
  induction lines with
  | nil => exact ⟨[], rfl, rfl, fun _ => rfl⟩
  | cons line rest ih =>
    obtain ⟨entries, selected, records, onlyRecords⟩ := ih fun other member => passable other (by simp [member])
    have own := passable line (by simp)
    have onward : filter.asks ∨ (∀ other ∈ line :: rest, Harmless other) → filter.asks ∨ ∀ other ∈ rest, Harmless other :=
      fun safe => safe.imp_right fun all other member => all other (by simp [member])
    rcases line_cases line with malformed | ⟨fields, object⟩ | long | ⟨entry, found, none, bare⟩
    · have none : objectOn? line = none := by simp [objectOn?, malformed]
      rw [select_of_malformed malformed, objects_of_none none]
      exact ⟨entries, selected, records, fun safe => onlyRecords (onward safe)⟩
    · rw [select_of_object object, objects_of_object object, selected]
      cases filter.holds fields with
      | false => exact ⟨entries, rfl, records, fun safe => onlyRecords (onward safe)⟩
      | true =>
        refine ⟨.record fields :: entries, rfl, ?_, fun safe => ?_⟩
        · simp [fieldsOf?, records]
        · simp [onlyRecords (onward safe)]
    · exact absurd long own.1
    · by_cases asks : filter.asks
      · exact absurd (own.2 asks) (not_harmless_of_other found none)
      · have read : readLine line = .ok (some entry) := by simp only [readLine, found]
        rw [select_of_entry read, accepts_of_not_asks entry asks, objects_of_none none, selected]
        refine ⟨entry :: entries, rfl, ?_, fun safe => ?_⟩
        · have noFields : fieldsOf? entry = Option.none := by
            cases entry with
            | record fields => exact absurd rfl (bare fields)
            | _ => rfl
          simp [noFields, records]
        · rcases safe with asking | all
          · exact absurd asking asks
          · exact absurd (all line (by simp)) (not_harmless_of_other found none)

theorem passable_of_select {lines : List Text} {entries : List Value} (selected : select filter lines = .ok entries) :
    ∀ line ∈ lines, Passable filter line := by
  induction lines generalizing entries with
  | nil => simp
  | cons line rest ih =>
    rw [List.forall_mem_cons]
    rcases line_cases line with malformed | ⟨fields, object⟩ | long | ⟨entry, found, none, bare⟩
    · rw [select_of_malformed malformed] at selected
      exact ⟨⟨by simp [malformed], fun _ => Or.inl malformed⟩, ih selected⟩
    · have later : ∃ entries, select filter rest = .ok entries := by
        rw [select_of_object object] at selected
        split at selected
        · cases after : select filter rest with
          | error failure => rw [after] at selected; cases selected
          | ok others => exact ⟨others, rfl⟩
        · exact ⟨entries, selected⟩
      obtain ⟨others, after⟩ := later
      have harmless : Harmless line := Or.inr (by simp [object])
      exact ⟨⟨by simp [objectOn_eq_some.mp object], fun _ => harmless⟩, ih after⟩
    · rw [select_of_tooLong long] at selected
      cases selected
    · have read : readLine line = .ok (some entry) := by simp only [readLine, found]
      rw [select_of_entry read] at selected
      by_cases asks : filter.asks
      · rw [accepts_of_asks asks bare] at selected
        cases selected
      · rw [accepts_of_not_asks entry asks] at selected
        refine ⟨⟨by simp [found], fun asking => absurd asking asks⟩, ?_⟩
        cases after : select filter rest with
        | error failure => rw [after] at selected; cases selected
        | ok others => exact ih after

/-! ## The whole log -/

theorem upTo_natCast (limit : Nat) (entries : List Value) :
    upTo (min (limit : Int) readCap) entries = entries.take (min limit 2000) := by
  have positive : ¬min (limit : Int) readCap < 0 := by
    simp only [readCap]
    omega
  rw [upTo, if_neg positive]
  congr 1
  simp only [readCap]
  omega

theorem read_eq_ok {window limit : Int} {content : Bytes} {found : List Value} :
    read window filter limit content = .ok found ↔
      ∃ entries, select filter (windowLines window content) = .ok entries ∧
        found = upTo (min limit readCap) entries.reverse := by
  simp only [read, bind_eq_ok, windowLines, pure, Except.pure, Except.ok.injEq]
  constructor
  · rintro ⟨entries, selected, rfl⟩
    exact ⟨entries, selected, rfl⟩
  · rintro ⟨entries, selected, rfl⟩
    exact ⟨entries, selected, rfl⟩

theorem read_of_harmless {window : Int} {content : Bytes} (harmless : ∀ line ∈ windowLines window content, Harmless line)
    (filter : Filter) (limit : Nat) :
    read window filter limit content
      = .ok (((objects filter (windowLines window content)).map .record).reverse.take (min limit 2000)) := by
  have passable : ∀ line ∈ windowLines window content, Passable filter line := fun line member =>
    ⟨fun long => not_harmless_of_tooLong long (harmless line member), fun _ => harmless line member⟩
  obtain ⟨entries, selected, _, records⟩ := select_of_passable passable
  refine read_eq_ok.mpr ⟨entries, selected, ?_⟩
  rw [upTo_natCast, records (Or.inr harmless)]

/-- Reading a log of any content gives, under every filter and limit, the newest objects that the filter lets
through, exactly when each line of the window holds an object or no JSON at all. Under one filter it gives
something exactly when it can pass over every line, and then all the objects that it lets through are there. -/
theorem read_survives_iff (window : Int) (content : Bytes) :
    ((∀ filter (limit : Nat), read window filter limit content
        = .ok (((objects filter (windowLines window content)).map .record).reverse.take (min limit 2000))) ↔
      ∀ line ∈ windowLines window content, Harmless line) ∧
    ∀ filter (limit : Nat),
      ((∃ found, read window filter limit content = .ok found) ↔
        ∀ line ∈ windowLines window content, Passable filter line) ∧
      ∀ found, read window filter limit content = .ok found →
        ∃ entries : List Value, found = entries.reverse.take (min limit 2000) ∧
          entries.filterMap fieldsOf? = objects filter (windowLines window content) := by
  refine ⟨⟨fun survives line member => ?_, read_of_harmless⟩, fun filter limit => ⟨⟨?_, ?_⟩, ?_⟩⟩
  · obtain ⟨entries, selected, _⟩ := read_eq_ok.mp (survives ⟨some [], none⟩ 0)
    exact (passable_of_select selected line member).2 (Or.inl rfl)
  · rintro ⟨found, ran⟩
    obtain ⟨entries, selected, _⟩ := read_eq_ok.mp ran
    exact passable_of_select selected
  · intro passable
    obtain ⟨entries, selected, _⟩ := select_of_passable passable
    exact ⟨_, read_eq_ok.mpr ⟨entries, selected, rfl⟩⟩
  · intro found ran
    obtain ⟨entries, selected, rfl⟩ := read_eq_ok.mp ran
    obtain ⟨same, selectedAgain, records, _⟩ := select_of_passable (passable_of_select selected)
    have equal : entries = same := Except.ok.inj (selected.symm.trans selectedAgain)
    exact ⟨entries, upTo_natCast limit _, equal ▸ records⟩

/-- A record, a bare number that the window leaves out, and a write that was torn. -/
def torn : Bytes :=
  Text.encode "5\n\x7b\"level\": \"error\"\x7d\n\x7b\"level\": \"er".toList

theorem read_survives_iff_torn :
    (∀ line ∈ windowLines 33 torn, Harmless line) ∧
      read 33 ⟨some "error".toList, none⟩ (7 : Nat) torn
        = .ok [.record [("level".toList, .text "error".toList)]] ∧
      ¬∃ found, read 60 ⟨some "error".toList, none⟩ (7 : Nat) torn = .ok found := by
  have harmless : ∀ line ∈ windowLines 33 torn, Harmless line := by decide +kernel
  refine ⟨harmless, ?_, fun returns => ?_⟩
  · rw [(read_survives_iff 33 torn).1.mpr harmless]
    decide +kernel
  · have passable := ((read_survives_iff 60 torn).2 ⟨some "error".toList, none⟩ 7).1.mp returns
    have number := (passable ['5'] (by decide +kernel)).2 (Or.inl rfl)
    exact absurd number (by decide +kernel)

theorem read_bare_number :
    read defaultWindow {} 200 (Text.encode "5
".toList) = .ok [.integer 5] ∧
      read defaultWindow ⟨some "error".toList, none⟩ 200 (Text.encode "5
".toList) = .error .notARecord := by
  decide +kernel

end Worksheet.Log
