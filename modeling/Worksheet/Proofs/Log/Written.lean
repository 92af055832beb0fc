import Worksheet.Proofs.Log.Lines
import Worksheet.Proofs.Log.Reading
import Worksheet.Proofs.Log.Sorted
import Worksheet.Proofs.Text.Strip

/-! Records in the log and back. A record that JSON has a form for is one line of the log, and reading gives back the
newest of the records whose lines the window holds. -/

namespace Worksheet.Log

namespace Record

/-- The context of the record is a value that JSON has a form for, with integers of any size. -/
def isValid (record : Record) : Bool :=
  (Value.record record.event.context).isJson fun _ => true

/-- JSON has a form for the record: no integer in it is beyond the limit of digits. -/
def fits (record : Record) : Bool :=
  Text.fits record.schemaVersion && (Value.record record.event.context).isJson Text.fits

def body (record : Record) : Text :=
  match Json.write record.toValue.sorted with
  | .ok text => text
  | .error _ => []

def fields (record : Record) : Value.Fields :=
  [("context".toList, .record record.event.context),
   ("error_code".toList, textOrEmpty record.event.errorCode),
   ("event_type".toList, .text record.event.kind.text),
   ("level".toList, .text record.event.level.text),
   ("message".toList, .text record.event.message),
   ("schema_version".toList, .integer record.schemaVersion),
   ("ts".toList, .text record.stamp)]

def entry (record : Record) : Value.Fields :=
  (Value.sortedFields record.fields).mergeSort Value.nameBefore

def fieldNames : List Text :=
  ["context".toList, "error_code".toList, "event_type".toList, "level".toList, "message".toList,
   "schema_version".toList, "ts".toList]

variable {record : Record}

theorem map_fst_fields (record : Record) : record.fields.map (·.1) = fieldNames :=
  rfl

theorem nodup_fields (record : Record) : (record.fields.map (·.1)).Nodup := by
  rw [map_fst_fields]
  decide

theorem entry_eq (record : Record) : record.entry = Value.sortedFields record.fields := by
  have names : fieldNames.Pairwise fun left right => (Value.textOrder left right != .gt) = true := by decide
  rw [← map_fst_fields record, ← Value.map_fst_sortedFields, List.pairwise_map] at names
  exact List.mergeSort_of_pairwise names

theorem isJson_fields (accepts : Int → Bool) (record : Record) :
    (Value.record record.fields).isJson accepts
      = (accepts record.schemaVersion && (Value.record record.event.context).isJson accepts) := by
  have code : (textOrEmpty record.event.errorCode).isJson accepts = true := by cases record.event.errorCode <;> rfl
  have version : (Value.integer record.schemaVersion).isJson accepts = accepts record.schemaVersion := rfl
  have text (text : Text) : (Value.text text).isJson accepts = true := rfl
  change (decide (record.fields.map (·.1)).Nodup && Value.fieldsJson accepts record.fields) = _
  rw [decide_eq_true (nodup_fields record), Bool.true_and]
  simp only [fields, Value.fieldsJson, code, version, text, Bool.and_true, Bool.true_and]
  exact Bool.and_comm _ _

theorem isJson_entry (accepts : Int → Bool) (record : Record) :
    (Value.record record.entry).isJson accepts
      = (accepts record.schemaVersion && (Value.record record.event.context).isJson accepts) :=
  (Value.isJson_sorted (.record record.fields)).trans (isJson_fields accepts record)

theorem sorted_toValue {accepts : Int → Bool} (json : (Value.record record.event.context).isJson accepts = true) :
    record.toValue.sorted = .record record.entry := by
  rw [toValue, Value.loggedFields_of_isJson _ (Bool.and_eq_true_iff.mp json).2]
  rfl

/-- The line of a record that fits is one line, and the record is read from it. -/
theorem line_of_fits (short : record.fits = true) :
    record.line = .ok (record.body ++ ['\n']) ∧ Json.Printable record.body ∧
      objectOn? record.body = some record.entry := by
  have logged := sorted_toValue (Bool.and_eq_true_iff.mp short).2
  obtain ⟨text, written, printable, read⟩ := Json.read_write ((isJson_entry Text.fits record).trans short)
  have held : record.body = text := by rw [body, logged, written]
  rw [held, line, logged, written]
  refine ⟨rfl, printable, objectOn_eq_some.mpr ?_⟩
  -- a line is stripped before it is read: its braces are no white space
  obtain ⟨parts, _, whole⟩ := bind_eq_ok.mp written
  have stripped : Text.strip text = text := by
    cases whole
    exact Text.strip_eq_self (by decide) (by decide)
  rw [stripped, read]

theorem bytes_of_fits (short : record.fits = true) : record.bytes = .ok (lineOf record.body) := by
  rw [bytes, (line_of_fits short).1]
  rfl

theorem bytes_of_long (valid : record.isValid = true) (long : record.fits = false) :
    record.bytes = .error .unreadable := by
  have shape : (Value.record record.entry).isJson (fun _ => true) = true := (isJson_entry _ record).trans valid
  rw [bytes, line, sorted_toValue valid, Json.write_of_long _ shape ((isJson_entry Text.fits record).trans long)]
  rfl

end Record

theorem unbroken_of_printable {body : Text} (printable : Json.Printable body) : Unbroken body := by
  intro char member
  have range := printable char member
  simp only [isLineBreak, Text.inRanges, List.any_cons, List.any_nil, Bool.or_false, Bool.or_eq_false_iff,
    Bool.and_eq_false_iff, decide_eq_false_iff_not]
  omega

def Filter.admits (filter : Filter) (record : Record) : Bool :=
  filter.level.all (record.event.level.text == ·) && filter.kind.all (record.event.kind.text == ·)

theorem fieldMatches_entry {record : Record} {name : String} (text : Text)
    (member : (name.toList, Value.text text) ∈ record.fields) (wanted : Option Text) :
    fieldMatches wanted name record.entry = wanted.all (text == ·) := by
  have found : Field.lookup? record.entry name = some (.text text) :=
    Value.lookup_mergeSort (Record.nodup_fields record) member
  cases wanted with
  | none => rfl
  | some _ =>
    rw [fieldMatches, found]
    rfl

theorem holds_entry (filter : Filter) (record : Record) : filter.holds record.entry = filter.admits record := by
  rw [Filter.holds, Filter.admits, fieldMatches_entry record.event.level.text (by simp [Record.fields]),
    fieldMatches_entry record.event.kind.text (by simp [Record.fields])]

def contentOf (records : List Record) : Bytes :=
  records.flatMap fun record => lineOf record.body

/-- The window holds the whole log, or begins before the line of the record in that place. -/
def reaches (window : Int) (records : List Record) (index : Nat) : Bool :=
  let size : Int := (contentOf records).length
  decide (size ≤ window ∨ size - window < (contentOf (records.take index)).length)

def inWindow (window : Int) (records : List Record) : List Record :=
  (records.zipIdx.filter fun item => reaches window records item.2).map (·.1)

theorem map_filter_zipIdx {α : Type} (items : List α) (count offset : Nat) (holds : Nat → Bool)
    (behind : ∀ index < items.length, holds (offset + index) = decide (count ≤ index)) :
    ((items.zipIdx offset).filter fun item => holds item.2).map (·.1) = items.drop count := by
  induction items generalizing count offset with
  | nil => simp
  | cons first rest ih =>
    have own := behind 0 (by simp)
    have later (index : Nat) (bound : index < rest.length) : holds (offset + 1 + index) = decide (count ≤ index + 1) := by
      rw [← behind (index + 1) (by simpa using bound)]
      congr 1
      omega
    rw [List.zipIdx_cons, List.filter_cons]
    cases count with
    | zero =>
      have onward := ih 0 (offset + 1) fun index bound => by simpa using later index bound
      rw [if_pos (by simpa using own), List.map_cons, onward, List.drop_zero, List.drop_zero]
    | succ count =>
      have onward := ih count (offset + 1) fun index bound => by simpa using later index bound
      rw [if_neg (by simpa using own), onward, List.drop_succ_cons]

theorem contentOf_eq (records : List Record) : contentOf records = (records.map Record.body).flatMap lineOf := by
  rw [contentOf, List.flatMap_map]

variable {records : List Record}

theorem unbroken_bodies (short : ∀ record ∈ records, record.fits = true) :
    ∀ body ∈ records.map Record.body, Unbroken body := by
  simp only [List.forall_mem_map]
  exact fun record member => unbroken_of_printable (Record.line_of_fits (short record member)).2.1

theorem tail_contentOf (short : ∀ record ∈ records, record.fits = true) (window : Int) :
    ∃ count, inWindow window records = records.drop count ∧
      tail window (contentOf records) = contentOf (records.drop count) := by
  obtain ⟨count, left, places⟩ := tail_flatMap_lineOf (unbroken_bodies short) window
  simp only [← List.map_take, ← List.map_drop, ← contentOf_eq, List.length_map] at left places
  refine ⟨count, map_filter_zipIdx records count 0 (reaches window records) fun index bound => ?_, left⟩
  rw [Nat.zero_add]
  exact decide_eq_decide.mpr (places index bound)

theorem harmless_bodies (short : ∀ record ∈ records, record.fits = true) :
    ∀ line ∈ records.map Record.body ++ [[]], Harmless line := by
  intro line member
  rcases List.mem_append.mp member with own | last
  · obtain ⟨record, among, rfl⟩ := List.mem_map.mp own
    exact Or.inr (by rw [(Record.line_of_fits (short record among)).2.2]; rfl)
  · rw [List.mem_singleton.mp last]
    decide

theorem objects_bodies (filter : Filter) (short : ∀ record ∈ records, record.fits = true) :
    (objects filter (records.map Record.body ++ [[]])).map Value.record
      = (records.filter filter.admits).map (·.toValue.sorted) := by
  induction records with
  | nil => rfl
  | cons record rest ih =>
    obtain ⟨own, later⟩ := List.forall_mem_cons.mp short
    rw [List.map_cons, List.cons_append, objects_of_object (Record.line_of_fits own).2.2, holds_entry,
      List.filter_cons]
    split
    · rw [List.map_cons, List.map_cons, ih later, Record.sorted_toValue (Bool.and_eq_true_iff.mp own).2]
    · exact ih later

theorem read_contentOf (short : ∀ record ∈ records, record.fits = true) (window : Int) (filter : Filter) (limit : Nat) :
    read window filter limit (contentOf records)
      = .ok ((((inWindow window records).filter filter.admits).map (·.toValue.sorted)).reverse.take (min limit 2000)) := by
  obtain ⟨count, newest, left⟩ := tail_contentOf short window
  have onward : ∀ record ∈ records.drop count, record.fits = true := fun record member =>
    short record (List.mem_of_mem_drop member)
  -- behind the last line feed there is one more line, which is empty
  have held : windowLines window (contentOf records) = (records.drop count).map Record.body ++ [[]] := by
    rw [windowLines, left, contentOf_eq, decode_flatMap_lineOf, lines_flatMap (unbroken_bodies onward)]
  have harmless := harmless_bodies onward
  rw [← held] at harmless
  rw [read_of_harmless harmless, held, objects_bodies filter onward, newest]

end Worksheet.Log
