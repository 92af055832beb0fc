import Worksheet.Calendar.Date
import Worksheet.Event
import Worksheet.Json.Writer
import Worksheet.Text.Utf8
import Worksheet.Value.Comparison
import Worksheet.Value.Field

/-! The records of the event log. A record is an event with the time at which it was reported. It is one line of the
log: its fields, and those of every record inside it, stand in the order of their names. The time is a universal one,
to the microsecond. -/

namespace Worksheet

namespace Value

def nameBefore (left right : Text × Value) : Bool :=
  textOrder left.1 right.1 != .gt

mutual

def sorted : Value → Value
  | list values => list (sortedAll values)
  | record fields => record ((sortedFields fields).mergeSort nameBefore)
  | other => other

def sortedAll : List Value → List Value
  | [] => []
  | value :: rest => value.sorted :: sortedAll rest

def sortedFields : List (Text × Value) → List (Text × Value)
  | [] => []
  | (name, value) :: rest => (name, value.sorted) :: sortedFields rest

end

mutual

/-- The value as a log keeps it: what is no finite number is missing, and an error code or a date is the text
that shows it. -/
def logged : Value → Value
  | number (.double x) => if x.isFinite then double x else empty
  | error code => text code.text
  | list values => list (loggedAll values)
  | record fields => record (loggedFields fields)
  | date value => text (dateText value)
  | moment value => text (momentText 'T' value)
  | other => other

def loggedAll : List Value → List Value
  | [] => []
  | value :: rest => value.logged :: loggedAll rest

def loggedFields : List (Text × Value) → List (Text × Value)
  | [] => []
  | (name, value) :: rest => (name, value.logged) :: loggedFields rest

end

end Value

namespace Log

structure Record where
  schemaVersion : Int
  stamp : Text
  event : Event

namespace Record

def currentVersion : Int := 1

def ofEvent (stamp : Text) (event : Event) : Record :=
  ⟨currentVersion, stamp, event⟩

def readText (fields : Value.Fields) (name : String) (missing : Text) : Except Failure Text :=
  match Field.lookup? fields name with
  | none => .ok missing
  | some value =>
    match Field.readText? value with
    | .ok (some text) => .ok text
    | _ => .error .invalidField

def readVersion (fields : Value.Fields) : Except Failure Int :=
  match Field.lookup? fields "schema_version" with
  | none => .ok currentVersion
  | some value =>
    match Field.readInt? value with
    | .ok (some version) => .ok version
    | _ => .error .invalidField

def readContext (fields : Value.Fields) : Except Failure Value.Fields :=
  match Field.lookup? fields "context" with
  | none => .ok []
  | some (.record context) => .ok context
  | some _ => .error .invalidField

def readNamed {α : Type} (parse : Text → Option α) (fields : Value.Fields) (name : String) :
    Except Failure α :=
  match Field.lookup? fields name with
  | some (.text text) =>
    match parse text with
    | some found => .ok found
    | none => .error .invalidField
  | _ => .error .invalidField

def ofFields (stamp : Text) (fields : Value.Fields) : Except Failure Record := do
  return {
    schemaVersion := ← readVersion fields
    stamp := ← readText fields "ts" stamp
    event := {
      level := ← readNamed EventLevel.ofText? fields "level"
      kind := ← readNamed EventKind.ofText? fields "event_type"
      context := ← readContext fields
      message := ← readText fields "message" []
      errorCode := ← Field.readText? ((Field.lookup? fields "error_code").getD .empty) } }

def textOrEmpty : Option Text → Value
  | some text => .text text
  | none => .empty

def toValue (record : Record) : Value :=
  .record
    [("context".toList, .record (Value.loggedFields record.event.context)),
     ("error_code".toList, textOrEmpty record.event.errorCode),
     ("event_type".toList, .text record.event.kind.text),
     ("level".toList, .text record.event.level.text),
     ("message".toList, .text record.event.message),
     ("schema_version".toList, .integer record.schemaVersion),
     ("ts".toList, .text record.stamp)]

def line (record : Record) : Except Failure Text := do
  return (← Json.write record.toValue.sorted) ++ ['\n']

def bytes (record : Record) : Except Failure Bytes :=
  record.line.map Text.encode

end Record

def stampOf (moment : DateTime) : Text :=
  Value.dateText moment.date ++ 'T' :: Value.twoPlaces moment.hour ++ ':' :: Value.twoPlaces moment.minute
    ++ ':' :: Value.twoPlaces moment.second ++ '.' :: Text.zeroFill 6 (Text.ofNat moment.microsecond) ++ ['Z']

def stampAt (microseconds : Int) : Text :=
  match DateTime.ofInstant? (DateTime.epoch + microseconds) with
  | some moment => stampOf moment
  | none => []

end Log

end Worksheet
