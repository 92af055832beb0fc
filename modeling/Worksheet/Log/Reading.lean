import Worksheet.Json.Reader
import Worksheet.Text.Utf8

/-! Reading the event log back, newest first. Only a window at the end of the log is read. Lines that hold no JSON are
passed over, so that a torn or edited line costs no other one. -/

namespace Worksheet.Log

def defaultWindow : Int := 2097152

def defaultLimit : Int := 200

def readCap : Int := 2000

/-- The bytes behind the first line feed; all of them if there is none. -/
def afterLineFeed (content : Bytes) : Bytes :=
  match content.dropWhile (· != 10) with
  | [] => content
  | _ :: rest => rest

/-- The bytes at the end of the log that are read: a window that does not reach the start of the log begins
behind the line in which it falls. -/
def tail (window : Int) (content : Bytes) : Bytes :=
  let start := ((content.length : Int) - window).toNat
  if start = 0 then content else afterLineFeed (content.drop start)

def isLineBreak (char : Char) : Bool :=
  Text.inRanges [(0x0A, 0x0D), (0x1C, 0x1E), (0x85, 0x85), (0x2028, 0x2029)] char.toNat

def lines : Text → List Text
  | [] => [[]]
  | char :: rest =>
    if isLineBreak char then [] :: lines rest
    else
      match lines rest with
      | first :: others => (char :: first) :: others
      | [] => [[char]]

structure Filter where
  level : Option Text := none
  kind : Option Text := none

def fieldIs (wanted : Option Text) (name : String) (entry : Value) : Except Failure Bool :=
  match wanted, entry with
  | none, _ => .ok true
  | some text, .record fields =>
    .ok (match Field.lookup? fields name with
      | some (.text found) => found == text
      | _ => false)
  | some _, _ => .error .notARecord

def Filter.accepts (filter : Filter) (entry : Value) : Except Failure Bool := do
  if ← fieldIs filter.level "level" entry then fieldIs filter.kind "event_type" entry
  else return false

def readLine (line : Text) : Except Failure (Option Value) :=
  match Json.read (Text.strip line) with
  | .ok entry => .ok (some entry)
  | .error .malformed => .ok none
  | .error .tooLong => .error .unreadable

def select (filter : Filter) : List Text → Except Failure (List Value)
  | [] => .ok []
  | line :: rest => do
    match ← readLine line with
    | none => select filter rest
    | some entry =>
      if ← filter.accepts entry then return entry :: (← select filter rest)
      else select filter rest

def upTo (limit : Int) (entries : List Value) : List Value :=
  if limit < 0 then entries.take (entries.length + limit).toNat else entries.take limit.toNat

def read (window : Int) (filter : Filter) (limit : Int) (content : Bytes) :
    Except Failure (List Value) := do
  let entries ← select filter (lines (Text.decode (tail window content)))
  return upTo (min limit readCap) entries.reverse

end Worksheet.Log
