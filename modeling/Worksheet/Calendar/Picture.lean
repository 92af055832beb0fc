import Worksheet.Calendar.Date
import Worksheet.Failure
import Worksheet.Text.Basic
import Worksheet.Text.Case

/-! Date pictures such as `yyyy-mm-dd hh:mm`. Runs of the letters y, m, d, h and s in either case and the word am/pm
stand for parts of a moment, all else for itself. The letter m right after an hour or right before a second stands for
minutes. -/

namespace Worksheet

inductive DatePart where
  | year
  | shortYear
  | monthName
  | shortMonthName
  | twoDigitMonth
  | month
  | dayName
  | shortDayName
  | twoDigitDay
  | day
  | twoDigitHour
  | hour
  | twoDigitSecond
  | second
  | half
  /-- Letters equal to a part up to case that are no letters of it. -/
  | unknown
  deriving DecidableEq, Repr

inductive PicturePiece where
  | literal (char : Char)
  | part (part : DatePart)

abbrev DatePicture := List PicturePiece

namespace DatePicture

/-- The words of a picture; where several fit, the first one counts. -/
def words : List (Text × DatePart) :=
  [("yyyy".toList, .year), ("yy".toList, .shortYear),
   ("mmmm".toList, .monthName), ("mmm".toList, .shortMonthName),
   ("mm".toList, .twoDigitMonth), ("m".toList, .month),
   ("dddd".toList, .dayName), ("ddd".toList, .shortDayName),
   ("dd".toList, .twoDigitDay), ("d".toList, .day),
   ("hh".toList, .twoDigitHour), ("h".toList, .hour),
   ("ss".toList, .twoDigitSecond), ("s".toList, .second),
   ("am/pm".toList, .half)]

def startsWithWord : Text → Text → Bool
  | [], _ => true
  | _ :: _, [] => false
  | expected :: word, char :: text => Text.sameUpToCase expected char && startsWithWord word text

def readWord? (text : Text) : Option (DatePart × Nat) :=
  (words.find? fun entry => startsWithWord entry.1 text).map fun entry =>
    (if (text.take entry.1.length).map Char.toLower = entry.1 then entry.2 else .unknown,
      entry.1.length)

/-- `skip` counts the characters of the current word that are still to be passed over. -/
def read (skip : Nat) : Text → DatePicture
  | [] => []
  | char :: rest =>
    match skip with
    | skip + 1 => read skip rest
    | 0 =>
      match readWord? (char :: rest) with
      | some (part, length) => .part part :: read (length - 1) rest
      | none => .literal char :: read 0 rest

def ofText (text : Text) : DatePicture :=
  read 0 text

def isPart : PicturePiece → Bool
  | .part _ => true
  | .literal _ => false

def monthNames : List String :=
  ["January", "February", "March", "April", "May", "June", "July", "August", "September", "October",
   "November", "December"]

def dayNames : List String :=
  ["Monday", "Tuesday", "Wednesday", "Thursday", "Friday", "Saturday", "Sunday"]

def monthNameOf (date : Date) : Text :=
  (monthNames.getD (date.month - 1) "").toList

def dayNameOf (date : Date) : Text :=
  (dayNames.getD date.weekday "").toList

def padded (width number : Nat) : Text :=
  Text.zeroFill width (Text.ofNat number)

def shownHour (twelveHours : Bool) (moment : DateTime) : Nat :=
  if twelveHours then (if moment.hour % 12 = 0 then 12 else moment.hour % 12) else moment.hour

def writePart (moment : DateTime) (twelveHours : Bool) : DatePart → Except Failure Text
  | .year => .ok (padded 4 moment.date.year)
  | .shortYear => .ok (padded 2 (moment.date.year % 100))
  | .monthName => .ok (monthNameOf moment.date)
  | .shortMonthName => .ok ((monthNameOf moment.date).take 3)
  | .twoDigitMonth => .ok (padded 2 moment.date.month)
  | .month => .ok (Text.ofNat moment.date.month)
  | .dayName => .ok (dayNameOf moment.date)
  | .shortDayName => .ok ((dayNameOf moment.date).take 3)
  | .twoDigitDay => .ok (padded 2 moment.date.day)
  | .day => .ok (Text.ofNat moment.date.day)
  | .twoDigitHour => .ok (padded 2 (shownHour twelveHours moment))
  | .hour => .ok (Text.ofNat (shownHour twelveHours moment))
  | .twoDigitSecond => .ok (padded 2 moment.second)
  | .second => .ok (Text.ofNat moment.second)
  | .half => .ok (if moment.hour < 12 then "AM".toList else "PM".toList)
  | .unknown => .error .unknownKey

def isHour (part : Option DatePart) : Bool :=
  part == some .hour || part == some .twoDigitHour

def isSecond (part : Option DatePart) : Bool :=
  part == some .second || part == some .twoDigitSecond

def firstPart? : DatePicture → Option DatePart
  | [] => none
  | .part part :: _ => some part
  | .literal _ :: rest => firstPart? rest

def writeFrom (moment : DateTime) (twelveHours : Bool) (previous : Option DatePart) :
    DatePicture → Except Failure Text
  | [] => .ok []
  | .literal char :: rest => do
    return char :: (← writeFrom moment twelveHours previous rest)
  | .part part :: rest => do
    let minutes := isHour previous || isSecond (firstPart? rest)
    let written ←
      if part = .month ∧ minutes then .ok (Text.ofNat moment.minute)
      else if part = .twoDigitMonth ∧ minutes then .ok (padded 2 moment.minute)
      else writePart moment twelveHours part
    return written ++ (← writeFrom moment twelveHours (some part) rest)

/-- The moment under the picture that a text writes; hours run to twelve when the text says am/pm. -/
def write (text : Text) (moment : DateTime) : Except Failure Text :=
  writeFrom moment (Text.occursIn "am/pm".toList (Text.lower text)) none (ofText text)

end DatePicture

end Worksheet
