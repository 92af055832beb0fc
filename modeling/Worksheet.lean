import Worksheet.Files.Disk
import Worksheet.Main
import Worksheet.Proofs.Formula.Scan
import Worksheet.Proofs.Formula.Call
import Worksheet.Proofs.Formula.Argument
import Worksheet.Proofs.Formula.Reads
import Worksheet.Proofs.Formula.Volatile
import Worksheet.Proofs.Formula.Reporting
import Worksheet.Proofs.Formula.Grammar
import Worksheet.Proofs.Formula.Arithmetic
import Worksheet.Proofs.Builtin.Depth
import Worksheet.Proofs.Formula.Alternation
import Worksheet.Proofs.Formula.Literal
import Worksheet.Proofs.Formula.Comparison
import Worksheet.Proofs.Formula.Shape
import Worksheet.Proofs.Formula.Resolution
import Worksheet.Proofs.Formula.Containment
import Worksheet.Proofs.Sheet.Basic
import Worksheet.Proofs.Sheet.Reads
import Worksheet.Proofs.Formula.Nesting
import Worksheet.Proofs.Value.Decidable
import Worksheet.Proofs.Sheet.Refresh
import Worksheet.Proofs.Sheet.Recalculation
import Worksheet.Proofs.Address
import Worksheet.Proofs.Files.Disk
import Worksheet.Proofs.Json.Number
import Worksheet.Proofs.Json.RoundTrip
import Worksheet.Proofs.Log.Folder
import Worksheet.Proofs.Sheet.Run
import Worksheet.Proofs.Sheet.Table
import Worksheet.Proofs.Sheet.Texts
import Worksheet.Proofs.CellName
import Worksheet.Proofs.Formula.Range
import Worksheet.Proofs.Sheet.BottomUp
import Worksheet.Proofs.Formula.Quoted
import Worksheet.Proofs.Number.Order
import Worksheet.Proofs.Value.Order
import Worksheet.Proofs.Formula.Replacement
import Worksheet.Proofs.Criteria
import Worksheet.Proofs.Builtin.Grid
import Worksheet.Proofs.Builtin.Conditional
import Worksheet.Proofs.Builtin.Substitution
import Worksheet.Proofs.Builtin.Calendar
import Worksheet.Proofs.Builtin.MonthShift
import Worksheet.Proofs.Builtin.Distance
import Worksheet.Proofs.Builtin.Workday
import Worksheet.Proofs.Builtin.DateCall
import Worksheet.Proofs.Builtin.TimeOfDay
import Worksheet.Proofs.Builtin.WeekNumber
import Worksheet.Proofs.Builtin.Places
import Worksheet.Proofs.Builtin.Joining
import Worksheet.Proofs.Builtin.CodeText
import Worksheet.Proofs.Builtin.Multiple
import Worksheet.Proofs.Event
import Worksheet.Proofs.Number.Longest
import Worksheet.Proofs.Formula.Obstacle
import Worksheet.Proofs.Builtin.Search
import Worksheet.Proofs.Formula.Folding
import Worksheet.Proofs.Sheet.Export
