import LogProblems.Document.Json.Printer
import LogProblems.Scan.Scanner

/-!
# Reports

The outcome of a scan as text, one line for each problem and one for the sum, or as JSON.
Lines and columns count from one in the text and from zero in JSON.
-/

set_option autoImplicit false

namespace LogProblems.CommandLine

open LogProblems.Document

/-! ## Styles -/

/-- How a piece of text is shown on a terminal. -/
structure Style where
  /-- A colour of the terminal's palette. -/
  color : Option Nat := none
  bold : Bool := false
  dim : Bool := false
  deriving DecidableEq, Repr, Inhabited

/-- A control sequence with a parameter. -/
def control (parameter : String) : String :=
  "\x1b[" ++ parameter ++ "m"

/-- A piece of text between the sequences that switch its style on and off. -/
def Style.paint (s : Style) (text : String) : String :=
  let color := (s.color.map fun n => control ("38;5;" ++ toString n)).getD ""
  let bold := if s.bold then control "1" else ""
  let dim := if s.dim then control "2" else ""
  let off := if s.bold || s.dim then control "0" else if s.color.isSome then control "39" else ""
  color ++ bold ++ dim ++ text ++ off

/-- The style of a severity. -/
def severityStyle : Severity → Style
  | .error => { color := some 9, bold := true }
  | .warning => { color := some 11, bold := true }
  | .information => { color := some 12 }
  | .hint => { color := some 8 }

/-! ## Text -/

/-- A position as people count, up to the greatest one. -/
def shownPosition (n : Nat) : Nat :=
  min (n + 1) lineEnd

/-- The line of a problem. -/
def recordLine (colored : Bool) (path : String) (r : Record) : String :=
  let paint (s : Style) (text : String) : String := if colored then s.paint text else text
  let code := (r.code.map fun c => "[" ++ c ++ "]").getD ""
  paint { bold := true } path
    ++ s!":{shownPosition r.range.startLine}:{shownPosition r.range.startChar}: "
    ++ paint (severityStyle r.severity) r.severity.label ++ code ++ ": " ++ r.message
    ++ " (" ++ paint { color := some 8 } r.source ++ ")\n"

/-- A number of things, the thing named in the singular. -/
def counted (n : Nat) (thing : String) : String :=
  s!"{n} {thing}" ++ (if n == 1 then "" else "s")

/-- The last line of a report. -/
def summary (output : ScanOutput) : String :=
  counted output.listing.total "problem" ++ " in " ++ counted output.listing.size "file"
    ++ s!" ({output.linesScanned} lines scanned)"

/-- A report as text. -/
def textReport (colored : Bool) (output : ScanOutput) : String :=
  let lines := output.listing.files.toList.flatMap fun f =>
    f.records.toList.map (recordLine colored f.path)
  let last := summary output
  String.join lines ++ (if colored then Style.paint { dim := true } last else last) ++ "\n"

/-! ## JSON -/

/-- A problem as JSON; names are in alphabetical order. -/
def recordTree (r : Record) : Json.Tree :=
  .record ((r.code.map fun c => ("code", Json.Tree.text c)).toList ++
    [("message", .text r.message),
      ("range", .record
        [("end_char", .number r.range.endChar), ("end_line", .number r.range.endLine),
          ("start_char", .number r.range.startChar), ("start_line", .number r.range.startLine)]),
      ("severity", .text r.severity.name),
      ("source", .text r.source)])

/-- A report as JSON. -/
def jsonReport (output : ScanOutput) : String :=
  let files := output.listing.files.toList.map fun f =>
    Json.Tree.record
      [("diagnostics", .list (f.records.toList.map recordTree)), ("path", .text f.path)]
  (Json.Tree.record [("files", .list files), ("linesScanned", .number output.linesScanned)]).pretty
    ++ "\n"

end LogProblems.CommandLine
