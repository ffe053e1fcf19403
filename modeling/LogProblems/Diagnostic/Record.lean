/-!
# Diagnostics

A scan reports *records*: a severity, a range, a message, an optional code and
the label of the matcher family that found it.  Records are filed under the path
they point at; those that point nowhere are filed under `noFile`.
-/

set_option autoImplicit false

namespace LogProblems

/-- How grave a problem is. -/
inductive Severity where
  | error
  | warning
  | information
  | hint
  deriving DecidableEq, Repr, Inhabited

namespace Severity

/-- The word shown to a reader of the text report. -/
def label : Severity → String
  | error => "error"
  | warning => "warning"
  | information => "info"
  | hint => "hint"

/-- The word written into structured reports. -/
def name : Severity → String
  | error => "error"
  | warning => "warning"
  | information => "information"
  | hint => "hint"

end Severity

/-- The path under which records are filed that resolve to no file. -/
def noFile : String := "None"

/-- The position meaning "to the end", also the greatest position there is. -/
def lineEnd : Nat := 4294967295

/-- An inclusive range of lines and columns, counted from zero. -/
structure Range where
  startLine : Nat
  startChar : Nat
  endLine : Nat
  endChar : Nat
  deriving DecidableEq, Repr, Inhabited

/-- A finished diagnostic. -/
structure Record where
  /-- The label of the matcher family. -/
  source : String
  range : Range
  severity : Severity
  message : String
  code : Option String
  deriving DecidableEq, Repr, Inhabited

/-- A record together with the path it is filed under. -/
structure Emission where
  path : String
  record : Record
  deriving DecidableEq, Repr, Inhabited

end LogProblems
