import LogProblems.Matcher.Definition
import LogProblems.Text.Quoted

/-!
# What can be wrong with a matcher

A definition that cannot be compiled is left out of a scan, with a reason; some
definitions are kept with a notice.  Each cause has one wording.
-/

set_option autoImplicit false

namespace LogProblems.Matcher

/-- Why a definition is left out, or kept with a warning.  Each cause names the
title of the matcher. -/
inductive Fault where
  /-- A step has no regular expression. -/
  | missingRegex (matcher : String) (step : Nat)
  /-- Neither notation admits the regular expression. -/
  | invalidRegex (matcher : String) (pattern : String)
  /-- There is no step. -/
  | noSteps (matcher : String)
  /-- Nothing tells the severity of the problems. -/
  | noSeveritySource (matcher : String)
  deriving DecidableEq, Repr, Inhabited

namespace Fault

/-- The title of the matcher at fault. -/
def matcher : Fault → String
  | missingRegex m _ => m
  | invalidRegex m _ => m
  | noSteps m => m
  | noSeveritySource m => m

/-- The wording of a fault. -/
def message : Fault → String
  | missingRegex m step => s!"matcher '{m}': pattern step {step} has no 'regexp'"
  | invalidRegex m pattern => s!"matcher '{m}': regex compile error for pattern '{pattern}'"
  | noSteps m => s!"matcher '{m}': no pattern steps defined"
  | noSeveritySource m =>
    s!"matcher '{m}': no severity source (neither 'severity' on the matcher nor a severity "
      ++ "capture group)"

end Fault

/-- What is worth telling while matchers are compiled. -/
inductive Notice where
  /-- The way captured paths are meant is not known; they are used as they are. -/
  | unsupportedFileLocation (matcher : String) (location : FileLocation)
  /-- A matcher is left out. -/
  | excluded (fault : Fault)
  /-- A matcher is kept, but all its problems are hints. -/
  | keptAsHints (fault : Fault)
  deriving DecidableEq, Repr, Inhabited

/-- How a file location is shown: a mode between quotes as it is, a list with its
texts quoted. -/
def FileLocation.display : FileLocation → String
  | mode m => "\"" ++ m ++ "\""
  | parts ps => Text.quoteList ps

/-- The wording of a notice. -/
def Notice.message : Notice → String
  | unsupportedFileLocation _ _ => "unsupported fileLocation; using captured paths as-is"
  | excluded fault => "excluding matcher: " ++ fault.message
  | keptAsHints fault => fault.message ++ "; its diagnostics are reported as hints"

/-- The title of the matcher a notice is about. -/
def Notice.matcher : Notice → String
  | unsupportedFileLocation m _ => m
  | excluded fault => fault.matcher
  | keptAsHints fault => fault.matcher

end LogProblems.Matcher
