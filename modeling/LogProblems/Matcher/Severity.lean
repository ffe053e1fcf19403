import LogProblems.Diagnostic.Record
import LogProblems.Matcher.Definition
import LogProblems.Pattern.Basic
import LogProblems.Text.Lowercase

/-!
# Where severities come from

A matcher either declares one severity for all its problems, or reads a severity
word from a capture group and looks it up among the words of each severity, or
does neither.

Words given by the author are compared exactly.  A severity without such words
has one built-in word, which is compared in lower case.
-/

set_option autoImplicit false

namespace LogProblems.Matcher

/-- The severity a declared word names, in any letter case. -/
def declaredSeverity (word : String) : Option Severity :=
  let folded := Text.Lowercase.ofText word
  if folded = "error" then some .error
  else if folded = "warning" then some .warning
  else if folded = "info" then some .information
  else none

/-- The words of one severity. -/
inductive Indicator where
  /-- Words of the author, compared exactly. -/
  | custom (words : List String)
  /-- The built-in word, compared in lower case. -/
  | builtIn (word : String)
  deriving DecidableEq, Repr, Inhabited

namespace Indicator

/-- The captured word stands for the severity. -/
def accepts (captured : String) : Indicator → Bool
  | .custom words => words.contains captured
  | .builtIn word => word == Text.Lowercase.ofText captured

/-- The words are the built-in one. -/
def isBuiltIn : Indicator → Bool
  | .custom _ => false
  | .builtIn _ => true

end Indicator

/-- The words of the three severities that can be captured. -/
structure Indicators where
  error : Indicator := .builtIn "error"
  warning : Indicator := .builtIn "warning"
  info : Indicator := .builtIn "info"
  deriving DecidableEq, Repr, Inhabited

namespace Indicators

/-- The matcher's words if given, else the first step's, else the built-in word. -/
def pick (matcher step : Option Words) (word : String) : Indicator :=
  match matcher.or step with
  | some words => .custom words.toList
  | none => .builtIn word

/-- The words of a definition. -/
def ofDefinition (d : Definition) : Indicators :=
  let first := d.steps.head?
  { error := pick d.errorWords (first.bind (·.errorWords)) "error"
    warning := pick d.warningWords (first.bind (·.warningWords)) "warning"
    info := pick d.infoWords (first.bind (·.infoWords)) "info" }

/-- The first severity that accepts the captured word. -/
def classify (i : Indicators) (captured : String) : Option Severity :=
  if i.error.accepts captured then some .error
  else if i.warning.accepts captured then some .warning
  else if i.info.accepts captured then some .information
  else none

end Indicators

/-- Where a matcher's severities come from. -/
inductive SeverityRule where
  /-- One severity for every problem; a word that names none changes nothing. -/
  | fixed (severity : Option Severity)
  /-- The captured word, looked up. -/
  | captured (indicators : Indicators)
  /-- Neither; every problem stays a hint. -/
  | unspecified
  deriving DecidableEq, Repr, Inhabited

namespace SeverityRule

/-- The rule of a definition: a declared severity first, then captured words. -/
def ofDefinition (d : Definition) : SeverityRule :=
  match d.severity.filter (!·.isEmpty) with
  | some word => .fixed (declaredSeverity word)
  | none =>
    if d.steps.any (·.severity.isSome) then .captured (.ofDefinition d) else .unspecified

/-- The severity after a step whose severity word stands in `group`. -/
def resolve (rule : SeverityRule) (group : Option Nat) (groups : Groups) (current : Severity) :
    Severity :=
  match rule with
  | .fixed severity => severity.getD current
  | .captured indicators =>
    ((group.bind groups.get?).bind indicators.classify).getD current
  | .unspecified => current

end SeverityRule

end LogProblems.Matcher
