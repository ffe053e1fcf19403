/-!
# Matcher definitions

A problem matcher as its author writes it: an ordered list of pattern steps, and
rules that say which capture group holds the file, the location, the severity,
the code and the message.  Group numbers count from zero, the whole match.
-/

set_option autoImplicit false

namespace LogProblems.Matcher

/-- One word, or several, that stand for a severity. -/
inductive Words where
  | one (word : String)
  | many (words : List String)
  deriving DecidableEq, Repr, Inhabited

/-- The words as a list. -/
def Words.toList : Words → List String
  | .one w => [w]
  | .many ws => ws

/-- How captured paths are meant: a mode, or a mode with a base directory. -/
inductive FileLocation where
  | mode (mode : String)
  | parts (parts : List String)
  deriving DecidableEq, Repr, Inhabited

/-- A switch, written as a truth value or as a text. -/
inductive Toggle where
  | flag (b : Bool)
  | text (s : String)
  deriving DecidableEq, Repr, Inhabited

/-- A text turns the switch on when it is not empty. -/
def Toggle.isOn : Toggle → Bool
  | .flag b => b
  | .text s => !s.isEmpty

/-- A pattern step: a regular expression and the groups that hold its fields. -/
structure StepDefinition where
  regexp : Option String := none
  severity : Option Nat := none
  code : Option Nat := none
  file : Option Nat := none
  /-- The group of a combined location (`line`, `line,column`, four numbers). -/
  location : Option Nat := none
  line : Option Nat := none
  endLine : Option Nat := none
  column : Option Nat := none
  endColumn : Option Nat := none
  message : Option Nat := none
  /-- Words of the three severities; read from the first step only. -/
  errorWords : Option Words := none
  warningWords : Option Words := none
  infoWords : Option Words := none
  /-- The kind `file` reports problems of a whole file. -/
  kind : Option String := none
  /-- Repeat this last step while it matches. -/
  loop : Option Bool := none
  deriving DecidableEq, Repr, Inhabited

/-- A field other than the message is extracted. -/
def StepDefinition.extracts (s : StepDefinition) : Bool :=
  s.severity.isSome || s.code.isSome || s.file.isSome || s.location.isSome || s.line.isSome
    || s.endLine.isSome || s.column.isSome || s.endColumn.isSome

/-- The pattern of a matcher: a lone step or a list of steps. -/
inductive Steps where
  | one (step : StepDefinition)
  | many (steps : List StepDefinition)
  deriving DecidableEq, Repr, Inhabited

/-- The steps as a list. -/
def Steps.toList : Steps → List StepDefinition
  | .one s => [s]
  | .many ss => ss

/-- A problem matcher as written. -/
structure Definition where
  title : Option String := none
  fileLocation : Option FileLocation := none
  /-- Captured lines and columns count from zero. -/
  zeroBased : Option Bool := none
  /-- Captured lines count from zero. -/
  zeroBasedLines : Option Bool := none
  /-- Captured columns count from zero. -/
  zeroBasedColumns : Option Bool := none
  /-- The suffix of the source label. -/
  source : Option String := none
  defaultSelected : Option Bool := none
  /-- One severity for every problem. -/
  severity : Option String := none
  errorWords : Option Words := none
  warningWords : Option Words := none
  infoWords : Option Words := none
  /-- Every problem points at the scanned log itself. -/
  linkToLogFile : Option Toggle := none
  pattern : Option Steps := none
  deriving DecidableEq, Repr, Inhabited

namespace Definition

/-- The steps, none when no pattern is written. -/
def steps (d : Definition) : List StepDefinition :=
  match d.pattern with
  | none => []
  | some p => p.toList

/-- The title, or one that names the matcher's place. -/
def titleAt (d : Definition) (place : Nat) : String :=
  d.title.getD s!"Matcher {place}"

/-- The matcher is selected unless its author says otherwise. -/
def isDefaultSelected (d : Definition) : Bool :=
  d.defaultSelected.getD true

end Definition

end LogProblems.Matcher
