import LogProblems.Document.Node
import LogProblems.Matcher.Definition

/-!
# Reading matcher definitions

How a definition is spelled in a document: the names of its fields, in the order
in which a list may give them instead, and the shape of each value.  A field that
is left out or null is absent; an unknown field is passed over; any other value
of the wrong shape makes the definition unreadable.

The pattern is a list of steps or one step.  A list of steps is tried first, so
an empty list has no steps rather than being one step without fields.
-/

set_option autoImplicit false

namespace LogProblems.Matcher

open LogProblems.Document

/-- One word, or a list of words. -/
def Words.ofValue? (v : Value) : Option Words :=
  match v with
  | .text s => some (.one s)
  | v => v.texts?.map .many

/-- A mode, or a list that starts with one. -/
def FileLocation.ofValue? (v : Value) : Option FileLocation :=
  match v with
  | .text s => some (.mode s)
  | v => v.texts?.map .parts

/-- A truth value or a text. -/
def Toggle.ofValue? (v : Value) : Option Toggle :=
  match v with
  | .bool b => some (.flag b)
  | .text s => some (.text s)
  | _ => none

namespace StepDefinition

/-- The names of a step's fields, in order. -/
def fieldNames : List String :=
  ["regexp", "severity", "code", "file", "location", "line", "endLine", "column", "endColumn",
    "message", "error_string", "warning_string", "info_string", "kind", "loop"]

/-- Reads a step from its fifteen slots. -/
def ofSlots? : List (Option Value) → Option StepDefinition
  | [regexp, severity, code, file, location, line, endLine, column, endColumn, message,
      errorWords, warningWords, infoWords, kind, loop] => do
    return {
      regexp := ← Value.optional Value.text? regexp
      severity := ← Value.optional Value.index? severity
      code := ← Value.optional Value.index? code
      file := ← Value.optional Value.index? file
      location := ← Value.optional Value.index? location
      line := ← Value.optional Value.index? line
      endLine := ← Value.optional Value.index? endLine
      column := ← Value.optional Value.index? column
      endColumn := ← Value.optional Value.index? endColumn
      message := ← Value.optional Value.index? message
      errorWords := ← Value.optional Words.ofValue? errorWords
      warningWords := ← Value.optional Words.ofValue? warningWords
      infoWords := ← Value.optional Words.ofValue? infoWords
      kind := ← Value.optional Value.text? kind
      loop := ← Value.optional Value.bool? loop }
  | _ => none

/-- Reads a step: a record, or a list of its fields in order. -/
def ofValue? (v : Value) : Option StepDefinition :=
  (v.fields? fieldNames).bind ofSlots?

end StepDefinition

/-- Reads a list of steps. -/
def Steps.many? : Value → Option (List StepDefinition)
  | .list items => items.mapM StepDefinition.ofValue?
  | _ => none

/-- Reads a pattern: a list of steps if it is one, else one step. -/
def Steps.ofValue? (v : Value) : Option Steps :=
  match Steps.many? v with
  | some steps => some (.many steps)
  | none => (StepDefinition.ofValue? v).map .one

namespace Definition

/-- The names of a matcher's fields, in order. -/
def fieldNames : List String :=
  ["title", "fileLocation", "problemLocationZeroBased", "problemLineZeroBased",
    "problemColumnZeroBased", "source", "defaultSelected", "severity", "error_string",
    "warning_string", "info_string", "linkToLogFile", "pattern"]

/-- Reads a node where any kind will do, and then the value. -/
def free {α : Type} (read : Value → Option α) (n : Node) : Option α :=
  n.free?.bind read

/-- Reads a matcher from its thirteen slots. -/
def ofSlots? : List (Option Node) → Option Definition
  | [title, fileLocation, zeroBased, zeroBasedLines, zeroBasedColumns, source, defaultSelected,
      severity, errorWords, warningWords, infoWords, linkToLogFile, pattern] => do
    return {
      title := ← Node.optional Node.text? title
      fileLocation := ← Node.optional (free FileLocation.ofValue?) fileLocation
      zeroBased := ← Node.optional Node.bool? zeroBased
      zeroBasedLines := ← Node.optional Node.bool? zeroBasedLines
      zeroBasedColumns := ← Node.optional Node.bool? zeroBasedColumns
      source := ← Node.optional Node.text? source
      defaultSelected := ← Node.optional Node.bool? defaultSelected
      severity := ← Node.optional Node.text? severity
      errorWords := ← Node.optional (free Words.ofValue?) errorWords
      warningWords := ← Node.optional (free Words.ofValue?) warningWords
      infoWords := ← Node.optional (free Words.ofValue?) infoWords
      linkToLogFile := ← Node.optional (free Toggle.ofValue?) linkToLogFile
      pattern := ← Node.optional (free Steps.ofValue?) pattern }
  | _ => none

/-- Reads a matcher: a record, or in some documents a list of its fields in order. -/
def ofNode? (n : Node) : Option Definition :=
  (n.fields? fieldNames).bind ofSlots?

end Definition

end LogProblems.Matcher
