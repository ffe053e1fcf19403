import LogProblems.Matcher.Fault
import LogProblems.Matcher.Location
import LogProblems.Matcher.Path
import LogProblems.Matcher.Severity
import LogProblems.Pattern.Compile

/-!
# Compiled matchers

A definition is compiled once and then run against every line.  Compiling reads
the regular expressions, gives each step its role, and settles how severities,
paths and positions are found.

A step either extracts fields, or only continues the message of the problem under
way.  It continues a message when it repeats, has a message group and extracts
nothing else.

* `StepDefinition.not_loops_only`: the only step of a matcher does not repeat.
-/

set_option autoImplicit false

namespace LogProblems.Matcher

/-- The label of every record, before the suffix of the matcher. -/
def sourceLabel : String := "LPM"

/-- The groups of the fields a step extracts. -/
structure FieldGroups where
  severity : Option Nat
  code : Option Nat
  file : Option Nat
  message : Option Nat
  location : LocationCapture
  deriving DecidableEq, Repr, Inhabited

/-- What a step does when it matches. -/
inductive Role where
  /-- Adds a line to the message of the problem under way. -/
  | continuation (message : Nat)
  /-- Extracts fields. -/
  | extract (fields : FieldGroups)
  deriving DecidableEq, Repr, Inhabited

/-- A compiled step. -/
structure Step where
  pattern : Pattern
  role : Role
  /-- The step repeats while it matches; this matters for the last step only. -/
  loops : Bool

namespace Step

/-- The step only adds to the message of the problem under way. -/
def isContinuation (s : Step) : Bool :=
  match s.role with
  | .continuation _ => true
  | .extract _ => false

/-- The fields the step extracts, none when it continues a message. -/
def fields? (s : Step) : Option FieldGroups :=
  match s.role with
  | .continuation _ => none
  | .extract f => some f

/-- The group of the step's message. -/
def messageGroup (s : Step) : Option Nat :=
  match s.role with
  | .continuation message => some message
  | .extract f => f.message

end Step

/-- A compiled matcher. -/
structure Compiled where
  title : String
  /-- The label of every record. -/
  source : String
  steps : List Step
  severity : SeverityRule
  pathMode : PathMode
  indexing : Indexing

/-- Nothing tells the severity of the matcher's problems. -/
def Compiled.lacksSeveritySource (m : Compiled) : Bool :=
  m.severity == .unspecified

/-! ## Steps -/

/-- How a step extracts its location. -/
def StepDefinition.locationCapture (s : StepDefinition) (wholeFile : Bool) : LocationCapture :=
  if wholeFile then .wholeFile
  else
    match s.location with
    | some group => .combined group
    | none =>
      .discrete
        { line := s.line, endLine := s.endLine, column := s.column, endColumn := s.endColumn }

/-- The step repeats; the only step of a matcher never does. -/
def StepDefinition.loops (s : StepDefinition) (only : Bool) : Bool :=
  s.loop.getD false && !only

/-- The only step of a matcher does not repeat. -/
theorem StepDefinition.not_loops_only (s : StepDefinition) : s.loops true = false := by
  simp [StepDefinition.loops]

/-- The role of a step. -/
def StepDefinition.role (s : StepDefinition) (wholeFile only : Bool) : Role :=
  match s.message with
  | some message =>
    if s.loops only && !s.extracts then .continuation message
    else .extract ⟨s.severity, s.code, s.file, s.message, s.locationCapture wholeFile⟩
  | none => .extract ⟨s.severity, s.code, s.file, s.message, s.locationCapture wholeFile⟩

/-- Compiles the step at `place`. -/
def compileStep (title : String) (wholeFile only : Bool) (place : Nat) (s : StepDefinition) :
    Except Fault Step :=
  match s.regexp with
  | none => .error (.missingRegex title place)
  | some source =>
    match Pattern.compile? source with
    | none => .error (.invalidRegex title source)
    | some pattern => .ok { pattern, role := s.role wholeFile only, loops := s.loops only }

/-- Compiles steps from `place` on; the first that fails decides. -/
def compileSteps (title : String) (wholeFile only : Bool) :
    Nat → List StepDefinition → Except Fault (List Step)
  | _, [] => .ok []
  | place, s :: rest =>
    match compileStep title wholeFile only place s with
    | .error fault => .error fault
    | .ok step =>
      match compileSteps title wholeFile only (place + 1) rest with
      | .error fault => .error fault
      | .ok steps => .ok (step :: steps)

/-! ## Matchers -/

/-- The mode and the base of a file location; what follows the base is ignored. -/
def FileLocation.modeAndBase : FileLocation → String × Option String
  | .mode m => (m, none)
  | .parts [] => ("", none)
  | .parts [m] => (m, none)
  | .parts (m :: base :: _) => (m, some base)

/-- The path mode a file location asks for, if it is one that is known. -/
def FileLocation.pathMode? (location : FileLocation) : Option PathMode :=
  match location.modeAndBase with
  | ("relative", some base) => some (.relative (.parse base))
  | ("relative", none) => some (.relative .workspace)
  | ("absolute", _) => some .absolute
  | _ => none

namespace Definition

/-- Problems point at the scanned log itself. -/
def linksToLog (d : Definition) : Bool :=
  d.linkToLogFile.any (·.isOn)

/-- How the paths of problems are resolved.  Paths are used as they are when the
definition does not say, or says something unknown. -/
def pathMode (d : Definition) : PathMode :=
  if d.linksToLog then .logFile
  else
    match d.fileLocation with
    | none => .absolute
    | some location => location.pathMode?.getD .absolute

/-- A notice when the file location says something unknown. -/
def pathNotices (d : Definition) (title : String) : List Notice :=
  if d.linksToLog then []
  else
    match d.fileLocation with
    | none => []
    | some location =>
      match location.pathMode? with
      | some _ => []
      | none => [.unsupportedFileLocation title location]

/-- The label of the matcher's records. -/
def sourceName (d : Definition) : String :=
  match d.source.filter (!·.isEmpty) with
  | some suffix => sourceLabel ++ "-" ++ suffix
  | none => sourceLabel

/-- From where captured positions are counted. -/
def indexing (d : Definition) : Indexing :=
  { whole := d.zeroBased.getD false
    line := d.zeroBasedLines.getD false
    column := d.zeroBasedColumns.getD false }

/-- The matcher reports problems of whole files; the first step decides. -/
def wholeFile (d : Definition) : Bool :=
  (d.steps.head?.bind (·.kind)) == some "file"

end Definition

/-- Compiles a definition; an untitled one is named after its place. -/
def compile (d : Definition) (place : Nat) : Except Fault Compiled :=
  let title := d.titleAt place
  if d.steps.isEmpty then .error (.noSteps title)
  else
    match compileSteps title d.wholeFile (d.steps.length == 1) 0 d.steps with
    | .error fault => .error fault
    | .ok steps =>
      .ok
        { title
          source := d.sourceName
          steps
          severity := .ofDefinition d
          pathMode := d.pathMode
          indexing := d.indexing }

end LogProblems.Matcher
