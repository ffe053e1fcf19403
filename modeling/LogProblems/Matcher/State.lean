import LogProblems.Matcher.Compiled
import LogProblems.Matcher.Message

/-!
# Running a matcher

A matcher walks through its steps, one line at a time, and gathers the fields of
one problem.  A line that the current step does not match throws the problem away,
unless the step only continues a message, in which case the problem is complete.
The last step completes the problem; if it repeats, the matcher stays there.

* `advance_of_step`: a cursor within the steps never fails.
-/

set_option autoImplicit false

namespace LogProblems.Matcher

/-- A matcher under way: the place of the step to try next, and the problem
gathered so far. -/
structure State where
  cursor : Nat := 0
  range : WorkingRange := {}
  message : Message := {}
  severity : Severity := .hint
  code : Option String := none
  path : String := noFile
  /-- Something was gathered that has not been reported yet. -/
  isOpen : Bool := false
  deriving DecidableEq, Repr, Inhabited

/-- The cursor names no step of the matcher. -/
structure MissingStep where
  matcher : String
  cursor : Nat
  deriving DecidableEq, Repr, Inhabited

/-- The wording of a missing step. -/
def MissingStep.message (e : MissingStep) : String :=
  s!"internal error: matcher '{e.matcher}' has no pattern step at index {e.cursor}; "
    ++ "please report this bug"

namespace State

/-- Nothing gathered, at the first step. -/
def blank : State := {}

/-- Throws away what was gathered. -/
def reset (_ : State) : State := blank

/-- The problem gathered so far, finished. -/
def emission (s : State) (m : Compiled) : Emission :=
  { path := s.path
    record :=
      { source := m.source
        range := s.range.toRange
        severity := s.severity
        message := s.message.text
        code := s.code } }

/-- The path and the range after a match.  A matcher that points at the log stays
at the line its first step matched. -/
def locate (s : State) (m : Compiled) (step : Step) (groups : Groups) (line : Nat)
    (context : Context) : State :=
  if m.pathMode = .logFile then
    { s with
      path := context.logFile
      range := if s.cursor = 0 then .anchoredAt line else s.range }
  else
    match step.fields? with
    | none => s
    | some fields =>
      { s with
        path := ((fields.file.bind groups.get?).bind (context.resolve m.pathMode)).getD s.path
        range := resolveLocation fields.location groups m.indexing s.range }

/-- The problem gathered after a match. -/
def gather (s : State) (m : Compiled) (step : Step) (groups : Groups) (line : Nat)
    (context : Context) : State :=
  let fields := step.fields?
  let severity := m.severity.resolve (fields.bind (·.severity)) groups s.severity
  let code := ((fields.bind (·.code)).bind groups.get?).or s.code
  let located := s.locate m step groups line context
  let message :=
    match step.messageGroup.bind groups.get? with
    | some text => s.message.push text
    | none => s.message
  { located with severity, code, message, isOpen := true }

/-- The state after a match at the cursor, and the problem it completes. -/
def step (s : State) (m : Compiled) (step : Step) (groups : Groups) (line : Nat)
    (context : Context) : State × Option Emission :=
  let s := s.gather m step groups line context
  if s.cursor = m.steps.length - 1 then
    let completed := !step.isContinuation
    let after := if completed then { s with isOpen := false } else s
    (if m.steps.length = 1 || !step.loops then blank else after,
      if completed then some (s.emission m) else none)
  else ({ s with cursor := s.cursor + 1 }, none)

/-- The problem that a line without match completes. -/
def unmatched (s : State) (m : Compiled) (step : Step) : Option Emission :=
  if step.isContinuation && s.isOpen then some (s.emission m) else none

/-- Tries the current step against a line: the state afterwards, and the problem
that was completed. -/
def advance (s : State) (m : Compiled) (line : String) (number : Nat) (context : Context) :
    Except MissingStep (State × Option Emission) :=
  match m.steps[s.cursor]? with
  | none => .error ⟨m.title, s.cursor⟩
  | some current =>
    match current.pattern.find line with
    | none => .ok (s.reset, s.unmatched m current)
    | some groups => .ok (s.step m current groups number context)

/-- The end of the input: the state afterwards, and the problem still open. -/
def flush (s : State) (m : Compiled) : State × Option Emission :=
  (s.reset, if s.isOpen then some (s.emission m) else none)

/-- A cursor within the steps never fails. -/
theorem advance_of_step {s : State} {m : Compiled} (h : s.cursor < m.steps.length)
    (line : String) (number : Nat) (context : Context) :
    ∃ r, s.advance m line number context = .ok r := by
  simp only [advance, List.getElem?_eq_getElem h]
  split
  · exact ⟨_, rfl⟩
  · exact ⟨_, rfl⟩

end State

end LogProblems.Matcher
