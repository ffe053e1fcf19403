import LogProblems.Proofs.Matcher.Block
import LogProblems.Proofs.Matcher.InnerLoops
import LogProblems.Scan.Scanner

/-!
# Steps as they are written

A matcher can be run without being compiled, by reading at each match whatever groups
the step of its definition declares.  Such a machine knows no roles: it resolves a
location at every step, where a step that continues a message leaves the range alone.
Nothing comes of it, because the range under construction is within its bounds.

* `gather_eq_gatherWritten` and `advance_eq_advanceWritten`: one match and one line;
* `emissions_eq_emissionsWritten`: a whole run;
* `compile_setLoop_only`: the flag of an only step;
* `written_steps_agree`: both for any definition.
-/

set_option autoImplicit false

namespace LogProblems

open LogProblems.Matcher

/-! ## The machine -/

namespace Matcher

/-- The step takes a message as long as it repeats, and declares nothing else. -/
def StepDefinition.collects (s : StepDefinition) : Bool :=
  s.message.isSome && s.loop == some true && s.severity.isNone && s.code.isNone && s.file.isNone
    && s.location.isNone && s.line.isNone && s.endLine.isNone && s.column.isNone
    && s.endColumn.isNone

/-- The range after a match, by the groups that the step declares. -/
def StepDefinition.rangeAfter (s : StepDefinition) (groups : Groups) (indexing : Indexing)
    (r : WorkingRange) : WorkingRange :=
  match s.location with
  | some group => resolveLocation (.combined group) groups indexing r
  | none =>
    resolveLocation
      (.discrete
        { line := s.line, endLine := s.endLine, column := s.column, endColumn := s.endColumn })
      groups indexing r

namespace State

/-- The problem gathered after a match, by the groups that the step declares. -/
def gatherWritten (s : State) (d : Definition) (step : StepDefinition) (groups : Groups)
    (line : Nat) (context : Context) : State :=
  { cursor := s.cursor
    severity := (SeverityRule.ofDefinition d).resolve step.severity groups s.severity
    code := (step.code.bind groups.get?).or s.code
    path :=
      if d.pathMode = .logFile then context.logFile
      else ((step.file.bind groups.get?).bind (context.resolve d.pathMode)).getD s.path
    range :=
      if d.pathMode = .logFile then if s.cursor = 0 then .anchoredAt line else s.range
      else if d.wholeFile then s.range
      else step.rangeAfter groups d.indexing s.range
    message :=
      match step.message.bind groups.get? with
      | some text => s.message.push text
      | none => s.message
    isOpen := true }

/-- The problem gathered so far, with the label of the definition. -/
def emissionWritten (s : State) (d : Definition) : Emission :=
  { path := s.path
    record :=
      { source := d.sourceName
        range := s.range.toRange
        severity := s.severity
        message := s.message.text
        code := s.code } }

/-- Tries the step under the cursor against a line, as it is written. -/
def advanceWritten (s : State) (d : Definition) (place : Nat) (line : String) (number : Nat)
    (context : Context) : Except MissingStep (State × Option Emission) :=
  match d.steps[s.cursor]? with
  | none => .error ⟨d.titleAt place, s.cursor⟩
  | some current =>
    match (current.regexp.bind Pattern.compile?).bind (·.find line) with
    | none =>
      .ok (blank, if current.collects && s.isOpen then some (s.emissionWritten d) else none)
    | some groups =>
      let s := s.gatherWritten d current groups number context
      if s.cursor = d.steps.length - 1 then
        let after := if current.collects then s else { s with isOpen := false }
        .ok (if d.steps.length = 1 || current.loop != some true then blank else after,
          if current.collects then none else some (s.emissionWritten d))
      else .ok ({ s with cursor := s.cursor + 1 }, none)

/-- The problem still open at the end of the input. -/
def flushWritten (s : State) (d : Definition) : Option Emission :=
  if s.isOpen then some (s.emissionWritten d) else none

/-- What the definition reports from a state on: the lines from the given number on, and
then the end of the input. -/
def emissionsWritten (d : Definition) (place : Nat) (context : Context) :
    State → Nat → List String → Except MissingStep (List Emission)
  | s, _, [] => .ok (s.flushWritten d).toList
  | s, number, line :: rest =>
    match s.advanceWritten d place line number context with
    | .error fault => .error fault
    | .ok (s, completed) =>
      (s.emissionsWritten d place context (number + 1) rest).map (completed.toList ++ ·)

end State

/-! ## One match -/

namespace StepDefinition

variable {s : StepDefinition}

theorem loops_of_many (s : StepDefinition) : s.loops false = (s.loop == some true) := by
  cases hloop : s.loop with
  | none => simp [loops, hloop]
  | some flag => cases flag <;> simp [loops, hloop]

/-- With more steps than one, the steps that continue a message are those that collect. -/
theorem collects_eq (s : StepDefinition) :
    s.collects = (s.message.isSome && (s.loops false && !s.extracts)) := by
  simp only [collects, extracts, loops_of_many, Bool.not_or, Option.not_isSome, Bool.and_assoc]

/-- Any role of a step is similar to the one that extracts whatever is declared. -/
theorem role_similar_only (wholeFile only : Bool) :
    (s.role wholeFile only).Similar (s.role wholeFile true) := by
  cases hmessage : s.message with
  | none =>
    refine Or.inl ?_
    simp only [role, hmessage]
  | some group =>
    cases hextracts : s.extracts with
    | true =>
      refine Or.inl ?_
      simp only [role, hmessage, hextracts, Bool.not_true, Bool.and_false]
    | false =>
      exact Or.inr ⟨group, role_onlyMessage hmessage hextracts wholeFile only,
        role_onlyMessage hmessage hextracts wholeFile true⟩

theorem role_only (s : StepDefinition) (wholeFile : Bool) :
    s.role wholeFile true
      = .extract ⟨s.severity, s.code, s.file, s.message, s.locationCapture wholeFile⟩ := by
  simp only [role, not_loops_only, Bool.false_and, Bool.false_eq_true, if_false]
  cases s.message <;> rfl

theorem rangeAfter_eq (s : StepDefinition) (wholeFile : Bool) (groups : Groups)
    (indexing : Indexing) (r : WorkingRange) :
    resolveLocation (s.locationCapture wholeFile) groups indexing r
      = if wholeFile then r else s.rangeAfter groups indexing r := by
  cases wholeFile with
  | true => rfl
  | false => cases hlocation : s.location <;> simp [locationCapture, rangeAfter, hlocation]

end StepDefinition

namespace State

variable {s : State} {d : Definition} {current : Step} {written : StepDefinition} {only : Bool}

/-- What a compiled step gathers is what the step gathers as it is written. -/
theorem gather_eq_gatherWritten (place : Nat) (steps : List Step)
    (h : written.Compiles d.wholeFile only current)
    (hbounds : d.pathMode ≠ .logFile → s.range.InBounds) (groups : Groups) (number : Nat)
    (context : Context) :
    s.gather (d.assembled place steps) current groups number context
      = s.gatherWritten d written groups number context := by
  have hsimilar : current.role.Similar (written.role d.wholeFile true) := by
    rw [h.role]
    exact StepDefinition.role_similar_only d.wholeFile only
  have hextract : s.gather (d.assembled place steps)
      { current with role := written.role d.wholeFile true } groups number context
        = s.gatherWritten d written groups number context := by
    simp only [gather, gatherWritten, locate, Definition.assembled, written.role_only,
      Step.fields?, Step.messageGroup, Option.bind_some, written.rangeAfter_eq]
    split <;> rfl
  have hsame : s.gather (d.assembled place steps)
      { current with role := written.role d.wholeFile true } groups number context
        = s.gather (d.assembled place steps) current groups number context :=
    gather_of_similar hsimilar hbounds
  exact hsame.symm.trans hextract

end State

/-! ## A whole run -/

namespace State

variable {d : Definition} {place : Nat} {m : Compiled}

theorem advance_eq_advanceWritten (h : compile d place = .ok m) (hmany : 2 ≤ d.steps.length)
    {s : State} (hs : s.Sound m) (line : String) (number : Nat) (context : Context) :
    s.advance m line number context = s.advanceWritten d place line number context := by
  have hlen := length_of_compile h
  obtain ⟨_, steps, hsteps, rfl⟩ := compile_eq_ok_iff.1 h
  have honly : (d.steps.length == 1) = false := by
    rw [beq_eq_false_iff_ne]
    omega
  rw [honly] at hsteps
  obtain ⟨current, hcurrent⟩ := hs.exists_step
  obtain ⟨written, hwritten, hcompiles⟩ :=
    exists_getElem?_of_forall₂ (compileSteps_ok hsteps) hcurrent
  have hcollects : current.isContinuation = written.collects := by
    rw [hcompiles.isContinuation, written.collects_eq]
  have hloops : current.loops = (written.loop == some true) := by
    rw [hcompiles.loops, written.loops_of_many]
  simp only [advanceWritten, hwritten, hcompiles.pattern, Option.bind_some]
  cases hfind : current.pattern.find line with
  | none =>
    rw [advance_of_unmatched hcurrent hfind, unmatched, hcollects]
    rfl
  | some groups =>
    have hgather := gather_eq_gatherWritten place steps hcompiles hs.inBounds groups number context
    rw [advance_of_match hcurrent hfind]
    simp only [step, hgather, hcollects, hloops, hlen]
    split
    · cases written.collects <;> rfl
    · rfl

/-- A compiled matcher reports what the definition reports. -/
theorem emissions_eq_emissionsWritten (h : compile d place = .ok m) (hmany : 2 ≤ d.steps.length)
    (context : Context) (lines : List String) :
    ∀ {s : State} (number : Nat), s.Sound m →
      s.emissions m context number lines
        = s.emissionsWritten d place context number lines := by
  have hsource : m.source = d.sourceName := by
    obtain ⟨_, _, _, rfl⟩ := compile_eq_ok_iff.1 h
    rfl
  induction lines with
  | nil =>
    intro s number _
    simp only [emissions, emissionsWritten, flush, flushWritten, emission, emissionWritten, hsource]
  | cons line rest ih =>
    intro s number hs
    obtain ⟨after, completed, hadvance, hafter⟩ :=
      advance_sound (compile_lawful h) hs line number context
    rw [emissions, emissionsWritten, ← advance_eq_advanceWritten h hmany hs, hadvance]
    simp only [ih (number + 1) hafter]

end State

/-! ## The flag of an only step -/

/-- The flag of an only step does not matter for what it is compiled to. -/
theorem compileSteps_setLoop_only (title : String) (wholeFile : Bool) (s : StepDefinition)
    (loop : Option Bool) :
    compileSteps title wholeFile true 0 [s.setLoop loop]
      = compileSteps title wholeFile true 0 [s] := by
  have hstep : compileStep title wholeFile true 0 (s.setLoop loop)
      = compileStep title wholeFile true 0 s := by
    simp only [compileStep, StepDefinition.role_only, StepDefinition.not_loops_only]
    rfl
  simp only [compileSteps, hstep]

theorem compile_setLoop_only {d : Definition} {s : StepDefinition} (hone : d.steps = [s])
    {loop : Option Bool} {pattern : Steps} (hpattern : pattern.toList = [s.setLoop loop])
    (place : Nat) : compile { d with pattern := some pattern } place = compile d place := by
  have hsteps : ({ d with pattern := some pattern } : Definition).steps = [s.setLoop loop] :=
    hpattern
  have hwhole : ({ d with pattern := some pattern } : Definition).wholeFile = d.wholeFile := by
    rw [Definition.wholeFile, Definition.wholeFile, hsteps, hone]
    rfl
  have hseverity : SeverityRule.ofDefinition { d with pattern := some pattern }
      = SeverityRule.ofDefinition d := by
    simp only [SeverityRule.ofDefinition, Indicators.ofDefinition, hsteps, hone]
    rfl
  have hassembled : ({ d with pattern := some pattern } : Definition).assembled place
      = d.assembled place := by
    unfold Definition.assembled
    rw [hseverity]
    rfl
  apply compile_congr hassembled
  · rw [hsteps, hone]
    rfl
  · rw [hsteps, hone, hwhole]
    exact compileSteps_setLoop_only _ _ s loop

end Matcher

theorem Scanner.verdicts_append (strict : Bool) (first second : List Definition) (place : Nat) :
    Scanner.verdicts strict place (first ++ second)
      = Scanner.verdicts strict place first
          ++ Scanner.verdicts strict (place + first.length) second := by
  induction first generalizing place with
  | nil => rfl
  | cons d rest ih =>
    rw [List.cons_append, verdicts, verdicts, ih, List.cons_append, List.length_cons,
      Nat.add_right_comm, Nat.add_assoc]

/-- **Compiling the steps changes no run.**

A definition with several steps that compiles reports, over any lines and then the end of
the input, what the machine reports that reads the groups of the written steps and knows
no roles.  A definition with one step gives, at any place among others and with any
options, the same scanner whether its `loop` flag is absent, false or true, so all scans
are the same. -/
theorem written_steps_agree :
    (∀ (d : Definition) (place : Nat) (m : Compiled), compile d place = .ok m →
      2 ≤ d.steps.length → ∀ (context : Context) (number : Nat) (lines : List String),
        ∃ es, State.blank.emissions m context number lines = .ok es ∧
          State.blank.emissionsWritten d place context number lines = .ok es) ∧
    ∀ (d : Definition) (s : StepDefinition), d.steps = [s] →
      ∀ (loop : Option Bool) (pattern : Steps), pattern.toList = [s.setLoop loop] →
        ∀ (before later : List Definition) (options : ScanOptions),
          Scanner.ofDefinitions (before ++ { d with pattern := some pattern } :: later) options
            = Scanner.ofDefinitions (before ++ d :: later) options := by
  constructor
  · intro d place m h hmany context number lines
    have hm := compile_lawful h
    have hsound := State.sound_blank hm
    refine ⟨_, Compiled.emissions_blank hm number lines, ?_⟩
    rw [← State.emissions_eq_emissionsWritten h hmany context lines number hsound]
    exact Compiled.emissions_blank hm number lines
  · intro d s hone loop pattern hpattern before later options
    have hverdict : ∀ place, Verdict.of options.strictSeverity place
        { d with pattern := some pattern } = Verdict.of options.strictSeverity place d := by
      intro place
      simp only [Verdict.of, compile_setLoop_only hone hpattern place]
    simp only [Scanner.ofDefinitions, Scanner.verdicts_append, Scanner.verdicts, hverdict]

/-- A location and two lines of its message, and a step that would collect if it were not
the only one. -/
theorem written_steps_agree_notes :
    ∃ d m es, d = { pattern := some (.many
        [{ regexp := some "^In (.*):(.*)$", file := some 1, line := some 2 },
          { regexp := some "^  (.*)$", message := some 1, loop := some true }]) } ∧
      compile d 0 = .ok m ∧ 2 ≤ d.steps.length ∧
      State.blank.emissionsWritten d 0 {} 0 ["In a.c:3", "  one", "  two", "X"] = .ok es ∧
      es.map (fun e => (e.path, e.record.range, e.record.message))
        = [("a.c", ⟨2, 1, 2, 4294967295⟩, "one two")] ∧
      Scanner.ofDefinitions ([] ++ [{ pattern := some (.one
          { regexp := some "^  (.*)$", message := some 1, loop := some true }) }]) {}
        = Scanner.ofDefinitions ([] ++ [{ pattern := some (.one
          { regexp := some "^  (.*)$", message := some 1 }) }]) {} := by
  have hrun : (compile { pattern := some (.many
      [{ regexp := some "^In (.*):(.*)$", file := some 1, line := some 2 },
        { regexp := some "^  (.*)$", message := some 1, loop := some true }]) } 0).toOption.map
      (fun m => (State.blank.emissions m {} 0
        ["In a.c:3", "  one", "  two", "X"]).toOption.map fun es =>
          es.map fun e => (e.path, e.record.range, e.record.message))
      = some (some [("a.c", ⟨2, 1, 2, 4294967295⟩, "one two")]) := by
    decide +kernel
  obtain ⟨m, hcompile, hreports⟩ := exists_of_toOption_map hrun
  obtain ⟨hmany, hone⟩ := written_steps_agree
  obtain ⟨es, hes, hwritten⟩ := hmany _ 0 m hcompile (by decide) {} 0
    ["In a.c:3", "  one", "  two", "X"]
  refine ⟨_, m, es, rfl, hcompile, by decide, hwritten, ?_, ?_⟩
  · simpa [Except.toOption, hes] using hreports
  · exact hone { pattern := some (.one { regexp := some "^  (.*)$", message := some 1 }) } _ rfl
      (some true) _ rfl [] [] {}

end LogProblems
