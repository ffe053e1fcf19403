import LogProblems.Proofs.Matcher.Advance

/-!
# Definitions that point at the log

A definition whose problems point at the scanned log tells in vain where files and
positions are to be found: what its paths mean, from where its positions are counted,
which groups hold them, and whether problems concern whole files.  Its matcher carries
some of that along, but asks for none of it.  Only that a group is named at all counts,
for a step that captures more than a message does not continue one.

* `role_unlocated`: the role of a step depends on which groups are named, not on where they
  are;
* `compile_unlocated`: what the definition compiles to;
* `advance_unlocated`: what its matcher does at a line.
-/

set_option autoImplicit false

namespace LogProblems.Matcher

/-! ## Without locations -/

/-- The step that names the same groups, but not where in a match files and positions are,
and that does not concern whole files. -/
def StepDefinition.unlocated (s : StepDefinition) : StepDefinition :=
  { s with
    file := s.file.map fun _ => 0
    location := s.location.map fun _ => 0
    line := s.line.map fun _ => 0
    endLine := s.endLine.map fun _ => 0
    column := s.column.map fun _ => 0
    endColumn := s.endColumn.map fun _ => 0
    kind := none }

/-- The steps, each without its locations. -/
def Steps.unlocated : Steps → Steps
  | .one s => .one s.unlocated
  | .many ss => .many (ss.map StepDefinition.unlocated)

/-- The definition without what it tells of files and positions. -/
def Definition.unlocated (d : Definition) : Definition :=
  { d with
    fileLocation := none
    zeroBased := none
    zeroBasedLines := none
    zeroBasedColumns := none
    pattern := d.pattern.map Steps.unlocated }

/-- The role without the groups of files and positions. -/
def Role.unlocated : Role → Role
  | .continuation message => .continuation message
  | .extract fields => .extract { fields with file := none, location := .wholeFile }

/-- The compiled step without the groups of files and positions. -/
def Step.unlocated (s : Step) : Step :=
  { s with role := s.role.unlocated }

/-- The matcher without the groups of files and positions. -/
def Compiled.unlocated (m : Compiled) : Compiled :=
  { m with steps := m.steps.map Step.unlocated, indexing := {} }

/-! ## Compiling -/

namespace StepDefinition

theorem extracts_unlocated (s : StepDefinition) : s.unlocated.extracts = s.extracts := by
  simp only [extracts, unlocated, Option.isSome_map]

/-- The role of a step depends on which groups are named, not on where they are. -/
theorem role_unlocated (s : StepDefinition) (wholeFile wholeFile' only : Bool) :
    (s.unlocated.role wholeFile' only).unlocated = (s.role wholeFile only).unlocated := by
  have hloops : s.unlocated.loops only = s.loops only := rfl
  have hmessage : s.unlocated.message = s.message := rfl
  unfold role
  rw [extracts_unlocated, hloops, hmessage]
  cases s.message with
  | none => rfl
  | some message =>
    cases s.loops only && !s.extracts with
    | false => rfl
    | true => rfl

end StepDefinition

/-- Results that are equal under a function fail alike, or succeed alike. -/
theorem error_or_ok_of_map_eq {ε α β : Type} {f : α → β} {first second : Except ε α}
    (h : second.map f = first.map f) :
    (∃ fault, first = .error fault ∧ second = .error fault) ∨
      ∃ a b, first = .ok a ∧ second = .ok b ∧ f b = f a := by
  cases first with
  | error fault =>
    cases second with
    | error fault' => exact .inl ⟨fault, rfl, congrArg Except.error (Except.error.inj h)⟩
    | ok b => cases h
  | ok a =>
    cases second with
    | error fault => cases h
    | ok b => exact .inr ⟨a, b, rfl, rfl, Except.ok.inj h⟩

theorem compileStep_unlocated (title : String) (wholeFile wholeFile' only : Bool) (place : Nat)
    (s : StepDefinition) :
    (compileStep title wholeFile' only place s.unlocated).map Step.unlocated
      = (compileStep title wholeFile only place s).map Step.unlocated := by
  have hregexp : s.unlocated.regexp = s.regexp := rfl
  unfold compileStep
  rw [hregexp]
  cases s.regexp with
  | none => rfl
  | some source =>
    cases hpattern : Pattern.compile? source with
    | none => simp only [hpattern]
    | some pattern =>
      simp only [hpattern]
      show Except.ok (Step.mk pattern _ _) = Except.ok (Step.mk pattern _ _)
      rw [s.role_unlocated wholeFile wholeFile' only]
      rfl

theorem compileSteps_unlocated (title : String) (wholeFile wholeFile' only : Bool)
    (ss : List StepDefinition) (place : Nat) :
    (compileSteps title wholeFile' only place (ss.map StepDefinition.unlocated)).map
        (List.map Step.unlocated)
      = (compileSteps title wholeFile only place ss).map (List.map Step.unlocated) := by
  induction ss generalizing place with
  | nil => rfl
  | cons s rest ih =>
    have hhead := compileStep_unlocated title wholeFile wholeFile' only place s
    rw [List.map_cons]
    unfold compileSteps
    rcases error_or_ok_of_map_eq hhead with ⟨fault, hs, hs'⟩ | ⟨step, step', hs, hs', hstep⟩
    · simp only [hs, hs']
    · simp only [hs, hs']
      rcases error_or_ok_of_map_eq (ih (place + 1)) with
        ⟨fault, hrest, hrest'⟩ | ⟨steps, steps', hrest, hrest', hsteps⟩
      · simp only [hrest, hrest']
      · simp only [hrest, hrest']
        exact congrArg Except.ok (congrArg₂ List.cons hstep hsteps)

theorem Definition.steps_unlocated (d : Definition) :
    d.unlocated.steps = d.steps.map StepDefinition.unlocated := by
  unfold Definition.steps unlocated
  cases d.pattern with
  | none => rfl
  | some steps =>
    cases steps with
    | one s => rfl
    | many ss => rfl

theorem SeverityRule.ofDefinition_unlocated (d : Definition) :
    SeverityRule.ofDefinition d.unlocated = SeverityRule.ofDefinition d := by
  have hindicators : Indicators.ofDefinition d.unlocated = Indicators.ofDefinition d := by
    unfold Indicators.ofDefinition
    rw [d.steps_unlocated]
    cases d.steps with
    | nil => rfl
    | cons s rest => rfl
  unfold SeverityRule.ofDefinition
  rw [d.steps_unlocated, hindicators, List.any_map]
  rfl

/-- Without its locations, a definition that points at the log compiles to the same matcher,
but for the groups of files and positions. -/
theorem compile_unlocated {d : Definition} (h : d.linksToLog = true) (place : Nat) :
    (compile d.unlocated place).map Compiled.unlocated
      = (compile d place).map Compiled.unlocated := by
  have hsteps := compileSteps_unlocated (d.titleAt place) d.wholeFile d.unlocated.wholeFile
    (d.steps.length == 1) d.steps 0
  have htitle : d.unlocated.titleAt place = d.titleAt place := rfl
  have hmode : d.unlocated.pathMode = d.pathMode := by
    have h' : d.unlocated.linksToLog = true := h
    rw [Definition.pathMode, Definition.pathMode, if_pos h, if_pos h']
  unfold compile
  simp only [htitle, d.steps_unlocated, List.isEmpty_map, List.length_map,
    SeverityRule.ofDefinition_unlocated, hmode]
  split
  · rfl
  · rcases error_or_ok_of_map_eq hsteps with ⟨fault, hd, hd'⟩ | ⟨steps, steps', hd, hd', hsame⟩
    · simp only [hd, hd']
    · simp only [hd, hd']
      simp only [Except.map, Compiled.unlocated, hsame]
      rfl

/-! ## Running -/

namespace State

variable {m : Compiled} {context context' : Context}

theorem gather_unlocated (hmode : m.pathMode = .logFile) (hlog : context'.logPath = context.logPath)
    (s : State) (current : Step) (groups : Groups) (number : Nat) :
    s.gather m.unlocated current.unlocated groups number context'
      = s.gather m current groups number context := by
  have hlogFile : context'.logFile = context.logFile := by
    rw [Context.logFile, Context.logFile, hlog]
  have hmode' : m.unlocated.pathMode = .logFile := hmode
  -- The path and the range are the log's, and the groups of the other fields are kept.
  unfold gather locate
  rw [if_pos hmode, if_pos hmode', hlogFile]
  cases hrole : current.role with
  | continuation message =>
    simp only [Step.fields?, Step.messageGroup, Step.unlocated, hrole, Role.unlocated]
    rfl
  | extract fields =>
    simp only [Step.fields?, Step.messageGroup, Step.unlocated, hrole, Role.unlocated]
    rfl

/-- A matcher that points at the log does at a line what it does without its locations,
wherever the workspace is. -/
theorem advance_unlocated (hmode : m.pathMode = .logFile)
    (hlog : context'.logPath = context.logPath) (s : State) (line : String) (number : Nat) :
    s.advance m.unlocated line number context' = s.advance m line number context := by
  have hcontinuation : ∀ current : Step,
      current.unlocated.isContinuation = current.isContinuation := by
    intro current
    cases hrole : current.role with
    | continuation message => simp only [Step.isContinuation, Step.unlocated, hrole, Role.unlocated]
    | extract fields => simp only [Step.isContinuation, Step.unlocated, hrole, Role.unlocated]
  have hsteps : m.unlocated.steps = m.steps.map Step.unlocated := rfl
  unfold advance
  rw [hsteps, List.getElem?_map]
  cases m.steps[s.cursor]? with
  | none => rfl
  | some current =>
    have hpattern : current.unlocated.pattern = current.pattern := rfl
    simp only [Option.map_some, hpattern]
    cases current.pattern.find line with
    | none =>
      simp only [unmatched, hcontinuation]
      rfl
    | some groups =>
      simp only [step, gather_unlocated hmode hlog, hcontinuation, hsteps, List.length_map]
      rfl

end State

end LogProblems.Matcher
