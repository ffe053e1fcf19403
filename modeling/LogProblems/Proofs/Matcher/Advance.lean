import Mathlib.Data.List.Forall2
import LogProblems.Matcher.State

/-!
# One line of one matcher

What compiling promises about a matcher, and what a matcher then does with one
line.  The promise does not mention the patterns, so it survives a change of them.

* `compile_congr`: definitions that compile alike;
* `compile_eq_ok_iff` and `exists_compile_iff`: what a definition is compiled to, and
  when it is compiled at all;
* `compile_lawful`: the promise;
* `step_onward`, `step_complete` and `step_repeat`: what a match does, by where the
  cursor stands and whether the step there repeats;
* `gather_setCursor`: what is gathered depends on the cursor only through whether it
  is at the first step.
-/

set_option autoImplicit false

namespace LogProblems.Matcher

/-! ## What compiling promises -/

/-- What compiling makes of one step. -/
structure StepDefinition.Compiles (wholeFile only : Bool) (d : StepDefinition) (s : Step) :
    Prop where
  pattern : d.regexp.bind Pattern.compile? = some s.pattern
  role : s.role = d.role wholeFile only
  loops : s.loops = d.loops only

theorem compileStep_ok {title : String} {wholeFile only : Bool} {place : Nat}
    {d : StepDefinition} {s : Step} (h : compileStep title wholeFile only place d = .ok s) :
    d.Compiles wholeFile only s := by
  unfold compileStep at h
  split at h
  · cases h
  · next source hsource =>
    split at h
    · cases h
    · next pattern hpattern =>
      cases h
      exact ⟨by rw [hsource]; exact hpattern, rfl, rfl⟩

theorem compileSteps_ok {title : String} {wholeFile only : Bool} {place : Nat}
    {ds : List StepDefinition} {steps : List Step}
    (h : compileSteps title wholeFile only place ds = .ok steps) :
    List.Forall₂ (StepDefinition.Compiles wholeFile only) ds steps := by
  induction ds generalizing place steps with
  | nil =>
    simp only [compileSteps, Except.ok.injEq] at h
    exact h ▸ .nil
  | cons d rest ih =>
    simp only [compileSteps] at h
    split at h
    · cases h
    · next hstep =>
      split at h
      · cases h
      · next hrest =>
        cases h
        exact .cons (compileStep_ok hstep) (ih hrest)

/-- What a computed result says of the matcher. -/
theorem exists_of_toOption_map {α : Type} {compiled : Except Fault Compiled} {f : Compiled → α}
    {a : α} (h : compiled.toOption.map f = some a) : ∃ m, compiled = .ok m ∧ f m = a := by
  cases compiled with
  | error fault => cases h
  | ok m => exact ⟨m, rfl, Option.some.inj h⟩

/-- The matcher that a definition and its compiled steps make. -/
def Definition.assembled (d : Definition) (place : Nat) (steps : List Step) : Compiled :=
  { title := d.titleAt place
    source := d.sourceName
    steps
    severity := .ofDefinition d
    pathMode := d.pathMode
    indexing := d.indexing }

/-- Compiling a definition is compiling its steps and putting the rest around them. -/
theorem compile_eq_map (d : Definition) (place : Nat) :
    compile d place
      = if d.steps.isEmpty then .error (.noSteps (d.titleAt place))
        else (compileSteps (d.titleAt place) d.wholeFile (d.steps.length == 1) 0 d.steps).map
          (d.assembled place) := by
  unfold compile
  split
  · rfl
  · cases hsteps : compileSteps (d.titleAt place) d.wholeFile (d.steps.length == 1) 0 d.steps with
    | error fault => simp only [hsteps, Except.map]
    | ok steps => simp only [hsteps, Except.map, Definition.assembled]

/-- Definitions compile alike if their steps do and the rest of them reads alike. -/
theorem compile_congr {d d' : Definition} {place : Nat}
    (hassembled : d'.assembled place = d.assembled place)
    (hempty : d'.steps.isEmpty = d.steps.isEmpty)
    (hsteps : compileSteps (d'.titleAt place) d'.wholeFile (d'.steps.length == 1) 0 d'.steps
      = compileSteps (d.titleAt place) d.wholeFile (d.steps.length == 1) 0 d.steps) :
    compile d' place = compile d place := by
  have htitle : d'.titleAt place = d.titleAt place :=
    congrArg (fun assembled => (assembled []).title) hassembled
  rw [compile_eq_map, compile_eq_map, hempty, hsteps, htitle, hassembled]

theorem compile_eq_ok_iff {d : Definition} {place : Nat} {m : Compiled} :
    compile d place = .ok m ↔
      d.steps ≠ [] ∧ ∃ steps, compileSteps (d.titleAt place) d.wholeFile (d.steps.length == 1) 0
        d.steps = .ok steps ∧ m = d.assembled place steps := by
  simp only [compile, List.isEmpty_iff]
  by_cases hne : d.steps = []
  · simp [hne]
  · simp only [hne, if_false, ne_eq, not_false_eq_true, true_and]
    cases hsteps : compileSteps (d.titleAt place) d.wholeFile (d.steps.length == 1) 0 d.steps with
    | error fault => simp
    | ok steps => simp [Definition.assembled, eq_comm]

theorem exists_compileStep_iff {title : String} {wholeFile only : Bool} {place : Nat}
    {d : StepDefinition} :
    (∃ s, compileStep title wholeFile only place d = .ok s)
      ↔ (d.regexp.bind Pattern.compile?).isSome = true := by
  unfold compileStep
  cases d.regexp with
  | none => simp
  | some source =>
    simp only [Option.bind_some]
    cases Pattern.compile? source <;> simp

theorem exists_compileSteps_iff {title : String} {wholeFile only : Bool} {place : Nat}
    {ds : List StepDefinition} :
    (∃ steps, compileSteps title wholeFile only place ds = .ok steps)
      ↔ ∀ d ∈ ds, (d.regexp.bind Pattern.compile?).isSome = true := by
  induction ds generalizing place with
  | nil => simp [compileSteps]
  | cons d rest ih =>
    rw [List.forall_mem_cons, ← exists_compileStep_iff, ← ih]
    constructor
    · rintro ⟨steps, h⟩
      simp only [compileSteps] at h
      split at h
      · cases h
      · next step hstep =>
        split at h
        · cases h
        · next later hlater => exact ⟨⟨step, hstep⟩, later, hlater⟩
    · rintro ⟨⟨step, hstep⟩, later, hlater⟩
      exact ⟨step :: later, by simp only [compileSteps, hstep, hlater]⟩

/-- A definition compiles if it has a step and every regular expression can be read. -/
theorem exists_compile_iff {d : Definition} {place : Nat} :
    (∃ m, compile d place = .ok m)
      ↔ d.steps ≠ [] ∧ ∀ s ∈ d.steps, (s.regexp.bind Pattern.compile?).isSome = true := by
  constructor
  · rintro ⟨m, h⟩
    obtain ⟨hne, steps, hsteps, _⟩ := compile_eq_ok_iff.1 h
    exact ⟨hne, exists_compileSteps_iff.1 ⟨steps, hsteps⟩⟩
  · rintro ⟨hne, hall⟩
    obtain ⟨steps, hsteps⟩ := exists_compileSteps_iff.2 hall
    exact ⟨_, compile_eq_ok_iff.2 ⟨hne, steps, hsteps, rfl⟩⟩

/-- What holds of every compiled matcher, whatever its patterns are. -/
structure Compiled.Lawful (m : Compiled) : Prop where
  /-- There is a first step. -/
  steps_pos : 0 < m.steps.length
  /-- Only a step that repeats continues a message. -/
  loops_of_isContinuation : ∀ s ∈ m.steps, s.isContinuation = true → s.loops = true
  /-- A lone step does not repeat. -/
  two_le_of_loops : ∀ s ∈ m.steps, s.loops = true → 2 ≤ m.steps.length

theorem Compiled.Lawful.isContinuation_eq_false {m : Compiled} (hm : m.Lawful) {s : Step}
    (hs : s ∈ m.steps) (hloops : s.loops = false) : s.isContinuation = false := by
  by_contra hne
  rw [Bool.not_eq_false] at hne
  rw [hm.loops_of_isContinuation s hs hne] at hloops
  cases hloops

namespace StepDefinition.Compiles

variable {wholeFile only : Bool} {d : StepDefinition} {s s' : Step}

theorem unique (h : d.Compiles wholeFile only s) (h' : d.Compiles wholeFile only s') : s = s' := by
  have hpattern := Option.some.inj (h.pattern.symm.trans h'.pattern)
  have hrole := h.role.trans h'.role.symm
  have hloops := h.loops.trans h'.loops.symm
  cases s
  cases s'
  cases hpattern
  cases hrole
  cases hloops
  rfl

/-- A step continues a message if it repeats, takes a message and nothing else. -/
theorem isContinuation (h : d.Compiles wholeFile only s) :
    s.isContinuation = (d.message.isSome && (d.loops only && !d.extracts)) := by
  rw [Step.isContinuation, h.role, StepDefinition.role]
  cases d.message with
  | none => rfl
  | some group => cases d.loops only && !d.extracts <;> rfl

theorem loops_of_isContinuation (h : d.Compiles wholeFile only s)
    (hs : s.isContinuation = true) : s.loops = true := by
  rw [h.isContinuation, Bool.and_eq_true, Bool.and_eq_true] at hs
  rw [h.loops]
  exact hs.2.1

end StepDefinition.Compiles

/-- An entry of the second of two related lists is related to the entry of the first at
the same place. -/
theorem exists_getElem?_of_forall₂ {α β : Type} {R : α → β → Prop} {as : List α} {bs : List β}
    (h : List.Forall₂ R as bs) {k : Nat} {b : β} (hb : bs[k]? = some b) :
    ∃ a, as[k]? = some a ∧ R a b := by
  induction h generalizing k with
  | nil => cases hb
  | cons hhead _ ih =>
    cases k with
    | zero =>
      cases hb
      exact ⟨_, rfl, hhead⟩
    | succ k => exact ih hb

theorem compile_lawful {d : Definition} {place : Nat} {m : Compiled}
    (h : compile d place = .ok m) : m.Lawful := by
  obtain ⟨hne, steps, hsteps, rfl⟩ := compile_eq_ok_iff.1 h
  have hall := compileSteps_ok hsteps
  have hlen : d.steps.length = steps.length := hall.length_eq
  have hpos : 0 < steps.length := hlen ▸ List.length_pos_iff.2 hne
  refine ⟨hpos, ?_, ?_⟩
  · intro s hs hcontinues
    obtain ⟨k, hk⟩ := List.getElem?_of_mem hs
    obtain ⟨_, _, hcompiles⟩ := exists_getElem?_of_forall₂ hall hk
    exact hcompiles.loops_of_isContinuation hcontinues
  · intro s hs hloops
    obtain ⟨k, hk⟩ := List.getElem?_of_mem hs
    obtain ⟨sd, _, hcompiles⟩ := exists_getElem?_of_forall₂ hall hk
    show 2 ≤ steps.length
    by_cases hone : d.steps.length = 1
    · rw [hcompiles.loops, hone] at hloops
      exact absurd hloops (by simp [StepDefinition.not_loops_only])
    · omega

/-! ## What is gathered -/

namespace State

variable {s : State} {m : Compiled} {current : Step} {groups : Groups} {number : Nat}
  {context : Context}

@[simp] theorem blank_cursor : blank.cursor = 0 := rfl

@[simp] theorem blank_isOpen : blank.isOpen = false := rfl

@[simp] theorem locate_cursor : (s.locate m current groups number context).cursor = s.cursor := by
  unfold locate
  split
  · rfl
  · split <;> rfl

@[simp] theorem gather_cursor : (s.gather m current groups number context).cursor = s.cursor := by
  simp [gather]

/-- What is gathered depends on the cursor only through whether it is at the first
step, and not on whether the problem is open. -/
theorem gather_setCursor {c : Nat} (o : Bool) (h : c = 0 ↔ s.cursor = 0) :
    ({ s with cursor := c, isOpen := o } : State).gather m current groups number context
      = { s.gather m current groups number context with cursor := c } := by
  simp only [gather, locate, h]
  split
  · rfl
  · split <;> rfl

/-! ## What a match does -/

/-- Before the last step, the cursor moves on. -/
theorem step_onward (h : s.cursor + 1 < m.steps.length) :
    s.step m current groups number context
      = ({ s.gather m current groups number context with cursor := s.cursor + 1 }, none) := by
  have hne : s.cursor ≠ m.steps.length - 1 := by omega
  simp [step, hne]

/-- A last step that does not repeat completes the problem. -/
theorem step_complete (hlast : s.cursor + 1 = m.steps.length)
    (hcontinues : current.isContinuation = false) (hloops : current.loops = false) :
    s.step m current groups number context
      = (blank, some ((s.gather m current groups number context).emission m)) := by
  have heq : s.cursor = m.steps.length - 1 := by omega
  simp [step, ← heq, hcontinues, hloops]

/-- A last step that repeats keeps the cursor; unless it continues a message, the
problem is complete so far. -/
theorem step_repeat (hlast : s.cursor + 1 = m.steps.length) (hmore : 2 ≤ m.steps.length)
    (hloops : current.loops = true) :
    s.step m current groups number context
      = ({ s.gather m current groups number context with isOpen := current.isContinuation },
        if current.isContinuation then none
        else some ((s.gather m current groups number context).emission m)) := by
  have heq : s.cursor = m.steps.length - 1 := by omega
  have hne : m.steps.length ≠ 1 := by omega
  cases hcontinues : current.isContinuation <;>
    simp [step, ← heq, hcontinues, hloops, hne, gather]

theorem advance_of_unmatched {line : String} (hstep : m.steps[s.cursor]? = some current)
    (hfind : current.pattern.find line = none) :
    s.advance m line number context = .ok (blank, s.unmatched m current) := by
  simp [advance, reset, hstep, hfind]

theorem advance_of_match {line : String} (hstep : m.steps[s.cursor]? = some current)
    (hfind : current.pattern.find line = some groups) :
    s.advance m line number context = .ok (s.step m current groups number context) := by
  simp [advance, hstep, hfind]

end State

end LogProblems.Matcher
