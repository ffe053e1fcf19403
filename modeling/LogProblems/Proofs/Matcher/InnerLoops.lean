import LogProblems.Proofs.Matcher.Reachable

/-!
# Loop flags before the last step

Only the last step of a matcher repeats, so the `loop` flags of the other steps should
not matter.  They do not as long as a flag leaves the role of its step alone.  But a
step that takes a message and nothing else continues a message when its flag is set, and
a line that fails such a step completes the problem under way, wherever the step stands.

* `gather_of_similar`: what two such roles gather is the same;
* `compile_setInnerLoops`: definitions that differ in such flags compile to matchers
  that differ in such roles;
* `advance_of_variant`: they do the same at a line unless that line fails a step that
  continues a message in one of them only;
* `advance_leadsTo`: a line leads the cursor only where lines can lead it.
-/

set_option autoImplicit false

namespace LogProblems.Matcher

/-! ## Similar roles -/

/-- A role that takes a message from the group and nothing else. -/
inductive Role.OnlyMessage (group : Nat) : Role → Prop where
  | continuation : Role.OnlyMessage group (.continuation group)
  | wholeFile : Role.OnlyMessage group (.extract ⟨none, none, none, some group, .wholeFile⟩)
  | nowhere : Role.OnlyMessage group (.extract ⟨none, none, none, some group, .discrete {}⟩)

/-- Two roles that are equal or take the same message and nothing else. -/
def Role.Similar (r r' : Role) : Prop :=
  r' = r ∨ ∃ group, r.OnlyMessage group ∧ r'.OnlyMessage group

/-- A role without fields takes at most a message. -/
theorem StepDefinition.role_onlyMessage {s : StepDefinition} {group : Nat}
    (hmessage : s.message = some group) (hextracts : s.extracts = false) (wholeFile only : Bool) :
    (s.role wholeFile only).OnlyMessage group := by
  simp only [StepDefinition.extracts, Bool.or_eq_false_iff, Option.isSome_eq_false_iff,
    Option.isNone_iff_eq_none] at hextracts
  obtain ⟨⟨⟨⟨⟨⟨⟨hseverity, hcode⟩, hfile⟩, hlocation⟩, hline⟩, hendLine⟩, hcolumn⟩, hendColumn⟩ :=
    hextracts
  simp only [StepDefinition.role, hmessage]
  split
  · exact .continuation
  · rw [hseverity, hcode, hfile, StepDefinition.locationCapture, hlocation, hline, hendLine,
      hcolumn, hendColumn]
    cases wholeFile with
    | true => exact .wholeFile
    | false => exact .nowhere

namespace StepDefinition

variable {s : StepDefinition} {loop : Option Bool}

/-- The step with another `loop` flag. -/
def setLoop (s : StepDefinition) (loop : Option Bool) : StepDefinition :=
  { s with loop }

@[simp] theorem setLoop_message : (s.setLoop loop).message = s.message := rfl

@[simp] theorem setLoop_loop : (s.setLoop loop).loop = loop := rfl

@[simp] theorem setLoop_extracts : (s.setLoop loop).extracts = s.extracts := rfl

/-- The `loop` flag changes the role of a step only if the step takes a message and
nothing else. -/
theorem role_setLoop_similar (wholeFile only : Bool) :
    (s.role wholeFile only).Similar ((s.setLoop loop).role wholeFile only) := by
  cases hmessage : s.message with
  | none =>
    refine Or.inl ?_
    rw [role, role, setLoop_message, hmessage]
    rfl
  | some group =>
    cases hextracts : s.extracts with
    | true =>
      refine Or.inl ?_
      rw [role, role, setLoop_message, setLoop_extracts, hmessage, hextracts]
      simp only [Bool.not_true, Bool.and_false]
      rfl
    | false =>
      exact Or.inr ⟨group, role_onlyMessage hmessage hextracts wholeFile only,
        role_onlyMessage (s := s.setLoop loop) hmessage hextracts wholeFile only⟩

end StepDefinition

namespace State

variable {s : State} {m m' : Compiled} {current current' : Step} {groups : Groups} {number : Nat}
  {context : Context}

/-- A step that takes only a message gathers what a step that continues one does. -/
theorem gather_of_onlyMessage {group : Nat} (h : current.role.OnlyMessage group)
    (hbounds : m.pathMode ≠ .logFile → s.range.InBounds) :
    s.gather m current groups number context
      = s.gather m { current with role := .continuation group } groups number context := by
  have hclamp : m.pathMode ≠ .logFile → s.range.clamp = s.range :=
    fun hmode => (hbounds hmode).clamp_eq
  obtain ⟨pattern, role, loops⟩ := current
  by_cases hmode : m.pathMode = .logFile
  · cases h <;> simp [gather, locate, hmode, Step.fields?, Step.messageGroup]
  · cases h <;>
      simp [gather, locate, hmode, hclamp hmode, Step.fields?, Step.messageGroup, resolveLocation,
        resolveDiscrete, positionIn]

end State

/-! ## Definitions that differ in flags -/

namespace Definition

variable {d : Definition} {flag : Nat → Option Bool}

/-- The definition with other `loop` flags, the last step's apart. -/
def setInnerLoops (d : Definition) (flag : Nat → Option Bool) : Definition :=
  { d with
    pattern := d.pattern.map fun pattern =>
      match pattern with
      | .one step => .one step
      | .many steps =>
        .many (steps.mapIdx fun i step =>
          if i + 1 < steps.length then step.setLoop (flag i) else step) }

/-- Step `k` stands before the last one, takes a message and nothing else, and would
repeat with one of the flags only. -/
def FlagMatters (d : Definition) (flag : Nat → Option Bool) (k : Nat) : Prop :=
  k + 1 < d.steps.length ∧ ∃ s, d.steps[k]? = some s ∧ s.message.isSome = true ∧
    s.extracts = false ∧ s.loop.getD false ≠ (flag k).getD false

theorem steps_setInnerLoops :
    (d.setInnerLoops flag).steps = d.steps.mapIdx fun i s =>
      if i + 1 < d.steps.length then s.setLoop (flag i) else s := by
  cases hpattern : d.pattern with
  | none => simp [steps, setInnerLoops, hpattern]
  | some pattern =>
    cases pattern with
    | one step => simp [steps, setInnerLoops, hpattern, Steps.toList]
    | many ss => simp [steps, setInnerLoops, hpattern, Steps.toList]

theorem length_steps_setInnerLoops : (d.setInnerLoops flag).steps.length = d.steps.length := by
  rw [steps_setInnerLoops, List.length_mapIdx]

theorem getElem?_steps_setInnerLoops {k : Nat} {s : StepDefinition} (h : d.steps[k]? = some s) :
    (d.setInnerLoops flag).steps[k]?
      = some (if k + 1 < d.steps.length then s.setLoop (flag k) else s) := by
  rw [steps_setInnerLoops, List.getElem?_mapIdx, h, Option.map_some]

/-- What does not read the flag of a step reads the same of all steps. -/
theorem map_steps_setInnerLoops {α : Type} (d : Definition) (flag : Nat → Option Bool)
    {f : StepDefinition → α} (hf : ∀ s loop, f (StepDefinition.setLoop s loop) = f s) :
    (d.setInnerLoops flag).steps.map f = d.steps.map f := by
  refine List.ext_getElem? fun k => ?_
  rw [List.getElem?_map, List.getElem?_map, steps_setInnerLoops, List.getElem?_mapIdx,
    Option.map_map]
  refine congrArg (fun g => d.steps[k]?.map g) (funext fun s => ?_)
  simp only [Function.comp_apply]
  split
  · exact hf s _
  · rfl

theorem head?_bind_setInnerLoops {α : Type} (d : Definition) (flag : Nat → Option Bool)
    {f : StepDefinition → Option α} (hf : ∀ s loop, f (StepDefinition.setLoop s loop) = f s) :
    (d.setInnerLoops flag).steps.head?.bind f = d.steps.head?.bind f := by
  have hheads := congrArg List.head? (map_steps_setInnerLoops d flag hf)
  have hbind : ∀ head : Option StepDefinition, head.bind f = (head.map f).join := by
    intro head
    cases head <;> rfl
  rw [List.head?_map, List.head?_map] at hheads
  rw [hbind, hbind, hheads]

theorem wholeFile_setInnerLoops : (d.setInnerLoops flag).wholeFile = d.wholeFile := by
  have hkind := head?_bind_setInnerLoops d flag (f := fun s => s.kind) fun _ _ => rfl
  rw [wholeFile, wholeFile, hkind]

theorem severity_setInnerLoops :
    SeverityRule.ofDefinition (d.setInnerLoops flag) = SeverityRule.ofDefinition d := by
  have hany : (d.setInnerLoops flag).steps.any (fun s => s.severity.isSome)
      = d.steps.any fun s => s.severity.isSome := by
    have hmap := map_steps_setInnerLoops d flag (f := fun s => s.severity.isSome) fun _ _ => rfl
    simpa [List.any_map, Function.comp_def] using congrArg (List.any · id) hmap
  have herror := head?_bind_setInnerLoops d flag (f := fun s => s.errorWords) fun _ _ => rfl
  have hwarning := head?_bind_setInnerLoops d flag (f := fun s => s.warningWords) fun _ _ => rfl
  have hinfo := head?_bind_setInnerLoops d flag (f := fun s => s.infoWords) fun _ _ => rfl
  simp only [SeverityRule.ofDefinition, Indicators.ofDefinition, hany, herror, hwarning, hinfo]
  rfl

/-- A change of flags does not keep a definition from compiling. -/
theorem exists_compile_setInnerLoops_iff (d : Definition) (flag : Nat → Option Bool)
    {place : Nat} :
    (∃ m, compile (d.setInnerLoops flag) place = .ok m) ↔ ∃ m, compile d place = .ok m := by
  have hregexps := map_steps_setInnerLoops d flag
    (f := fun s => (s.regexp.bind Pattern.compile?).isSome) fun _ _ => rfl
  have hall : (d.setInnerLoops flag).steps.all (fun s => (s.regexp.bind Pattern.compile?).isSome)
      = d.steps.all fun s => (s.regexp.bind Pattern.compile?).isSome := by
    simpa [List.all_map, Function.comp_def] using congrArg (List.all · id) hregexps
  rw [exists_compile_iff, exists_compile_iff, ← List.length_pos_iff, ← List.length_pos_iff,
    length_steps_setInnerLoops, ← List.all_eq_true, ← List.all_eq_true, hall]

end Definition

/-! ## Matchers that differ in roles -/

/-- Two matchers that gather the same, and differ in whether steps before the last one
repeat or continue a message. -/
structure Compiled.Variant (m m' : Compiled) : Prop where
  source : m'.source = m.source
  severity : m'.severity = m.severity
  pathMode : m'.pathMode = m.pathMode
  indexing : m'.indexing = m.indexing
  length : m'.steps.length = m.steps.length
  pattern : ∀ {k : Nat} {s s' : Step}, m.steps[k]? = some s → m'.steps[k]? = some s' →
    s'.pattern = s.pattern
  role : ∀ {k : Nat} {s s' : Step}, m.steps[k]? = some s → m'.steps[k]? = some s' →
    s.role.Similar s'.role
  last : ∀ {k : Nat} {s s' : Step}, m.steps[k]? = some s → m'.steps[k]? = some s' →
    k + 1 = m.steps.length → s' = s

/-- Every step has one at its place. -/
theorem Compiled.Variant.exists_step {m m' : Compiled} (hv : m.Variant m') {k : Nat} {s : Step}
    (hs : m.steps[k]? = some s) :
    ∃ s', m'.steps[k]? = some s' ∧ s'.pattern = s.pattern := by
  have hlt : k < m.steps.length := (List.getElem?_eq_some_iff.1 hs).1
  have hs' : m'.steps[k]? = some (m'.steps.get ⟨k, by rw [hv.length]; exact hlt⟩) :=
    List.getElem?_eq_getElem _
  exact ⟨_, hs', hv.pattern hs hs'⟩

section
variable {d : Definition} {flag : Nat → Option Bool} {place : Nat} {m m' : Compiled}

theorem compiles_setInnerLoops (h : compile d place = .ok m)
    (h' : compile (d.setInnerLoops flag) place = .ok m') {k : Nat} {s s' : Step}
    (hs : m.steps[k]? = some s) (hs' : m'.steps[k]? = some s') :
    ∃ sd, d.steps[k]? = some sd ∧ sd.Compiles d.wholeFile (d.steps.length == 1) s ∧
      StepDefinition.Compiles d.wholeFile (d.steps.length == 1)
        (if k + 1 < d.steps.length then sd.setLoop (flag k) else sd) s' := by
  obtain ⟨_, steps, hsteps, rfl⟩ := compile_eq_ok_iff.1 h
  obtain ⟨_, steps', hsteps', rfl⟩ := compile_eq_ok_iff.1 h'
  rw [Definition.wholeFile_setInnerLoops, Definition.length_steps_setInnerLoops] at hsteps'
  obtain ⟨sd, hsd, hcompiles⟩ := exists_getElem?_of_forall₂ (compileSteps_ok hsteps) hs
  obtain ⟨sd', hsd', hcompiles'⟩ := exists_getElem?_of_forall₂ (compileSteps_ok hsteps') hs'
  rw [Definition.getElem?_steps_setInnerLoops hsd, Option.some.injEq] at hsd'
  exact ⟨sd, hsd, hcompiles, hsd' ▸ hcompiles'⟩

theorem length_of_compile (h : compile d place = .ok m) : m.steps.length = d.steps.length := by
  obtain ⟨_, steps, hsteps, rfl⟩ := compile_eq_ok_iff.1 h
  exact (compileSteps_ok hsteps).length_eq.symm

/-- Definitions that differ in flags compile to matchers that differ in roles. -/
theorem compile_setInnerLoops (h : compile d place = .ok m)
    (h' : compile (d.setInnerLoops flag) place = .ok m') : m.Variant m' := by
  have hlen := length_of_compile h
  have hlen' := length_of_compile h'
  rw [Definition.length_steps_setInnerLoops] at hlen'
  obtain ⟨_, _, _, hm⟩ := compile_eq_ok_iff.1 h
  obtain ⟨_, _, _, hm'⟩ := compile_eq_ok_iff.1 h'
  refine ⟨?_, ?_, ?_, ?_, hlen'.trans hlen.symm, ?_, ?_, ?_⟩
  · rw [hm, hm']
    rfl
  · rw [hm, hm']
    exact Definition.severity_setInnerLoops
  · rw [hm, hm']
    rfl
  · rw [hm, hm']
    rfl
  · intro k s s' hs hs'
    obtain ⟨sd, _, hcompiles, hcompiles'⟩ := compiles_setInnerLoops h h' hs hs'
    have hpattern := hcompiles'.pattern
    split at hpattern
    · exact Option.some.inj (hpattern.symm.trans hcompiles.pattern)
    · exact Option.some.inj (hpattern.symm.trans hcompiles.pattern)
  · intro k s s' hs hs'
    obtain ⟨sd, _, hcompiles, hcompiles'⟩ := compiles_setInnerLoops h h' hs hs'
    rw [hcompiles.role, hcompiles'.role]
    split
    · exact StepDefinition.role_setLoop_similar _ _
    · exact Or.inl rfl
  · intro k s s' hs hs' hlast
    obtain ⟨sd, _, hcompiles, hcompiles'⟩ := compiles_setInnerLoops h h' hs hs'
    rw [if_neg (by omega)] at hcompiles'
    exact hcompiles'.unique hcompiles

theorem isContinuation_ne_iff (h : compile d place = .ok m)
    (h' : compile (d.setInnerLoops flag) place = .ok m') {k : Nat} {s s' : Step}
    (hs : m.steps[k]? = some s) (hs' : m'.steps[k]? = some s') :
    s'.isContinuation ≠ s.isContinuation ↔ d.FlagMatters flag k := by
  obtain ⟨sd, hsd, hcompiles, hcompiles'⟩ := compiles_setInnerLoops h h' hs hs'
  rw [hcompiles.isContinuation, hcompiles'.isContinuation]
  by_cases hk : k + 1 < d.steps.length
  · have honly : (d.steps.length == 1) = false := by
      rw [beq_eq_false_iff_ne]
      omega
    have hmatters : d.FlagMatters flag k ↔ sd.message.isSome = true ∧ sd.extracts = false ∧
        sd.loop.getD false ≠ (flag k).getD false := by
      simp [Definition.FlagMatters, hk, hsd]
    rw [hmatters, if_pos hk, honly]
    simp only [StepDefinition.setLoop_message, StepDefinition.setLoop_extracts,
      StepDefinition.setLoop_loop, StepDefinition.loops]
    cases sd.message.isSome <;> cases sd.extracts <;> cases sd.loop.getD false <;>
      cases (flag k).getD false <;> decide
  · rw [if_neg hk]
    refine iff_of_false (fun hne => hne rfl) ?_
    rintro ⟨hlt, _⟩
    exact hk hlt

end

namespace State

variable {s : State} {m m' : Compiled} {current current' : Step} {groups : Groups} {number : Nat}
  {context : Context}

/-- What is gathered depends on the role of the step only. -/
theorem gather_congr_role (h : current'.role = current.role) :
    s.gather m current' groups number context = s.gather m current groups number context := by
  simp only [gather, locate, Step.fields?, Step.messageGroup, h]

theorem gather_of_similar (h : current.role.Similar current'.role)
    (hbounds : m.pathMode ≠ .logFile → s.range.InBounds) :
    s.gather m current' groups number context = s.gather m current groups number context := by
  rcases h with heq | ⟨group, hcurrent, hcurrent'⟩
  · exact gather_congr_role heq
  · rw [gather_of_onlyMessage hcurrent hbounds, gather_of_onlyMessage hcurrent' hbounds]
    exact gather_congr_role rfl

theorem gather_of_variant (hm : m.Variant m') :
    s.gather m' current groups number context = s.gather m current groups number context := by
  simp only [gather, locate, hm.severity, hm.pathMode, hm.indexing]

/-- The two matchers do the same with a match. -/
theorem step_of_variant (hm : m.Variant m') (hbounds : m.pathMode ≠ .logFile → s.range.InBounds)
    (hs : m.steps[s.cursor]? = some current) (hs' : m'.steps[s.cursor]? = some current') :
    s.step m' current' groups number context = s.step m current groups number context := by
  have hgather : s.gather m' current' groups number context
      = s.gather m current groups number context := by
    rw [gather_of_variant hm, gather_of_similar (hm.role hs hs') hbounds]
  by_cases honward : s.cursor + 1 < m.steps.length
  · rw [step_onward honward, step_onward (by rw [hm.length]; exact honward), hgather]
  · have hlt : s.cursor < m.steps.length := (List.getElem?_eq_some_iff.1 hs).1
    obtain rfl := hm.last hs hs' (by omega)
    simp only [step, hgather, hm.length, emission, hm.source]

/-- The two matchers do the same at a line, unless the line fails a step that continues a
message in one of them only. -/
theorem advance_of_variant (hm : m.Variant m') (hsound : s.Sound m) {line : String}
    (hagree : ∀ step step', m.steps[s.cursor]? = some step → m'.steps[s.cursor]? = some step' →
      step.pattern.find line = none → 0 < s.cursor →
      step'.isContinuation = step.isContinuation) :
    s.advance m' line number context = s.advance m line number context := by
  obtain ⟨current, hs⟩ := hsound.exists_step
  obtain ⟨current', hs', hpattern⟩ := hm.exists_step hs
  cases hfind : current.pattern.find line with
  | none =>
    have hfind' : current'.pattern.find line = none := by rw [hpattern, hfind]
    rw [advance_of_unmatched hs hfind, advance_of_unmatched hs' hfind']
    rcases Nat.eq_zero_or_pos s.cursor with hzero | hpos
    · have hclosed : s.isOpen = false := by rw [hsound.eq_blank_of_cursor hzero, blank_isOpen]
      simp [unmatched, hclosed]
    · rw [unmatched, unmatched, hagree current current' hs hs' hfind hpos, emission, emission,
        hm.source]
  | some groups =>
    have hfind' : current'.pattern.find line = some groups := by rw [hpattern, hfind]
    rw [advance_of_match hs hfind, advance_of_match hs' hfind',
      step_of_variant hm hsound.inBounds hs hs']

theorem flush_of_variant (hm : m.Variant m') : s.flush m' = s.flush m := by
  rw [flush, flush, emission, emission, hm.source]

end State

/-! ## Where the cursor can get -/

namespace Compiled

/-- Every step before step `k` matches some line. -/
def LeadsTo (m : Compiled) (k : Nat) : Prop :=
  ∀ i < k, ∃ step line, m.steps[i]? = some step ∧ (step.pattern.find line).isSome = true

/-- Some lines lead to step `k`, and some line fails it. -/
def CanFail (m : Compiled) (k : Nat) : Prop :=
  m.LeadsTo k ∧ ∃ step line, m.steps[k]? = some step ∧ step.pattern.find line = none

variable {m : Compiled}

theorem leadsTo_zero (m : Compiled) : m.LeadsTo 0 :=
  fun i hi => absurd hi (Nat.not_lt_zero i)

theorem LeadsTo.mono {k k' : Nat} (h : m.LeadsTo k') (hle : k ≤ k') : m.LeadsTo k :=
  fun i hi => h i (Nat.lt_of_lt_of_le hi hle)

theorem LeadsTo.succ {k : Nat} {step : Step} {line : String} (h : m.LeadsTo k)
    (hstep : m.steps[k]? = some step) (hline : (step.pattern.find line).isSome = true) :
    m.LeadsTo (k + 1) := by
  intro i hi
  rcases Nat.lt_succ_iff_lt_or_eq.1 hi with hlt | rfl
  · exact h i hlt
  · exact ⟨step, line, hstep, hline⟩

/-- Lines that lead to step `k`. -/
theorem LeadsTo.exists_lines {k : Nat} (h : m.LeadsTo k) :
    ∃ lines : List String, lines.length = k ∧
      ∀ (i : Nat) (line : String), lines[i]? = some line →
        ∃ step : Step, m.steps[i]? = some step ∧ (step.pattern.find line).isSome = true := by
  induction k with
  | zero => exact ⟨[], rfl, fun i line hline => by cases hline⟩
  | succ k ih =>
    obtain ⟨lines, hlen, hlines⟩ := ih (h.mono (Nat.le_succ k))
    obtain ⟨step, last, hstep, hlast⟩ := h k (Nat.lt_succ_self k)
    refine ⟨lines ++ [last], by rw [List.length_append, hlen, List.length_singleton], ?_⟩
    intro i line hline
    by_cases hlt : i < lines.length
    · rw [List.getElem?_append_left hlt] at hline
      exact hlines i line hline
    · have hi : i = k := by
        have := (List.getElem?_eq_some_iff.1 hline).1
        rw [List.length_append, List.length_singleton] at this
        omega
      subst hi
      rw [← hlen, List.getElem?_concat_length, Option.some.injEq] at hline
      subst hline
      exact ⟨step, hstep, hlast⟩

end Compiled

theorem State.step_cursor_le {s : State} {m : Compiled} {current : Step} {groups : Groups}
    {number : Nat} {context : Context} :
    (s.step m current groups number context).1.cursor ≤ s.cursor + 1 := by
  unfold State.step
  simp only [gather_cursor]
  split
  · split
    · exact Nat.zero_le _
    · split <;> simp
  · exact Nat.le_refl _

/-- A line leads the cursor only where lines can lead it. -/
theorem State.advance_leadsTo {s after : State} {m : Compiled} {line : String} {number : Nat}
    {context : Context} {completed : Option Emission} (hsound : s.Sound m)
    (hleads : m.LeadsTo s.cursor)
    (hadvance : s.advance m line number context = .ok (after, completed)) :
    m.LeadsTo after.cursor := by
  obtain ⟨current, hs⟩ := hsound.exists_step
  cases hfind : current.pattern.find line with
  | none =>
    rw [advance_of_unmatched hs hfind] at hadvance
    cases hadvance
    exact m.leadsTo_zero
  | some groups =>
    rw [advance_of_match hs hfind, Except.ok.injEq] at hadvance
    have hafter : (s.step m current groups number context).1 = after := by rw [hadvance]
    rw [← hafter]
    exact (hleads.succ hs (by rw [hfind]; rfl)).mono step_cursor_le

end LogProblems.Matcher
