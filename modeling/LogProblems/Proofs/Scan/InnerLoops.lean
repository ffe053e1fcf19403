import LogProblems.Proofs.Matcher.Block
import LogProblems.Proofs.Matcher.InnerLoops
import LogProblems.Proofs.Scan.Alike
import LogProblems.Proofs.Scan.Interleaving

/-!
# Scans and loop flags before the last step

Two definitions that differ in the `loop` flags of steps before the last one give the
same scans unless a flag turns a step into one that continues a message, lines lead to
that step, and a line fails it.  Then one scan reports a problem and the other does not.

* `alike_of_variant` and `scanLines_setInnerLoops`: scans that are equal;
* `total_of_failure` and `exists_scanLines_ne`: scans that are not;
* `inner_loops_iff`: when a change of flags shows in no scan;
* `inner_loops_show`: a change that shows.
-/

set_option autoImplicit false

namespace LogProblems

open LogProblems.Matcher

/-! ## Scans of one matcher -/

namespace Matcher

variable {m m' : Compiled} {context : Context}

theorem State.Reached.leadsTo {s : State} (hm : m.Lawful) (h : s.Reached m context) :
    m.LeadsTo s.cursor := by
  induction h with
  | blank => exact m.leadsTo_zero
  | advance hs hadvance ih => exact State.advance_leadsTo (hs.sound hm) ih hadvance

/-- Matchers that differ in roles only, and not where lines can fail, answer alike. -/
theorem Compiled.alike_of_variant (hm : m.Lawful) (hv : m.Variant m')
    (hagree : ∀ k step step', 0 < k → m.CanFail k → m.steps[k]? = some step →
      m'.steps[k]? = some step' → step'.isContinuation = step.isContinuation) :
    Alike context context m m' := by
  constructor
  · intro s hs line number
    refine State.advance_of_variant hv (hs.sound hm) fun step step' hstep hstep' hfind hpos => ?_
    exact hagree s.cursor step step' hpos ⟨hs.leadsTo hm, step, line, hstep, hfind⟩ hstep hstep'
  · intro s
    exact State.flush_of_variant hv

end Matcher

namespace Scan

theorem run_never (lines : List String) (scan : Scan) :
    scan.run (fun _ => false) lines = scan.feedAll lines := by
  induction lines generalizing scan with
  | nil => rfl
  | cons line rest ih =>
    simp only [run, feedAll, Bool.false_eq_true, if_false]
    cases scan.feed line with
    | error fault => rfl
    | ok next => exact ih next

end Scan

/-- What a matcher emits from a state on, as one sequence. -/
theorem Matcher.State.emissions_eq_rounds {m : Compiled} (hm : m.Lawful) (context : Context)
    (lines : List String) :
    ∀ {s : State} (number : Nat), s.Sound m →
      s.emissions m context number lines = .ok (s.rounds m context number lines).flatten := by
  induction lines with
  | nil =>
    intro s number _
    simp [State.emissions, State.rounds]
  | cons line rest ih =>
    intro s number hsound
    have hnext := State.turn_sound hm hsound line number context
    simp only [State.emissions, State.advance_eq_turn hsound, ih _ hnext]
    rfl

namespace Scanner

variable {d : Definition} {options : ScanOptions}

theorem matchers_singleton_of_error {fault : Fault} (h : compile d 0 = .error fault) :
    (ofDefinitions [d] options).matchers = [] := by
  simp [ofDefinitions, verdicts, Verdict.of, h, Verdict.matcher?]

theorem matchers_singleton {m : Compiled} (h : compile d 0 = .ok m) :
    (ofDefinitions [d] options).matchers
      = if m.lacksSeveritySource && options.strictSeverity then [] else [m] := by
  simp only [ofDefinitions, verdicts, Verdict.of, h]
  cases m.lacksSeveritySource <;> cases options.strictSeverity <;> rfl

theorem scanLines_congr {ds ds' : List Definition}
    (h : (ofDefinitions ds' options).matchers = (ofDefinitions ds options).matchers)
    (cancelled : Nat → Bool) (lines : List String) :
    (ofDefinitions ds' options).scanLines cancelled lines
      = (ofDefinitions ds options).scanLines cancelled lines := by
  rw [scanLines, scanLines, begin, begin, h]
  rfl

end Scanner

theorem scanLines_singleton {d : Definition} {m : Compiled} (h : compile d 0 = .ok m)
    (lines : List String) :
    (Scanner.ofDefinitions [d] {}).scanLines (fun _ => false) lines
      = .ok ⟨.ofEmissions (State.blank.rounds m {} 0 lines).flatten, lines.length⟩ := by
  have hmatchers : (Scanner.ofDefinitions [d] {}).matchers = [m] := by
    rw [Scanner.matchers_singleton h, Bool.and_false]
    rfl
  rw [Scanner.scanLines, Scanner.begin, hmatchers, Scan.run_never]
  exact Scan.outcome_start_singleton (compile_lawful h) {} lines

/-- A scan in which a line fails a step before the last one, after lines that lead to
it, reports a problem if the step continues a message and none if it does not. -/
theorem total_of_failure {d : Definition} {m : Compiled} (h : compile d 0 = .ok m)
    {lines : List String} {failing : String} {step : Step} (hpos : 0 < lines.length)
    (hlt : lines.length < m.steps.length)
    (hlines : ∀ (i : Nat) (line : String), lines[i]? = some line →
      ∃ step : Step, m.steps[i]? = some step ∧ (step.pattern.find line).isSome = true)
    (hstep : m.steps[lines.length]? = some step) (hfailing : step.pattern.find failing = none) :
    ∃ output, (Scanner.ofDefinitions [d] {}).scanLines (fun _ => false) (lines ++ [failing])
        = .ok output ∧
      output.listing.total = if step.isContinuation then 1 else 0 := by
  have hm := compile_lawful h
  obtain ⟨es, hes, hlen⟩ := Compiled.emissions_of_failure hm {} hpos hlt hlines hstep hfailing
  rw [State.emissions_eq_rounds hm _ _ 0 (State.sound_blank hm), Except.ok.injEq] at hes
  refine ⟨_, scanLines_singleton h (lines ++ [failing]), ?_⟩
  rw [Listing.total_of_files (Listing.ofEmissions_files _), hes, hlen]

/-! ## Two definitions -/

variable {d : Definition} {flag : Nat → Option Bool}

theorem scanLines_setInnerLoops
    (hcannot : ∀ m, compile d 0 = .ok m → ∀ k, 0 < k → d.FlagMatters flag k → ¬ m.CanFail k)
    (options : ScanOptions) (cancelled : Nat → Bool) (lines : List String) :
    (Scanner.ofDefinitions [d.setInnerLoops flag] options).scanLines cancelled lines
      = (Scanner.ofDefinitions [d] options).scanLines cancelled lines := by
  cases h : compile d 0 with
  | error fault =>
    cases h' : compile (d.setInnerLoops flag) 0 with
    | error fault' =>
      refine Scanner.scanLines_congr ?_ cancelled lines
      rw [Scanner.matchers_singleton_of_error h, Scanner.matchers_singleton_of_error h']
    | ok m' =>
      obtain ⟨m, hm⟩ := (Definition.exists_compile_setInnerLoops_iff d flag).1 ⟨m', h'⟩
      rw [h] at hm
      cases hm
  | ok m =>
    obtain ⟨m', h'⟩ := (Definition.exists_compile_setInnerLoops_iff d flag).2 ⟨m, h⟩
    have hm := compile_lawful h
    have hv := compile_setInnerLoops h h'
    have hlacks : m'.lacksSeveritySource = m.lacksSeveritySource := by
      rw [Compiled.lacksSeveritySource, hv.severity, Compiled.lacksSeveritySource]
    cases hdropped : m.lacksSeveritySource && options.strictSeverity with
    | true =>
      refine Scanner.scanLines_congr ?_ cancelled lines
      rw [Scanner.matchers_singleton h, Scanner.matchers_singleton h', hlacks, hdropped]
      rfl
    | false =>
      have hagree : ∀ k step step', 0 < k → m.CanFail k → m.steps[k]? = some step →
          m'.steps[k]? = some step' → step'.isContinuation = step.isContinuation := by
        intro k step step' hpos hcan hstep hstep'
        by_contra hdiffer
        exact hcannot m h k hpos ((isContinuation_ne_iff h h' hstep hstep').1 hdiffer) hcan
      refine @Scanner.scan_of_alike _ _ (.lines lines) ?_ cancelled
      rw [Scanner.matchers_singleton h, Scanner.matchers_singleton h', hlacks, hdropped]
      exact .cons (Compiled.alike_of_variant hm hv hagree) .nil

theorem exists_scanLines_ne {m : Compiled} (h : compile d 0 = .ok m) {k : Nat} (hpos : 0 < k)
    (hmatters : d.FlagMatters flag k) (hcan : m.CanFail k) :
    ∃ lines, (Scanner.ofDefinitions [d.setInnerLoops flag] {}).scanLines (fun _ => false) lines
      ≠ (Scanner.ofDefinitions [d] {}).scanLines (fun _ => false) lines := by
  obtain ⟨hleads, step, failing, hstep, hfailing⟩ := hcan
  obtain ⟨m', h'⟩ := (Definition.exists_compile_setInnerLoops_iff d flag).2 ⟨m, h⟩
  have hv := compile_setInnerLoops h h'
  have hlt : k < m.steps.length := (List.getElem?_eq_some_iff.1 hstep).1
  obtain ⟨step', hstep', hpattern⟩ := hv.exists_step hstep
  have hdiffer := (isContinuation_ne_iff h h' hstep hstep').2 hmatters
  obtain ⟨lines, rfl, hlines⟩ := hleads.exists_lines
  have hlines' : ∀ (i : Nat) (line : String), lines[i]? = some line →
      ∃ s : Step, m'.steps[i]? = some s ∧ (s.pattern.find line).isSome = true := by
    intro i line hi
    obtain ⟨s, hs, hmatch⟩ := hlines i line hi
    obtain ⟨s', hs', hsame⟩ := hv.exists_step hs
    exact ⟨s', hs', by rwa [hsame]⟩
  obtain ⟨output, hrun, htotal⟩ := total_of_failure h hpos hlt hlines hstep hfailing
  obtain ⟨output', hrun', htotal'⟩ := total_of_failure h' hpos (by rw [hv.length]; exact hlt)
    hlines' hstep' (by rw [hpattern, hfailing])
  refine ⟨lines ++ [failing], fun hsame => hdiffer ?_⟩
  -- Equal scans would report equally often: once for the one role, never for the other.
  rw [hrun, hrun', Except.ok.injEq] at hsame
  rw [hsame, htotal] at htotal'
  cases hs : step.isContinuation <;> cases hs' : step'.isContinuation <;> simp_all

/-- **When a change of `loop` flags before the last step shows.**

Two definitions that differ in the flags of steps before the last one give the same
scans of all lines, with all options, exactly if there is no step past the first that
takes a message and nothing else, that would repeat in one of them only, and that some
line can fail after lines that match the steps before it. -/
theorem inner_loops_iff (d : Definition) (flag : Nat → Option Bool) :
    (∀ (options : ScanOptions) (cancelled : Nat → Bool) (lines : List String),
      (Scanner.ofDefinitions [d.setInnerLoops flag] options).scanLines cancelled lines
        = (Scanner.ofDefinitions [d] options).scanLines cancelled lines) ↔
    ∀ m, compile d 0 = .ok m → ∀ k, 0 < k → d.FlagMatters flag k → ¬ m.CanFail k := by
  constructor
  · intro hsame m h k hpos hmatters hcan
    obtain ⟨lines, hne⟩ := exists_scanLines_ne h hpos hmatters hcan
    exact hne (hsame {} _ lines)
  · intro hcannot options cancelled lines
    exact scanLines_setInnerLoops hcannot options cancelled lines

/-- A heading, a note and a footer, of which the log has the heading only.  If the note
repeats, the scan reports a problem where the note is missing, and else it does not. -/
theorem inner_loops_show :
    ∃ d output output',
      d = { pattern := some (.many [{ regexp := some "^A$" },
        { regexp := some "^B (.*)$", message := some 1, loop := some true },
        { regexp := some "^C$" }]) } ∧
      (Scanner.ofDefinitions [d] {}).scanLines (fun _ => false) ["A", "X"] = .ok output ∧
      (Scanner.ofDefinitions [d.setInnerLoops fun _ => none] {}).scanLines (fun _ => false)
        ["A", "X"] = .ok output' ∧
      output.listing.total = 1 ∧ output'.listing.total = 0 := by
  generalize hd : ({ pattern := some (.many [{ regexp := some "^A$" },
    { regexp := some "^B (.*)$", message := some 1, loop := some true },
    { regexp := some "^C$" }]) } : Definition) = d
  have htotal : (compile d 0).toOption.map (fun m =>
      (State.blank.rounds m {} 0 ["A", "X"]).flatten.length) = some 1 := by
    subst hd
    decide +kernel
  have htotal' : (compile (d.setInnerLoops fun _ => none) 0).toOption.map (fun m =>
      (State.blank.rounds m {} 0 ["A", "X"]).flatten.length) = some 0 := by
    subst hd
    decide +kernel
  obtain ⟨m, h, hone⟩ := exists_of_toOption_map htotal
  obtain ⟨m', h', hzero⟩ := exists_of_toOption_map htotal'
  refine ⟨d, _, _, rfl, scanLines_singleton h _, scanLines_singleton h' _, ?_, ?_⟩
  · rw [Listing.total_of_files (Listing.ofEmissions_files _), hone]
  · rw [Listing.total_of_files (Listing.ofEmissions_files _), hzero]

end LogProblems
