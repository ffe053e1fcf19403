import LogProblems.Proofs.Scan.Alike

/-!
# Titles

A definition without a title is named by its place, so its matcher and its faults have
other names where other definitions stand before it.  Nothing else depends on the place,
and scans do not depend on titles.

* `compile_untitled`: a definition at several places;
* `title_of_compile` and `matcher_of_compile`: the names of matchers and faults;
* `alike_of_untitled`: matchers that differ in their titles answer alike;
* `scan_congr`: scans of any log.
-/

set_option autoImplicit false

namespace LogProblems

open LogProblems.Matcher

/-! ## Matchers at several places -/

namespace Matcher

/-- The matcher without its title. -/
def Compiled.untitled (m : Compiled) : Compiled :=
  { m with title := "" }

/-- Titles do not matter to what matchers do. -/
theorem Compiled.alike_of_untitled {m m' : Compiled} (hm : m.Lawful)
    (h : m'.untitled = m.untitled) (context : Context) : Alike context context m m' := by
  have htitle := congrArg (fun x : Compiled => { x with title := m'.title }) h
  obtain ⟨title, rfl⟩ : ∃ title, m' = { m with title } := ⟨m'.title, htitle⟩
  constructor
  · intro s hs line number
    obtain ⟨current, hstep⟩ := (hs.sound hm).exists_step
    unfold State.advance
    simp only [hstep]
    cases current.pattern.find line <;> rfl
  · intro s
    rfl

/-- Whether steps compile, and to what, does not depend on the names in their faults. -/
theorem compileSteps_toOption (title title' : String) (wholeFile only : Bool)
    (ds : List StepDefinition) (place place' : Nat) :
    (compileSteps title' wholeFile only place' ds).toOption
      = (compileSteps title wholeFile only place ds).toOption := by
  induction ds generalizing place place' with
  | nil => rfl
  | cons d rest ih =>
    have hrest := ih (place + 1) (place' + 1)
    simp only [compileSteps, compileStep]
    cases d.regexp with
    | none => rfl
    | some source =>
      cases hpattern : Pattern.compile? source with
      | none => simp only [hpattern]; rfl
      | some pattern =>
        simp only [hpattern]
        cases hlater : compileSteps title wholeFile only (place + 1) rest <;>
          cases hlater' : compileSteps title' wholeFile only (place' + 1) rest <;>
            simp_all [Except.toOption]

/-- A definition compiles at all places to the same matcher, but for the title. -/
theorem compile_untitled (d : Definition) (place place' : Nat) :
    (compile d place').toOption.map Compiled.untitled
      = (compile d place).toOption.map Compiled.untitled := by
  have hsteps := compileSteps_toOption (d.titleAt place) (d.titleAt place') d.wholeFile
    (d.steps.length == 1) d.steps 0 0
  simp only [compile]
  split
  · rfl
  · cases h : compileSteps (d.titleAt place) d.wholeFile (d.steps.length == 1) 0 d.steps <;>
      cases h' : compileSteps (d.titleAt place') d.wholeFile (d.steps.length == 1) 0 d.steps <;>
        simp_all [Except.toOption, Compiled.untitled]

theorem title_of_compile {d : Definition} {place : Nat} {m : Compiled}
    (h : compile d place = .ok m) : m.title = d.titleAt place := by
  obtain ⟨_, _, _, rfl⟩ := compile_eq_ok_iff.1 h
  rfl

theorem compileSteps_error {title : String} {wholeFile only : Bool} {fault : Fault}
    {ds : List StepDefinition} {place : Nat}
    (h : compileSteps title wholeFile only place ds = .error fault) : fault.matcher = title := by
  induction ds generalizing place with
  | nil => cases h
  | cons d rest ih =>
    simp only [compileSteps] at h
    split at h
    · next hstep =>
      cases h
      unfold compileStep at hstep
      split at hstep
      · cases hstep
        rfl
      · split at hstep
        · cases hstep
          rfl
        · cases hstep
    · split at h
      · next hrest =>
        cases h
        exact ih hrest
      · cases h

theorem matcher_of_compile {d : Definition} {place : Nat} {fault : Fault}
    (h : compile d place = .error fault) : fault.matcher = d.titleAt place := by
  simp only [compile] at h
  split at h
  · cases h
    rfl
  · split at h
    · next hsteps =>
      cases h
      exact compileSteps_error hsteps
    · cases h

end Matcher

/-! ## Scans -/

namespace Scanner

theorem scan_congr {ds ds' : List Definition} {options : ScanOptions}
    (h : (ofDefinitions ds' options).matchers.map Compiled.untitled
      = (ofDefinitions ds options).matchers.map Compiled.untitled)
    (cancelled : Nat → Bool) (log : LogInput) :
    (ofDefinitions ds' options).scan cancelled log
      = (ofDefinitions ds options).scan cancelled log := by
  refine scan_of_alike ?_ cancelled
  have hsame := (List.forall₂_and_left _ _).2 ⟨lawful_of_mem_matchers, forall₂_of_map_eq h⟩
  refine hsame.imp fun m m' hm => ?_
  exact Compiled.alike_of_untitled hm.1 hm.2 _

end Scanner

end LogProblems
