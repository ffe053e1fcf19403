import LogProblems.Proofs.CommandLine.Rescan
import LogProblems.Proofs.Settings.Resolution

/-!
# A command line without a choice

A command line that gives no parser and no titles falls back on what a session remembers,
as far as the settings still know it, and then on the settings.  A rescan asks the session
itself, which falls back by a policy of its own.  The two policies are the same: the
command line chooses what a rescan would scan, and fails where a rescan fails before it
looks for the log.

That a rescan fails before it looks for the log can be seen from outside: it fails alike
with every log that the session could remember, and with none.

* `chooseSelection_bare`: what the command line falls back on;
* `chooseSelection_eq_error_iff`: choices that fail;
* `choice_agrees_with_rescan`: the two policies.
-/

set_option autoImplicit false

namespace LogProblems

open LogProblems.Matcher

namespace CommandLine

variable {settings : Settings} {s : Session} {selection : Selection} {log : String}

theorem chooseSelection_bare (a : ScanArguments) (settings : Settings) (s : Session) :
    chooseSelection a.bare settings s
      = (s.usualParser settings).bind (s.preselected settings) := by
  unfold chooseSelection Session.usualParser
  cases s.parser with
  | none => rfl
  | some remembered =>
    cases hmatchers : settings.matchers remembered with
    | error fault => simp only [ScanArguments.bare, hmatchers]; rfl
    | ok ds => simp only [ScanArguments.bare, hmatchers]; rfl

theorem resolve_rescan_of_choice {a : ScanArguments}
    (h : chooseSelection a.bare settings s = .ok selection) :
    s.resolve settings .rescan
      = s.rememberedLog.bind fun log => s.resolve settings (.scanFile selection log) := by
  rw [chooseSelection_bare] at h
  rw [Session.resolve_rescan_eq_bind, h]
  rfl

theorem resolve_rescan_of_no_choice {a : ScanArguments} {fault : SelectionFault}
    (h : chooseSelection a.bare settings s = .error fault) :
    s.resolve settings .rescan = .error fault := by
  rw [chooseSelection_bare] at h
  rw [Session.resolve_rescan_eq_bind, h]
  rfl

theorem chooseSelection_withLog (a : ScanArguments) (settings : Settings) (s : Session)
    (log : Option String) :
    chooseSelection a settings { s with log } = chooseSelection a settings s := rfl

/-- The command line fails exactly where a rescan fails whatever log is remembered. -/
theorem chooseSelection_eq_error_iff {a : ScanArguments} {fault : SelectionFault} :
    chooseSelection a.bare settings s = .error fault ↔
      ∀ log, ({ s with log } : Session).resolve settings .rescan = .error fault := by
  constructor
  · intro h log
    rw [← chooseSelection_withLog a.bare settings s log] at h
    exact resolve_rescan_of_no_choice h
  · intro h
    cases hchoose : chooseSelection a.bare settings s with
    | error fault' =>
      have hrescan := resolve_rescan_of_no_choice (s := { s with log := none }) hchoose
      rw [Except.error.inj (hrescan.symm.trans (h none))]
    | ok selection =>
      -- A choice fails for want of a log without one, and never with one.
      have hnone := resolve_rescan_of_choice (s := { s with log := none }) hchoose
      have hsome := resolve_rescan_of_choice (s := { s with log := some "" }) hchoose
      obtain rfl : fault = .noLogFile := Except.error.inj ((h none).symm.trans hnone)
      have hselect : (settings.select selection).map (fun definitions =>
          ({ selection, log := "", definitions } : ResolvedScan)) = .error .noLogFile := by
        rw [← Session.resolve_scanFile { s with log := some "" } settings selection ""]
        exact hsome.symm.trans (h (some ""))
      cases hselected : settings.select selection with
      | error fault' =>
        rw [hselected] at hselect
        cases hselect
        exact absurd hselected (Settings.select_ne_noLogFile selection)
      | ok definitions =>
        rw [hselected] at hselect
        cases hselect

/-- **A command line without a choice chooses what a rescan scans.**

Where neither a parser nor titles are given, the choice fails exactly where a rescan fails
before it looks for the log, and with the same fault.  Otherwise a rescan is the scan of
what is chosen in the log that is remembered, and fails for want of a log where there is
none.  To give the parser that would have been chosen anyway changes neither the choice
nor what a rescan with the choice comes to. -/
theorem choice_agrees_with_rescan (a : ScanArguments) (settings : Settings) (s : Session) :
    (∀ fault, chooseSelection a.bare settings s = .error fault ↔
      ∀ log, ({ s with log } : Session).resolve settings .rescan = .error fault) ∧
    (∀ selection, chooseSelection a.bare settings s = .ok selection →
      (∀ log, s.log = some log →
        s.resolve settings .rescan = s.resolve settings (.scanFile selection log)) ∧
      (s.log = none → s.resolve settings .rescan = .error .noLogFile)) ∧
    ∀ parser, s.usualParser settings = .ok parser →
      chooseSelection { a.bare with parser := some parser } settings s
        = chooseSelection a.bare settings s ∧
      ((chooseSelection { a.bare with parser := some parser } settings s).bind fun selection =>
          s.resolve settings (.rescanWith selection))
        = s.resolve settings .rescan := by
  refine ⟨fun fault => chooseSelection_eq_error_iff, ?_, ?_⟩
  · intro selection hchoose
    have hrescan := resolve_rescan_of_choice hchoose
    constructor
    · intro log hlog
      rw [hrescan, Session.rememberedLog, hlog]
      rfl
    · intro hlog
      rw [hrescan, Session.rememberedLog, hlog]
      rfl
  · intro parser husual
    have hgiven : chooseSelection { a.bare with parser := some parser } settings s
        = chooseSelection a.bare settings s := by
      rw [chooseSelection_bare, husual]
      rfl
    refine ⟨hgiven, ?_⟩
    rw [hgiven]
    cases hchoose : chooseSelection a.bare settings s with
    | error fault => exact (resolve_rescan_of_no_choice hchoose).symm
    | ok selection =>
      rw [resolve_rescan_of_choice hchoose]
      show s.resolve settings (.rescanWith selection) = _
      unfold Session.resolve
      cases s.rememberedLog with
      | error fault => rfl
      | ok log => rfl

/-- The remembered parser has no matchers any more, and the titles that are remembered for
the first parser are gone: its default is chosen, by the command line and by the rescan.
Where the other parser is the only one, both fail. -/
theorem choice_agrees_with_rescan_stale :
    ∃ (a : ScanArguments) (one two : Definition) (s : Session) (r : ResolvedScan),
      s.parser = some "b" ∧ s.matchers = [("a", ["gone"])] ∧ s.log = some "l" ∧
      r = { selection := ⟨"a", ["one"]⟩, log := "l", definitions := [one] } ∧
      s.resolve ⟨[("a", [one, two]), ("b", [])]⟩ .rescan = .ok r ∧
      s.resolve ⟨[("a", [one, two]), ("b", [])]⟩ (.scanFile ⟨"a", ["one"]⟩ "l") = .ok r ∧
      ((chooseSelection { a.bare with parser := some "a" } ⟨[("a", [one, two]), ("b", [])]⟩ s).bind
        fun selection => s.resolve ⟨[("a", [one, two]), ("b", [])]⟩ (.rescanWith selection))
          = .ok r ∧
      ∀ log, ({ s with log } : Session).resolve ⟨[("b", [])]⟩ .rescan
        = .error (.noMatchers "b") := by
  let a : ScanArguments := { settings := "s" }
  let one : Definition := { title := some "one" }
  let two : Definition := { title := some "two", defaultSelected := some false }
  let s : Session :=
    { parser := some "b", matchers := [("a", ["gone"])], log := some "l",
      ordered := List.pairwise_singleton _ _ }
  let r : ResolvedScan :=
    { selection := ⟨"a", ["one"]⟩, log := "l", definitions := [one] }
  obtain ⟨-, hchosen, hgiven⟩ :=
    choice_agrees_with_rescan a ⟨[("a", [one, two]), ("b", [])]⟩ s
  have hrescan := (hchosen ⟨"a", ["one"]⟩ (by decide +kernel)).1 "l" rfl
  have hscan : s.resolve ⟨[("a", [one, two]), ("b", [])]⟩ (.scanFile ⟨"a", ["one"]⟩ "l")
      = .ok r := by decide +kernel
  refine ⟨a, one, two, s, r, rfl, rfl, rfl, rfl, hrescan.trans hscan, hscan, ?_, ?_⟩
  · exact (hgiven "a" (by decide +kernel)).2.trans (hrescan.trans hscan)
  · exact ((choice_agrees_with_rescan a ⟨[("b", [])]⟩ s).1 (.noMatchers "b")).1 (by decide +kernel)

end CommandLine

end LogProblems
