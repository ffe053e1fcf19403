import LogProblems.Proofs.CommandLine.Outcome

/-!
# Commands that fail

A command that scans goes through its stages in order: it loads the settings and the
session, finds out what to ask the session for and what that means, compiles the matchers,
reads the log, writes the report, and saves the session.  The report is written when
nothing but the saving can fail any more, and the session is saved last.  So a command
that fails before has written nothing and has changed no file, and a command that succeeds
has added one scan to the history that it was given.

`Command.Fails` has one case for each stage before the report.  The stages are told apart
by what the parts of the command give, so that the cases say when a command fails and not
how the failure is worded only.

* `resolveScan_of_asks`: what a command finds out that has loaded what it starts from;
* `run_of_fails`: a failure before the report;
* `fails_or_reports`: there is no other way to get no report;
* `run_ends`: how a command that scans can end;
* `failed_command_keeps_history`: commands that scan.
-/

set_option autoImplicit false

namespace LogProblems.CommandLine

open LogProblems.Matcher

/-! ## Stages -/

namespace Command

/-- The arguments of a command that scans. -/
def scanArguments? : Command → Option ScanArguments
  | scan _ a => some a
  | rescan a => some a
  | list _ => none

/-- The log that a command is given. -/
def givenLog? : Command → Option String
  | scan log _ => some log
  | rescan _ => none
  | list _ => none

/-- What a command asks its session for, or why it has nothing to ask for. -/
inductive Asks (settings : Settings) (s : Session) :
    Command → Except SelectionFault ScanRequest → Prop
  | scan (log : String) (a : ScanArguments) :
      Asks settings s (.scan log a)
        ((chooseSelection a settings s).map fun selection => .scanFile selection log)
  | rescan {a : ScanArguments} (parser : a.parser = none) (matchers : a.matchers = []) :
      Asks settings s (.rescan a) (.ok .rescan)
  | rescanWith {a : ScanArguments} (given : a.parser ≠ none ∨ a.matchers ≠ []) :
      Asks settings s (.rescan a) ((chooseSelection a settings s).map .rescanWith)

/-- The settings and the session that a command starts from.  Without a file for it the
session is blank, and then there is nothing to repeat. -/
structure Loads (files : FileTree) (c : Command) (a : ScanArguments) (settings : Settings)
    (s : Session) : Prop where
  remembering : c = .rescan a → a.session ≠ none
  settings : Settings.load files a.settings = .ok settings
  session : ∀ path, a.session = some path → Session.load files path = .ok s
  blank : a.session = none → s = {}

/-- What a command is to scan, and the session that it found that out from. -/
def Resolves (files : FileTree) (c : Command) (a : ScanArguments) (s : Session)
    (r : ResolvedScan) : Prop :=
  ∃ settings request, c.Loads files a settings s ∧ c.Asks settings s (.ok request) ∧
    s.resolve settings request = .ok r

end Command

namespace Command

/-- Why a command fails before it writes its report, and what it has told until then. -/
inductive Fails (files : FileTree) (c : Command) (a : ScanArguments) :
    List Notice → Failure → Prop
  | sessionNeeded (rescan : c = .rescan a) (none : a.session = none) :
      Fails files c a [] .sessionNeeded
  | settings {fault : DocumentFault} (remembering : c = .rescan a → a.session ≠ none)
      (load : Settings.load files a.settings = .error fault) :
      Fails files c a [] (.settings a.settings fault)
  | session {settings : Settings} {path : String} {fault : DocumentFault}
      (first : Settings.load files a.settings = .ok settings) (remembering : a.session = some path)
      (load : Session.load files path = .error fault) :
      Fails files c a [] (.loadSession path fault)
  | choice {settings : Settings} {s : Session} {fault : SelectionFault}
      (loads : c.Loads files a settings s) (asks : c.Asks settings s (.error fault)) :
      Fails files c a [] (.selection fault)
  | resolution {settings : Settings} {s : Session} {request : ScanRequest}
      {fault : SelectionFault} (loads : c.Loads files a settings s)
      (asks : c.Asks settings s (.ok request))
      (resolve : s.resolve settings request = .error fault) :
      Fails files c a [] (.selection fault)
  | compiling {s : Session} {r : ResolvedScan} (resolves : c.Resolves files a s r)
      (none : (a.scannerOf r).matchers = []) :
      Fails files c a (a.notices r.definitions) (.nothingCompiled r.selection.parser)
  | reading {s : Session} {r : ResolvedScan} {fault : IoFault}
      (resolves : c.Resolves files a s r) (some : (a.scannerOf r).matchers ≠ [])
      (read : files.read r.log = .error fault) :
      Fails files c a (a.notices r.definitions) (.scan r.log (.io fault))

/-- What a command reports: the outcome of the scan that it resolves to. -/
structure Reports (files : FileTree) (c : Command) (a : ScanArguments) (s : Session)
    (r : ResolvedScan) (outcome : ScanOutput) : Prop where
  resolves : c.Resolves files a s r
  compiled : (a.scannerOf r).matchers ≠ []
  scanned : (a.scannerOf r).scanFile (fun _ => false) files r.log = .ok outcome

/-- A command cannot save its session when it has written its report. -/
def CannotSave (files : FileTree) (c : Command) (a : ScanArguments) (path : String)
    (fault : DocumentFault) : Prop :=
  a.session = some path ∧ ∃ s r outcome, c.Reports files a s r outcome ∧
    (s.record r.selection r.log).save files path = .error fault

/-- How a command that scans can end. -/
inductive Ends (files : FileTree) (c : Command) (a : ScanArguments) (colored : Bool) :
    Outcome → Prop
  | failed {notices : List Notice} {failure : Failure} (fails : c.Fails files a notices failure) :
      Ends files c a colored
        { exitCode := 1, output := "", notices, errors := s!"error: {failure.message}\n", files }
  | unsaved {s : Session} {r : ResolvedScan} {outcome : ScanOutput} {path : String}
      {fault : DocumentFault} (reports : c.Reports files a s r outcome)
      (remembering : a.session = some path)
      (save : (s.record r.selection r.log).save files path = .error fault) :
      Ends files c a colored
        { exitCode := 1
          output := report a.format colored outcome
          notices := a.notices r.definitions
          errors := s!"error: {(Failure.saveSession path fault).message}\n"
          files }
  | forgotten {s : Session} {r : ResolvedScan} {outcome : ScanOutput}
      (reports : c.Reports files a s r outcome) (none : a.session = none) :
      Ends files c a colored
        { exitCode := 0
          output := report a.format colored outcome
          notices := a.notices r.definitions
          files }
  | remembered {s : Session} {r : ResolvedScan} {outcome : ScanOutput} {path : String}
      {after : FileTree} (reports : c.Reports files a s r outcome)
      (remembering : a.session = some path)
      (save : (s.record r.selection r.log).save files path = .ok after) :
      Ends files c a colored
        { exitCode := 0
          output := report a.format colored outcome
          notices := a.notices r.definitions
          files := after }

end Command

/-! ## What is to be scanned -/

section Resolution

variable {files : FileTree} {c : Command} {a : ScanArguments} {colored : Bool}
  {settings : Settings} {s : Session} {r : ResolvedScan} {failure : Failure}

theorem exists_asks (ha : c.scanArguments? = some a) (settings : Settings) (s : Session) :
    ∃ asked, c.Asks settings s asked := by
  cases c with
  | scan log a' => exact ⟨_, .scan log a'⟩
  | rescan a' =>
    by_cases hgiven : a'.parser ≠ none ∨ a'.matchers ≠ []
    · exact ⟨_, .rescanWith hgiven⟩
    · rw [not_or, not_not, not_not] at hgiven
      exact ⟨_, .rescan hgiven.1 hgiven.2⟩
  | list path => cases ha

/-- A command asks one thing. -/
theorem resolveScan_of_asks {asked : Except SelectionFault ScanRequest}
    (ha : c.scanArguments? = some a) (hloads : c.Loads files a settings s)
    (hasks : c.Asks settings s asked) :
    resolveScan files c.givenLog? a
      = (selected (asked.bind (s.resolve settings))).map fun r => (s, r) := by
  have hsettings : loadSettings files a.settings = .ok settings :=
    loadSettings_eq_ok_iff.2 hloads.settings
  have hsession : loadSession files a.session = .ok s := by
    cases hpath : a.session with
    | none => rw [hloads.blank hpath]; rfl
    | some path => exact loadSession_eq_ok_iff.2 (hloads.session path hpath)
  unfold resolveScan
  simp only [hsettings, hsession, bind, Except.bind, pure, Except.pure]
  cases hasks with
  | scan log a' =>
    obtain rfl : a' = a := Option.some.inj ha
    simp only [Command.givenLog?]
    cases chooseSelection a' settings s with
    | error fault => rfl
    | ok selection => cases s.resolve settings (.scanFile selection log) <;> rfl
  | @rescan a' hparser hmatchers =>
    obtain rfl : a' = a := Option.some.inj ha
    simp only [Command.givenLog?, hparser, hmatchers, Option.isNone_none, List.isEmpty_nil,
      Bool.and_self, if_true]
    cases s.resolve settings .rescan <;> rfl
  | @rescanWith a' hgiven =>
    obtain rfl : a' = a := Option.some.inj ha
    have hnot : (a'.parser.isNone && a'.matchers.isEmpty) = false := by
      rcases hgiven with hparser | hmatchers
      · simp [hparser]
      · simp [hmatchers]
    simp only [Command.givenLog?, hnot, Bool.false_eq_true, if_false]
    cases chooseSelection a' settings s with
    | error fault => rfl
    | ok selection => cases s.resolve settings (.rescanWith selection) <;> rfl

theorem resolveScan_of_resolves (ha : c.scanArguments? = some a)
    (h : c.Resolves files a s r) : resolveScan files c.givenLog? a = .ok (s, r) := by
  obtain ⟨settings, request, hloads, hasks, hresolve⟩ := h
  rw [resolveScan_of_asks ha hloads hasks]
  show (selected (s.resolve settings request)).map _ = _
  rw [hresolve]
  rfl

end Resolution

/-! ## Runs -/

section Runs

variable {files : FileTree} {c : Command} {a : ScanArguments} {colored : Bool}
  {settings : Settings} {s : Session} {r : ResolvedScan} {notices : List Notice}
  {failure : Failure} {outcome : ScanOutput}

/-- A command that has a session to repeat, where it is to repeat one, runs what it
resolves to. -/
theorem run_eq_execute (ha : c.scanArguments? = some a)
    (hremembering : c = .rescan a → a.session ≠ none) :
    c.run files colored
      = match resolveScan files c.givenLog? a with
        | .ok (s, r) => execute files a colored s r
        | .error failure => { files, failure := some failure } := by
  cases c with
  | scan log a' =>
    obtain rfl : a' = a := Option.some.inj ha
    rfl
  | rescan a' =>
    obtain rfl : a' = a := Option.some.inj ha
    have hsome : a'.session.isNone = false := by
      simpa [Option.isSome_iff_ne_none] using hremembering rfl
    rw [Command.run, hsome, if_neg Bool.false_ne_true]
    rfl
  | list path => cases ha

theorem run_of_resolveScan_error (ha : c.scanArguments? = some a)
    (hremembering : c = .rescan a → a.session ≠ none)
    (h : resolveScan files c.givenLog? a = .error failure) :
    c.run files colored = { files, failure := some failure } := by
  rw [run_eq_execute ha hremembering, h]

theorem run_of_resolves (ha : c.scanArguments? = some a) (h : c.Resolves files a s r) :
    c.run files colored = execute files a colored s r := by
  have hresolve := resolveScan_of_resolves ha h
  obtain ⟨settings, request, hloads, -⟩ := h
  rw [run_eq_execute ha hloads.remembering, hresolve]

theorem scanFile_of_unread (a : ScanArguments) {fault : IoFault}
    (h : files.read r.log = .error fault) :
    (a.scannerOf r).scanFile (fun _ => false) files r.log = .error (.io fault) := by
  rw [Scanner.scanFile, h]
  cases fault <;> rfl

theorem run_of_fails (ha : c.scanArguments? = some a) (h : c.Fails files a notices failure) :
    c.run files colored = { notices, files, failure := some failure } := by
  cases h with
  | sessionNeeded hrescan hnone =>
    rw [hrescan, Command.run, hnone]
    rfl
  | settings hremembering hload =>
    refine run_of_resolveScan_error ha hremembering ?_
    simp only [resolveScan, loadSettings, hload, bind, Except.bind]
  | session hsettings hpath hload =>
    refine run_of_resolveScan_error ha (fun _ => by rw [hpath]; exact Option.some_ne_none _) ?_
    simp only [resolveScan, loadSettings, loadSession, hsettings, hpath, hload, bind, Except.bind]
  | choice hloads hasks =>
    refine run_of_resolveScan_error ha hloads.remembering ?_
    rw [resolveScan_of_asks ha hloads hasks]
    rfl
  | @resolution settings s request fault hloads hasks hresolve =>
    refine run_of_resolveScan_error ha hloads.remembering ?_
    rw [resolveScan_of_asks ha hloads hasks]
    show (selected (s.resolve settings request)).map _ = _
    rw [hresolve]
    rfl
  | @compiling s r hresolves hnone =>
    have hreport : scanReport files a colored r = .error (.nothingCompiled r.selection.parser) := by
      rw [scanReport]
      exact if_pos (by rw [← ScanArguments.scannerOf, hnone]; rfl)
    rw [run_of_resolves ha hresolves, execute, hreport]
  | @reading s r fault hresolves hsome hread =>
    rw [run_of_resolves ha hresolves, execute, scanReport_of_matchers hsome,
      scanFile_of_unread a hread]

theorem run_of_reports (colored : Bool) (ha : c.scanArguments? = some a)
    (h : c.Reports files a s r outcome) :
    scanReport files a colored r = .ok (report a.format colored outcome) ∧
      c.run files colored = execute files a colored s r := by
  refine ⟨?_, run_of_resolves ha h.resolves⟩
  rw [scanReport_of_matchers h.compiled, h.scanned]

/-- A command fails at one of the stages before the report, or it has a report. -/
theorem fails_or_reports (files : FileTree) (ha : c.scanArguments? = some a) :
    (∃ notices failure, c.Fails files a notices failure) ∨
      ∃ s r outcome, c.Reports files a s r outcome := by
  -- Stage by stage: what fails is a case of `Fails`, and what does not is needed by the next.
  by_cases hneeded : c = .rescan a ∧ a.session = none
  · exact .inl ⟨_, _, .sessionNeeded hneeded.1 hneeded.2⟩
  have hremembering : c = .rescan a → a.session ≠ none := fun hc hnone => hneeded ⟨hc, hnone⟩
  cases hsettings : Settings.load files a.settings with
  | error fault => exact .inl ⟨_, _, .settings hremembering hsettings⟩
  | ok settings =>
    have hsession : (∃ s, c.Loads files a settings s) ∨
        ∃ path fault, a.session = some path ∧ Session.load files path = .error fault := by
      cases hpath : a.session with
      | none =>
        refine .inl ⟨{}, hremembering, hsettings, fun path h => ?_, fun _ => rfl⟩
        rw [hpath] at h
        cases h
      | some path =>
        cases hload : Session.load files path with
        | error fault => exact .inr ⟨path, fault, rfl, hload⟩
        | ok s =>
          refine .inl ⟨s, hremembering, hsettings, fun path' h => ?_, fun h => ?_⟩
          · obtain rfl := Option.some.inj (hpath.symm.trans h)
            exact hload
          · rw [hpath] at h
            cases h
    rcases hsession with ⟨s, hloads⟩ | ⟨path, fault, hpath, hload⟩
    · obtain ⟨asked, hasks⟩ := exists_asks ha settings s
      cases asked with
      | error fault => exact .inl ⟨_, _, .choice hloads hasks⟩
      | ok request =>
        cases hresolve : s.resolve settings request with
        | error fault => exact .inl ⟨_, _, .resolution hloads hasks hresolve⟩
        | ok r =>
          have hresolves : c.Resolves files a s r := ⟨settings, request, hloads, hasks, hresolve⟩
          by_cases hnone : (a.scannerOf r).matchers = []
          · exact .inl ⟨_, _, .compiling hresolves hnone⟩
          · cases hread : files.read r.log with
            | error fault => exact .inl ⟨_, _, .reading hresolves hnone hread⟩
            | ok octets =>
              obtain ⟨outcome, hscanned⟩ := exists_scanFile a hread
              exact .inr ⟨s, r, outcome, hresolves, hnone, hscanned⟩
    · exact .inl ⟨_, _, .session hsettings hpath hload⟩

theorem report_ne_empty (format : ReportFormat) (colored : Bool) (outcome : ScanOutput) :
    report format colored outcome ≠ "" := by
  intro h
  have hlength := congrArg String.length h
  cases format with
  | text => simp [report, textReport] at hlength
  | json => simp [report, jsonReport] at hlength

variable {terminal : Bool} {arguments : List String} {i : Invocation}

theorem run_of_failed_command (hi : Invocation.ofArguments arguments = .ok i) {output : String}
    (h : i.command.run files (i.color.holds terminal)
      = { output, notices, files, failure := some failure }) :
    run files terminal arguments
      = { exitCode := 1, output, notices, errors := s!"error: {failure.message}\n", files } := by
  simp only [run, hi, h]

theorem run_of_unsaved (hi : Invocation.ofArguments arguments = .ok i)
    (ha : i.command.scanArguments? = some a) (hreports : i.command.Reports files a s r outcome)
    {path : String} {fault : DocumentFault} (hpath : a.session = some path)
    (hsave : (s.record r.selection r.log).save files path = .error fault) :
    run files terminal arguments
      = { exitCode := 1
          output := report a.format (i.color.holds terminal) outcome
          notices := a.notices r.definitions
          errors := s!"error: {(Failure.saveSession path fault).message}\n"
          files } := by
  obtain ⟨hreport, hexecute⟩ := run_of_reports (i.color.holds terminal) ha hreports
  refine run_of_failed_command hi ?_
  rw [hexecute, execute, hreport, hpath]
  simp only [hsave]

/-- There is no other way for a command to end. -/
theorem run_ends (files : FileTree) (terminal : Bool)
    (hi : Invocation.ofArguments arguments = .ok i) (ha : i.command.scanArguments? = some a) :
    i.command.Ends files a (i.color.holds terminal) (run files terminal arguments) := by
  rcases fails_or_reports files ha with ⟨notices, failure, hfails⟩ | ⟨s, r, outcome, hreports⟩
  · rw [run_of_failed_command hi (run_of_fails ha hfails)]
    exact .failed hfails
  obtain ⟨hreport, hexecute⟩ := run_of_reports (i.color.holds terminal) ha hreports
  cases hpath : a.session with
  | none =>
    have heffect : i.command.run files (i.color.holds terminal)
        = { output := report a.format (i.color.holds terminal) outcome
            notices := a.notices r.definitions
            files } := by
      rw [hexecute, execute, hreport, hpath]
    rw [run_of_command hi heffect]
    exact .forgotten hreports hpath
  | some path =>
    cases hsave : (s.record r.selection r.log).save files path with
    | error fault =>
      rw [run_of_unsaved hi ha hreports hpath hsave]
      exact .unsaved hreports hpath hsave
    | ok after =>
      rw [run_of_command hi (hexecute.trans (execute_of_save hpath hreport hsave))]
      exact .remembered hreports hpath hsave

end Runs

/-! ## What the ends have in common -/

namespace Command.Ends

variable {files : FileTree} {c : Command} {a : ScanArguments} {colored : Bool} {outcome : Outcome}

theorem fails_or_cannotSave (h : c.Ends files a colored outcome) (hexit : outcome.exitCode ≠ 0) :
    (∃ notices failure, c.Fails files a notices failure) ∨
      ∃ path fault, c.CannotSave files a path fault := by
  cases h with
  | failed hfails => exact .inl ⟨_, _, hfails⟩
  | unsaved hreports hpath hsave => exact .inr ⟨_, _, hpath, _, _, _, hreports, hsave⟩
  | forgotten hreports hnone => exact absurd rfl hexit
  | remembered hreports hpath hsave => exact absurd rfl hexit

theorem cannotSave (h : c.Ends files a colored outcome) (hexit : outcome.exitCode ≠ 0)
    (houtput : outcome.output ≠ "") : ∃ path fault, c.CannotSave files a path fault := by
  cases h with
  | failed hfails => exact absurd rfl houtput
  | unsaved hreports hpath hsave => exact ⟨_, _, hpath, _, _, _, hreports, hsave⟩
  | forgotten hreports hnone => exact absurd rfl hexit
  | remembered hreports hpath hsave => exact absurd rfl hexit

theorem files_eq (h : c.Ends files a colored outcome) (hnone : a.session = none) :
    outcome.files = files := by
  cases h with
  | failed hfails => rfl
  | unsaved hreports hpath hsave => rfl
  | forgotten hreports hnone => rfl
  | remembered hreports hpath hsave =>
    rw [hnone] at hpath
    cases hpath

/-- A command that succeeds has saved the session that it loaded, with one scan more. -/
theorem exists_record (h : c.Ends files a colored outcome) (hexit : outcome.exitCode = 0)
    {path : String} (hpath : a.session = some path) :
    ∃ s r, Session.load files path = .ok s ∧ c.Resolves files a s r ∧
      Session.load outcome.files path = .ok (s.record r.selection r.log) := by
  cases h with
  | failed hfails => cases hexit
  | unsaved hreports hpath hsave => cases hexit
  | forgotten hreports hnone =>
    rw [hnone] at hpath
    cases hpath
  | @remembered s r _ path' after hreports hpath' hsave =>
    obtain rfl := Option.some.inj (hpath.symm.trans hpath')
    obtain ⟨settings, request, hloads, -⟩ := hreports.resolves
    exact ⟨s, r, hloads.session path hpath, hreports.resolves, Session.load_of_save hsave⟩

end Command.Ends

/-- **A command that fails leaves the history as it was.**

Whatever files there are, a command that fails before its report has written nothing to
its output and changed no file, and has told what compiling tells if it came that far.
The stages before the report are the only ones that can fail, but for the saving of the
session; so where a command fails and has written something, its session could not be
saved, and conversely.  A command without a file for its session changes no file.  A
command that succeeds has added one scan to the session that it loaded: the file holds
that session with the parser and the log replaced, and the titles of that parser, while
the titles of all other parsers are kept. -/
theorem failed_command_keeps_history {files : FileTree} {terminal : Bool}
    {arguments : List String} {i : Invocation} {a : ScanArguments}
    (hi : Invocation.ofArguments arguments = .ok i)
    (ha : i.command.scanArguments? = some a) :
    (∀ notices failure, i.command.Fails files a notices failure →
      run files terminal arguments
        = { exitCode := 1, output := "", notices, errors := s!"error: {failure.message}\n",
            files }) ∧
    ((run files terminal arguments).exitCode ≠ 0 ↔
      (∃ notices failure, i.command.Fails files a notices failure) ∨
        ∃ path fault, i.command.CannotSave files a path fault) ∧
    ((run files terminal arguments).exitCode ≠ 0 ∧ (run files terminal arguments).output ≠ "" ↔
      ∃ path fault, i.command.CannotSave files a path fault) ∧
    (a.session = none → (run files terminal arguments).files = files) ∧
    ((run files terminal arguments).exitCode = 0 → ∀ path, a.session = some path →
      ∃ s r, Session.load files path = .ok s ∧ i.command.Resolves files a s r ∧
        Session.load (run files terminal arguments).files path
          = .ok (s.record r.selection r.log) ∧
        (s.record r.selection r.log).Remembers r.selection r.log ∧
        ∀ other ≠ r.selection.parser,
          (s.record r.selection r.log).matchers.lookup other = s.matchers.lookup other) := by
  have hends := run_ends files terminal hi ha
  have hfails : ∀ notices failure, i.command.Fails files a notices failure →
      run files terminal arguments
        = { exitCode := 1, output := "", notices, errors := s!"error: {failure.message}\n",
            files } :=
    fun notices failure h => run_of_failed_command hi (run_of_fails ha h)
  have hunsaved : ∀ path fault, i.command.CannotSave files a path fault →
      (run files terminal arguments).exitCode ≠ 0 ∧
        (run files terminal arguments).output ≠ "" := by
    rintro path fault ⟨hpath, s, r, outcome, hreports, hsave⟩
    rw [run_of_unsaved hi ha hreports hpath hsave]
    exact ⟨Nat.one_ne_zero, report_ne_empty _ _ _⟩
  refine ⟨hfails, ⟨hends.fails_or_cannotSave, ?_⟩, ⟨fun h => hends.cannotSave h.1 h.2, ?_⟩,
    hends.files_eq, ?_⟩
  · rintro (⟨notices, failure, h⟩ | ⟨path, fault, h⟩)
    · rw [hfails notices failure h]
      exact Nat.one_ne_zero
    · exact (hunsaved path fault h).1
  · rintro ⟨path, fault, h⟩
    exact hunsaved path fault h
  · intro hexit path hpath
    obtain ⟨s, r, hload, hresolves, hsaved⟩ := hends.exists_record hexit hpath
    exact ⟨s, r, hload, hresolves, hsaved, Session.record_remembers _ _ _,
      fun other hother => Session.lookup_setTitles_of_ne hother⟩

/-- A session that remembers a scan with another parser. -/
def otherSession : Session :=
  { parser := some "q", matchers := [("q", ["x"])], log := some "k",
    ordered := List.pairwise_singleton _ _ }

theorem resolves_smallFiles (log : String) :
    (Command.scan log { settings := "s", session := some "h" }).Resolves
      (smallFiles smallSettings (some otherSession)) { settings := "s", session := some "h" }
      otherSession { selection := ⟨"p", ["a"]⟩, log, definitions := [smallMatcher] } := by
  refine ⟨{ parsers := [("p", [smallMatcher])] }, .scanFile ⟨"p", ["a"]⟩ log, ?_, ?_, ?_⟩
  · constructor
    case remembering => simp
    case settings => exact load_smallFiles _ _ read_smallSettings
    case session =>
      intro path hpath
      obtain rfl := Option.some.inj hpath
      exact loadSession_smallFiles _ _
    case blank => simp
  · exact .scan log _
  · rfl

/-- A scan of a log that does not exist leaves the session, and a scan of a log that does
exist adds itself. -/
theorem failed_command_keeps_history_missing :
    ∃ (files : FileTree) (s₀ s₁ : Session),
      Session.load files "h" = .ok s₀ ∧
      s₀ = { parser := some "q", matchers := [("q", ["x"])], log := some "k",
             ordered := List.pairwise_singleton _ _ } ∧
      run files false ["scan", "m", "-s", "s", "--session", "h"]
        = { exitCode := 1
            output := ""
            notices := [.keptAsHints (.noSeveritySource "a")]
            errors := s!"error: failed to scan m: {scanText (.io .notFound)}\n"
            files } ∧
      (run files false ["scan", "l", "-s", "s", "--session", "h"]).exitCode = 0 ∧
      Session.load (run files false ["scan", "l", "-s", "s", "--session", "h"]).files "h"
        = .ok s₁ ∧
      s₁.parser = some "p" ∧ s₁.log = some "l" ∧ s₁.matchers.lookup "p" = some ["a"] ∧
      s₁.matchers.lookup "q" = some ["x"] := by
  let files := smallFiles smallSettings (some otherSession)
  let a : ScanArguments := { settings := "s", session := some "h" }
  have hmissing : Invocation.ofArguments ["scan", "m", "-s", "s", "--session", "h"]
      = .ok { command := .scan "m" a } := by decide +kernel
  have hfound : Invocation.ofArguments ["scan", "l", "-s", "s", "--session", "h"]
      = .ok { command := .scan "l" a } := by decide +kernel
  have hunread : files.read "m" = .error .notFound :=
    (FileTree.isName_letter (by simp)).read_eq_notFound rfl
  have hfails := (@failed_command_keeps_history files false _ _ a hmissing rfl).1 _ _
    (.reading (resolves_smallFiles "m") (matchers_smallMatcher rfl _ "m") hunread)
  rw [notices_smallMatcher rfl] at hfails
  obtain ⟨output, hreport⟩ := @exists_scanReport files a false _
    (matchers_smallMatcher rfl ⟨"p", ["a"]⟩ "l") _ (read_log_smallFiles _ _)
  obtain ⟨after, hsave⟩ := exists_save_smallFiles smallSettings (some otherSession)
    (otherSession.record ⟨"p", ["a"]⟩ "l")
  have hexit : (run files false ["scan", "l", "-s", "s", "--session", "h"]).exitCode = 0 := by
    rw [run_of_command hfound
      ((run_of_resolves rfl (resolves_smallFiles "l")).trans (execute_of_save rfl hreport hsave))]
  obtain ⟨-, -, -, -, hsaved⟩ := @failed_command_keeps_history files false _ _ a hfound rfl
  obtain ⟨s, r, -, hr, hafter, hremembers, hothers⟩ := hsaved hexit "h" rfl
  have heq := (resolveScan_of_resolves rfl hr).symm.trans
    (resolveScan_of_resolves (c := .scan "l" a) rfl (resolves_smallFiles "l"))
  obtain ⟨rfl, rfl⟩ := Prod.mk.inj (Except.ok.inj heq)
  exact ⟨files, otherSession, _, loadSession_smallFiles _ _, rfl, hfails, hexit, hafter, rfl, rfl,
    hremembers.titles, hothers "q" (by decide)⟩

end LogProblems.CommandLine
