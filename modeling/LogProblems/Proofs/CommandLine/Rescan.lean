import LogProblems.Proofs.CommandLine.Outcome

/-!
# Scans that are repeated

A scan that succeeds and is remembered can be repeated: with the same settings and the
same log, a rescan succeeds and writes the same report.  What holds after the scan holds
after each rescan, whatever happens to other files: the settings and the log are read as
before, and the session remembers the scan.

A scan may be asked for titles that do not exist, and remembers them.  The first rescan
forgets those of the parser, and nothing else; a later one finds nothing to forget and
writes the same session again.

* `Account.Holds.rescan`: the first rescan;
* `Account.Settled.rescan` and `Account.Settled.later`: one more, and any number of them,
  with other files changing meanwhile;
* `rescan_reproduces`: a scan and the rescans that follow.
-/

set_option autoImplicit false

namespace LogProblems

open LogProblems.Matcher

/-- The second session has forgotten the titles of a parser that do not exist, and nothing
else. -/
structure Session.Forgets (s : Session) (parser : String) (present : List String)
    (s' : Session) : Prop where
  parser_eq : s'.parser = s.parser
  log_eq : s'.log = s.log
  titles : s'.matchers.lookup parser = (s.matchers.lookup parser).map (Settings.existing present)
  others : ∀ other ≠ parser, s'.matchers.lookup other = s.matchers.lookup other

namespace CommandLine

/-! ## Files that stay -/

/-- The settings, the log and the session are read as before, and the session has a file
of its own. -/
structure Undisturbed (a : ScanArguments) (log path : String) (t u : FileTree) : Prop where
  settings_eq : u.read a.settings = t.read a.settings
  log_eq : u.read log = t.read log
  session_eq : u.read path = t.read path
  settings_apart : u.locate a.settings ≠ u.locate path
  log_apart : u.locate log ≠ u.locate path

/-- The arguments of a rescan that gives no parser and no titles. -/
def ScanArguments.bare (a : ScanArguments) : ScanArguments :=
  { a with parser := none, matchers := [] }

/-- A command line that repeats the last scan, with a report that looks the same. -/
def Rescans (a : ScanArguments) (colored terminal : Bool) (arguments : List String) : Prop :=
  ∃ i, Invocation.ofArguments arguments = .ok i ∧ i.command = .rescan a.bare ∧
    (a.format = .text → i.color.holds terminal = colored)

/-- The files after rescans, between which other files change. -/
inductive Later (a : ScanArguments) (colored : Bool) (log path : String) (t : FileTree) :
    FileTree → Prop
  | refl : Later a colored log path t t
  | disturbed {u v : FileTree} : Later a colored log path t u →
      Undisturbed a log path u v → Later a colored log path t v
  | rescanned {u : FileTree} (terminal : Bool) (arguments : List String) :
      Later a colored log path t u → Rescans a colored terminal arguments →
      Later a colored log path t (run u terminal arguments).files

/-! ## What is remembered -/

/-- A scan with what it was made of and what it told. -/
structure Account where
  arguments : ScanArguments
  colored : Bool
  path : String
  settings : Settings
  selection : Selection
  log : String
  definitions : List Definition
  output : String

namespace Account

/-- The account without the titles that do not exist. -/
def existing (x : Account) (present : List String) : Account :=
  { x with
    selection := { x.selection with
      matchers := Settings.existing present x.selection.matchers } }

/-- A scan of these files tells what the account says. -/
structure Tells (x : Account) (t : FileTree) : Prop where
  session_path : x.arguments.session = some x.path
  settings : Settings.load t x.arguments.settings = .ok x.settings
  select : x.settings.select x.selection = .ok x.definitions
  report : scanReport t x.arguments x.colored
    { selection := x.selection, log := x.log, definitions := x.definitions } = .ok x.output
  settings_apart : t.locate x.arguments.settings ≠ t.locate x.path
  log_apart : t.locate x.log ≠ t.locate x.path

/-- A scan of these files tells what the account says, and the session remembers it. -/
structure Holds (x : Account) (s : Session) (t : FileTree) : Prop extends x.Tells t where
  session : Session.load t x.path = .ok s
  written : t.read x.path = .ok (Text.Utf8.encode s.toTree.pretty)
  remembers : s.Remembers x.selection x.log

variable {x : Account} {s : Session} {t u : FileTree}

theorem Tells.report_of_read (h : x.Tells t) (hlog : u.read x.log = t.read x.log) :
    scanReport u x.arguments x.colored
      { selection := x.selection, log := x.log, definitions := x.definitions }
        = .ok x.output := by
  rw [← h.report]
  exact scanReport_congr hlog

theorem Holds.undisturbed (h : x.Holds s t) (hu : Undisturbed x.arguments x.log x.path t u) :
    x.Holds s u where
  session_path := h.session_path
  settings := (Settings.load_congr hu.settings_eq).trans h.settings
  select := h.select
  report := h.toTells.report_of_read hu.log_eq
  settings_apart := hu.settings_apart
  log_apart := hu.log_apart
  session := (Session.load_congr hu.session_eq).trans h.session
  written := hu.session_eq.trans h.written
  remembers := h.remembers

theorem Tells.save (h : x.Tells t) (hremembers : s.Remembers x.selection x.log)
    (hsave : s.save t x.path = .ok u) : x.Holds s u := by
  have hwrite := Session.save_eq_ok_iff.1 hsave
  obtain ⟨settings, hsettings⟩ := Settings.exists_read_of_load h.settings
  obtain ⟨log, hlog⟩ := exists_read_of_scanReport h.report
  have hsettings' := FileTree.read_of_write_of_ne hwrite h.settings_apart hsettings
  have hlog' := FileTree.read_of_write_of_ne hwrite h.log_apart hlog
  exact {
    session_path := h.session_path
    settings := (Settings.load_congr (hsettings'.trans hsettings.symm)).trans h.settings
    select := h.select
    report := h.report_of_read (hlog'.trans hlog.symm)
    settings_apart := FileTree.locate_ne_of_write hwrite h.settings_apart hsettings
    log_apart := FileTree.locate_ne_of_write hwrite h.log_apart hlog
    session := Session.load_of_save hsave
    written := FileTree.read_of_write hwrite
    remembers := hremembers }

variable {terminal : Bool} {arguments : List String}

/-- A rescan writes the report again, and its session remembers the scan without the
titles that do not exist. -/
theorem Holds.rescan (h : x.Holds s t)
    (harguments : Rescans x.arguments x.colored terminal arguments) :
    ∃ present u, x.settings.titles x.selection.parser = .ok present ∧
      (s.record (x.existing present).selection x.log).save t x.path = .ok u ∧
      run t terminal arguments
        = { exitCode := 0, output := x.output, notices := x.arguments.notices x.definitions,
            files := u } ∧
      (x.existing present).Holds (s.record (x.existing present).selection x.log) u := by
  obtain ⟨i, hi, hcommand, hcolored⟩ := harguments
  obtain ⟨present, hpresent, hresolve⟩ := Session.resolve_rescan h.remembers h.select
  obtain ⟨present', hpresent', -, hselect⟩ := Settings.select_existing h.select
  obtain rfl := Except.ok.inj (hpresent.symm.trans hpresent')
  have htells : (x.existing present).Tells t := { h.toTells with select := hselect }
  obtain ⟨u, hwrite⟩ := FileTree.exists_write_of_read h.written
    (Text.Utf8.encode (s.record (x.existing present).selection x.log).toTree.pretty)
  have hsave := Session.save_eq_ok_iff.2 hwrite
  have hreport : scanReport t x.arguments.bare (i.color.holds terminal)
      { selection := (x.existing present).selection, log := x.log, definitions := x.definitions }
        = .ok x.output := (scanReport_colored hcolored).trans htells.report
  refine ⟨present, u, hpresent, hsave, ?_, ?_⟩
  · refine run_of_command hi ?_
    rw [hcommand]
    exact run_rescan (a := x.arguments.bare) h.session_path rfl rfl h.settings h.session
      hresolve hreport hsave
  · exact htells.save (Session.record_remembers _ _ _) hsave

/-- The session has nothing to forget: to remember the scan again changes nothing. -/
structure Settled (x : Account) (s : Session) (t : FileTree) : Prop extends x.Holds s t where
  existing_eq : ∀ present, x.settings.titles x.selection.parser = .ok present →
    x.existing present = x
  record_eq : s.record x.selection x.log = s

theorem Holds.settled {present : List String}
    (h : (x.existing present).Holds (s.record (x.existing present).selection x.log) t)
    (hpresent : x.settings.titles x.selection.parser = .ok present) :
    (x.existing present).Settled (s.record (x.existing present).selection x.log) t where
  toHolds := h
  existing_eq := by
    intro present' hpresent'
    obtain rfl := Except.ok.inj (hpresent.symm.trans hpresent')
    simp only [existing, Settings.existing_existing]
  record_eq := Session.record_record s (x.existing present).selection _ x.log

theorem Settled.undisturbed (h : x.Settled s t)
    (hu : Undisturbed x.arguments x.log x.path t u) : x.Settled s u :=
  { h with toHolds := h.toHolds.undisturbed hu }

/-- A rescan then writes the report again and leaves the session as it is. -/
theorem Settled.rescan (h : x.Settled s t)
    (harguments : Rescans x.arguments x.colored terminal arguments) :
    ∃ u, run t terminal arguments
        = { exitCode := 0, output := x.output, notices := x.arguments.notices x.definitions,
            files := u } ∧
      x.Settled s u := by
  obtain ⟨present, u, hpresent, -, hrun, hholds⟩ := h.toHolds.rescan harguments
  rw [h.existing_eq present hpresent, h.record_eq] at hholds
  exact ⟨u, hrun, { h with toHolds := hholds }⟩

/-- So do any further rescans, whatever happens to other files. -/
theorem Settled.later (h : x.Settled s t)
    (hlater : Later x.arguments x.colored x.log x.path t u) : x.Settled s u := by
  induction hlater with
  | refl => exact h
  | disturbed _ hu ih => exact ih.undisturbed hu
  | rescanned terminal arguments _ harguments ih =>
    obtain ⟨v, hrun, hv⟩ := ih.rescan harguments
    rw [hrun]
    exact hv

end Account

/-- **A scan that is remembered can be repeated.**

Whatever the settings, the log and an earlier session are, if a scan with a session
succeeds, then each rescan succeeds and writes the same report, as long as the settings
and the log stay.  The first rescan forgets the titles of the scanned parser that do not
exist and keeps the titles of all other parsers and the log, as the scan itself did; any
further rescan leaves every octet of the session's file. -/
theorem rescan_reproduces {files : FileTree} {terminal : Bool} {arguments : List String}
    {i : Invocation} {a : ScanArguments} {log path : String}
    (hi : Invocation.ofArguments arguments = .ok i) (hcommand : i.command = .scan log a)
    (hpath : a.session = some path)
    (hsettings : files.locate a.settings ≠ files.locate path)
    (hlog : files.locate log ≠ files.locate path)
    (hexit : (run files terminal arguments).exitCode = 0) :
    ∃ settings parser present s₀ s₁, Settings.load files a.settings = .ok settings ∧
      settings.titles parser = .ok present ∧ Session.load files path = .ok s₀ ∧
      Session.load (run files terminal arguments).files path = .ok s₁ ∧
      s₁.parser = some parser ∧ s₁.log = some log ∧
      (∀ other ≠ parser, s₁.matchers.lookup other = s₀.matchers.lookup other) ∧
      ∀ t, Undisturbed a log path (run files terminal arguments).files t →
        ∀ terminal' arguments', Rescans a (i.color.holds terminal) terminal' arguments' →
          (run t terminal' arguments').exitCode = 0 ∧
          (run t terminal' arguments').output = (run files terminal arguments).output ∧
          (∃ s₂, Session.load (run t terminal' arguments').files path = .ok s₂ ∧
            s₁.Forgets parser present s₂) ∧
          ∃ octets, (run t terminal' arguments').files.read path = .ok octets ∧
            ∀ u, Later a (i.color.holds terminal) log path (run t terminal' arguments').files u →
              u.read path = .ok octets ∧
              ∀ terminal'' arguments'',
                Rescans a (i.color.holds terminal) terminal'' arguments'' →
                  (run u terminal'' arguments'').exitCode = 0 ∧
                  (run u terminal'' arguments'').output = (run files terminal arguments).output ∧
                  (run u terminal'' arguments'').files.read path = .ok octets := by
  have hfailure := failure_of_exitCode hi hexit
  rw [hcommand] at hfailure
  obtain ⟨settings, s₀, selection, definitions, output, files₁, hload, hsession, hselect, hreport,
    hsave, hscan⟩ := exists_of_run_scan hpath hfailure
  have hrun : run files terminal arguments
      = { exitCode := 0, output, notices := a.notices definitions, files := files₁ } :=
    run_of_command hi (by rw [hcommand]; exact hscan)
  rw [hrun]
  let x : Account :=
    ⟨a, i.color.holds terminal, path, settings, selection, log, definitions, output⟩
  have htells : x.Tells files := ⟨hpath, hload, hselect, hreport, hsettings, hlog⟩
  have hholds : x.Holds (s₀.record selection log) files₁ :=
    htells.save (Session.record_remembers _ _ _) hsave
  obtain ⟨present, hpresent, -⟩ := Settings.select_existing hselect
  refine ⟨settings, selection.parser, present, s₀, s₀.record selection log, hload, hpresent,
    hsession, hholds.session, rfl, rfl, fun other hother => Session.lookup_setTitles_of_ne hother,
    fun t ht terminal' arguments' harguments => ?_⟩
  obtain ⟨present', u, hpresent', -, hrescan, hu⟩ := (hholds.undisturbed ht).rescan harguments
  obtain rfl := Except.ok.inj (hpresent.symm.trans hpresent')
  have hsettled := hu.settled hpresent
  rw [hrescan]
  refine ⟨rfl, rfl, ⟨_, hu.session, ?_⟩, _, hu.written, fun v hv => ?_⟩
  · exact {
      parser_eq := rfl
      log_eq := rfl
      titles := hu.remembers.titles.trans (congrArg (Option.map _) hholds.remembers.titles).symm
      others := fun other hother => Session.lookup_setTitles_of_ne hother }
  · have hlater := hsettled.later hv
    refine ⟨hlater.written, fun terminal'' arguments'' harguments'' => ?_⟩
    obtain ⟨w, hagain, hw⟩ := hlater.rescan harguments''
    rw [hagain]
    exact ⟨rfl, rfl, hw.written⟩

/-- Small files are undisturbed by the session that is saved beside them. -/
theorem undisturbed_of_save {a : ScanArguments} (ha : a.settings = "s") {text : String}
    {session : Option Session} {s : Session} {after : FileTree}
    (hsave : s.save (smallFiles text session) "h" = .ok after) :
    Undisturbed a "l" "h" after after := by
  have hwrite := Session.save_eq_ok_iff.1 hsave
  constructor
  case settings_eq | log_eq | session_eq => rfl
  case settings_apart =>
    rw [ha]
    exact FileTree.locate_ne_of_write hwrite (locate_ne_smallFiles _ _ (by simp) (by simp))
      (read_settings_smallFiles _ _)
  case log_apart =>
    exact FileTree.locate_ne_of_write hwrite (locate_ne_smallFiles _ _ (by simp) (by simp))
      (read_log_smallFiles _ _)

/-- Arguments that ask small files for two titles, of which there is the first. -/
def twoTitles : ScanArguments :=
  { settings := "s", session := some "h", parser := some "p", matchers := ["a", "b"] }

theorem ofArguments_twoTitles :
    Invocation.ofArguments
      ["scan", "l", "-s", "s", "--session", "h", "-p", "p", "-m", "a", "-m", "b"]
        = .ok { command := .scan "l" twoTitles } := by
  decide +kernel

theorem exists_scan_smallFiles :
    ∃ output after,
      (({} : Session).record ⟨"p", ["a", "b"]⟩ "l").save (smallFiles smallSettings none) "h"
        = .ok after ∧
      run (smallFiles smallSettings none) false
          ["scan", "l", "-s", "s", "--session", "h", "-p", "p", "-m", "a", "-m", "b"]
        = { exitCode := 0, output, notices := [.keptAsHints (.noSeveritySource "a")],
            files := after } := by
  obtain ⟨output, hreport⟩ := @exists_scanReport (smallFiles smallSettings none) twoTitles false _
    (matchers_smallMatcher rfl ⟨"p", ["a", "b"]⟩ "l") _ (read_log_smallFiles _ _)
  obtain ⟨after, hsave⟩ := exists_save_smallFiles smallSettings none
    (({} : Session).record ⟨"p", ["a", "b"]⟩ "l")
  have hselect : ({ parsers := [("p", [smallMatcher])] } : Settings).select ⟨"p", ["a", "b"]⟩
      = .ok [smallMatcher] := rfl
  have hscan := run_scan_of (a := twoTitles) (s := {}) rfl
    (load_smallFiles _ _ read_smallSettings) (loadSession_smallFiles _ _) rfl hselect hreport hsave
  rw [notices_smallMatcher rfl] at hscan
  exact ⟨output, after, hsave, run_of_command ofArguments_twoTitles hscan⟩

/-- The scan succeeds and remembers both titles, and the rescan succeeds and forgets the
second. -/
theorem rescan_reproduces_missing :
    ∃ (files after : FileTree) (output : String) (s₁ s₂ : Session),
      run files false ["scan", "l", "-s", "s", "--session", "h", "-p", "p", "-m", "a", "-m", "b"]
        = { exitCode := 0, output, notices := [.keptAsHints (.noSeveritySource "a")],
            files := after } ∧
      Session.load after "h" = .ok s₁ ∧ s₁.matchers = [("p", ["a", "b"])] ∧
      (run after false ["rescan", "-s", "s", "--session", "h"]).exitCode = 0 ∧
      (run after false ["rescan", "-s", "s", "--session", "h"]).output = output ∧
      Session.load (run after false ["rescan", "-s", "s", "--session", "h"]).files "h" = .ok s₂ ∧
      s₂.matchers.lookup "p" = some ["a"] := by
  let files := smallFiles smallSettings none
  have hsecond : Invocation.ofArguments ["rescan", "-s", "s", "--session", "h"]
      = .ok { command := .rescan twoTitles.bare } := by decide +kernel
  obtain ⟨output, after, hsave, hscan⟩ := exists_scan_smallFiles
  have hsaved := Session.load_of_save hsave
  have hsettings : files.locate "s" ≠ files.locate "h" :=
    locate_ne_smallFiles _ _ (by simp) (by simp)
  have hlog : files.locate "l" ≠ files.locate "h" :=
    locate_ne_smallFiles _ _ (by simp) (by simp)
  obtain ⟨_, parser, present, _, s₁, hload', hpresent, _, hs₁, hparser, _, _, hrescan⟩ :=
    rescan_reproduces ofArguments_twoTitles rfl rfl hsettings hlog (by rw [hscan])
  rw [hscan] at hs₁ hrescan
  obtain rfl := Except.ok.inj ((load_smallFiles _ _ read_smallSettings).symm.trans hload')
  obtain rfl := Except.ok.inj (hsaved.symm.trans hs₁)
  obtain rfl := Option.some.inj hparser
  obtain rfl := Except.ok.inj hpresent
  obtain ⟨hexit, houtput, ⟨s₂, hs₂, hforgets⟩, _⟩ :=
    hrescan after (undisturbed_of_save rfl hsave) false _ ⟨_, hsecond, rfl, fun _ => rfl⟩
  exact ⟨files, after, output, _, s₂, hscan, hsaved, rfl, hexit, houtput, hs₂, hforgets.titles⟩

end CommandLine

end LogProblems
