import LogProblems.CommandLine.Run
import LogProblems.Proofs.Scan.Partition
import LogProblems.Proofs.Settings.Selection
import LogProblems.Proofs.Settings.Session

/-!
# Commands that succeed

A command that scans loads what it needs, resolves what is to be scanned, writes the
report, and saves its session.  It succeeds exactly if all of this succeeds, and then it
has written the report and has changed the session's file only.

* `scanReport_congr`: what a report depends on;
* `exists_save_of_execute`: a scan that is remembered;
* `exists_of_run_scan`: a scan that succeeds, by its parts;
* `run_scan_of` and `run_rescan`: scans that succeed if their parts do;
* `load_smallFiles` and `exists_save_smallFiles`: files on which commands can be run.
-/

set_option autoImplicit false

namespace LogProblems.CommandLine

open LogProblems.Matcher

variable {t u : FileTree} {a : ScanArguments} {colored : Bool} {s : Session} {r : ResolvedScan}
  {output path log : String}

/-! ## Reports -/

theorem scanReport_congr (h : u.read r.log = t.read r.log) :
    scanReport u a colored r = scanReport t a colored r := by
  simp only [scanReport, Scanner.scanFile, h]

/-- A report as JSON has no colours. -/
theorem scanReport_colored {colored' : Bool} (h : a.format = .text → colored' = colored) :
    scanReport t a colored' r = scanReport t a colored r := by
  have hreport : report a.format colored' = report a.format colored := by
    cases hformat : a.format with
    | text => rw [h hformat]
    | json => rfl
  simp only [scanReport, hreport]

theorem exists_read_of_scanReport (h : scanReport t a colored r = .ok output) :
    ∃ octets, t.read r.log = .ok octets := by
  cases hread : t.read r.log with
  | ok octets => exact ⟨octets, rfl⟩
  | error fault =>
    simp only [scanReport, Scanner.scanFile, hread] at h
    split at h
    · cases h
    · cases fault <;> cases h

/-- The scanner of the definitions that are to be used. -/
def ScanArguments.scannerOf (a : ScanArguments) (r : ResolvedScan) : Scanner :=
  Scanner.ofDefinitions r.definitions
    { workspaceRoot := a.workspace, strictSeverity := a.strictSeverity }

/-- A log that can be read is scanned, as nobody cancels the scan. -/
theorem exists_scanFile (a : ScanArguments) {octets : List UInt8}
    (h : t.read r.log = .ok octets) :
    ∃ outcome, (a.scannerOf r).scanFile (fun _ => false) t r.log = .ok outcome := by
  have hread : (LogInput.file t r.log).read = .ok (linesOfOctets octets) := by
    rw [LogInput.read, h]
    rfl
  exact ⟨_, Scanner.scan_never hread⟩

theorem scanReport_of_matchers (h : (a.scannerOf r).matchers ≠ []) :
    scanReport t a colored r
      = match (a.scannerOf r).scanFile (fun _ => false) t r.log with
        | .ok outcome => .ok (report a.format colored outcome)
        | .error fault => .error (.scan r.log fault) := by
  rw [scanReport]
  exact if_neg (by simpa [ScanArguments.scannerOf] using h)

theorem exists_scanReport (hmatchers : (a.scannerOf r).matchers ≠ []) {octets : List UInt8}
    (hread : t.read r.log = .ok octets) : ∃ output, scanReport t a colored r = .ok output := by
  obtain ⟨outcome, hscan⟩ := exists_scanFile a hread
  rw [scanReport_of_matchers hmatchers, hscan]
  exact ⟨_, rfl⟩

/-! ## Scans that are remembered -/

theorem execute_of_save (hpath : a.session = some path)
    (hreport : scanReport t a colored r = .ok output)
    (hsave : (s.record r.selection r.log).save t path = .ok u) :
    execute t a colored s r = { output, notices := a.notices r.definitions, files := u } := by
  simp only [execute, hreport, hpath, hsave]

/-- A scan that succeeds has written its report and has saved the session. -/
theorem exists_save_of_execute (hpath : a.session = some path)
    (h : (execute t a colored s r).failure = none) :
    ∃ output u, scanReport t a colored r = .ok output ∧
      (s.record r.selection r.log).save t path = .ok u := by
  cases hreport : scanReport t a colored r with
  | error failure =>
    simp only [execute, hreport] at h
    cases h
  | ok output =>
    cases hsave : (s.record r.selection r.log).save t path with
    | error fault =>
      simp only [execute, hreport, hpath, hsave] at h
      cases h
    | ok u => exact ⟨output, u, rfl, rfl⟩

/-! ## Commands -/

theorem loadSettings_eq_ok_iff {settings : Settings} :
    loadSettings t path = .ok settings ↔ Settings.load t path = .ok settings := by
  rw [loadSettings]
  cases Settings.load t path <;> simp

theorem loadSession_eq_ok_iff :
    loadSession t (some path) = .ok s ↔ Session.load t path = .ok s := by
  rw [loadSession]
  cases Session.load t path <;> simp

theorem selected_eq_ok_iff {α : Type} {result : Except SelectionFault α} {x : α} :
    selected result = .ok x ↔ result = .ok x := by
  cases result <;> simp [selected]

theorem bind_eq_ok_iff {ε α β : Type} {first : Except ε α} {next : α → Except ε β} {b : β} :
    (first >>= next) = .ok b ↔ ∃ a, first = .ok a ∧ next a = .ok b := by
  cases first with
  | error fault => simp [bind, Except.bind]
  | ok a => simp [bind, Except.bind]

/-- What a command resolves to that is given a log. -/
theorem resolveScan_given_iff (hpath : a.session = some path) :
    resolveScan t (some log) a = .ok (s, r) ↔
      ∃ settings selection definitions, Settings.load t a.settings = .ok settings ∧
        Session.load t path = .ok s ∧ chooseSelection a settings s = .ok selection ∧
        settings.select selection = .ok definitions ∧ r = { selection, log, definitions } := by
  simp only [resolveScan, hpath, bind_eq_ok_iff, loadSettings_eq_ok_iff, loadSession_eq_ok_iff,
    selected_eq_ok_iff, pure, Except.pure, Except.ok.injEq]
  constructor
  · rintro ⟨settings, hsettings, session, hsession, selection, hchoose, _, rfl, x, hselected,
      hpair⟩
    obtain ⟨rfl, rfl⟩ := Prod.mk.inj hpair
    rw [Session.resolve_scanFile] at hselected
    cases hselect : settings.select selection with
    | error fault =>
      rw [hselect] at hselected
      cases hselected
    | ok definitions =>
      rw [hselect] at hselected
      exact ⟨settings, selection, definitions, hsettings, hsession, hchoose, hselect,
        (Except.ok.inj hselected).symm⟩
  · rintro ⟨settings, selection, definitions, hsettings, hsession, hchoose, hselect, rfl⟩
    refine ⟨settings, hsettings, s, hsession, selection, hchoose, _, rfl, _, ?_, rfl⟩
    rw [Session.resolve_scanFile, hselect]
    rfl

/-- What a command resolves to that is given nothing. -/
theorem resolveScan_rescan {settings : Settings} (hpath : a.session = some path)
    (hparser : a.parser = none) (hmatchers : a.matchers = [])
    (hsettings : Settings.load t a.settings = .ok settings) (hsession : Session.load t path = .ok s)
    (hresolve : s.resolve settings .rescan = .ok r) :
    resolveScan t none a = .ok (s, r) := by
  rw [← loadSettings_eq_ok_iff] at hsettings
  rw [← loadSession_eq_ok_iff] at hsession
  simp only [resolveScan, hpath, hsettings, hsession, hparser, hmatchers, Option.isNone_none,
    List.isEmpty_nil, Bool.and_self, if_true, bind, Except.bind, pure, Except.pure, hresolve,
    selected]

/-- A scan of a given log that succeeds, and what it does. -/
theorem exists_of_run_scan (hpath : a.session = some path)
    (h : (Command.run t colored (.scan log a)).failure = none) :
    ∃ settings s selection definitions output u, Settings.load t a.settings = .ok settings ∧
      Session.load t path = .ok s ∧ settings.select selection = .ok definitions ∧
      scanReport t a colored { selection, log, definitions } = .ok output ∧
      (s.record selection log).save t path = .ok u ∧
      Command.run t colored (.scan log a)
        = { output, notices := a.notices definitions, files := u } := by
  rw [Command.run] at h ⊢
  split at h
  · next s r hresolve =>
    obtain ⟨settings, selection, definitions, hsettings, hsession, -, hselect, rfl⟩ :=
      (resolveScan_given_iff hpath).1 hresolve
    obtain ⟨output, u, hreport, hsave⟩ := exists_save_of_execute hpath h
    refine ⟨settings, s, selection, definitions, output, u, hsettings, hsession, hselect, hreport,
      hsave, ?_⟩
    exact execute_of_save hpath hreport hsave
  · next hresolve => cases h

/-- A scan of a given log that is put together from its parts. -/
theorem run_scan_of {settings : Settings} {selection : Selection}
    {definitions : List Definition} (hpath : a.session = some path)
    (hsettings : Settings.load t a.settings = .ok settings) (hsession : Session.load t path = .ok s)
    (hchoose : chooseSelection a settings s = .ok selection)
    (hselect : settings.select selection = .ok definitions)
    (hreport : scanReport t a colored { selection, log, definitions } = .ok output)
    (hsave : (s.record selection log).save t path = .ok u) :
    Command.run t colored (.scan log a)
      = { output, notices := a.notices definitions, files := u } := by
  have hresolve : resolveScan t (some log) a = .ok (s, { selection, log, definitions }) :=
    (resolveScan_given_iff hpath).2
      ⟨settings, selection, definitions, hsettings, hsession, hchoose, hselect, rfl⟩
  rw [Command.run, hresolve]
  exact execute_of_save hpath hreport hsave

theorem run_rescan {settings : Settings} (hpath : a.session = some path)
    (hparser : a.parser = none) (hmatchers : a.matchers = [])
    (hsettings : Settings.load t a.settings = .ok settings) (hsession : Session.load t path = .ok s)
    (hresolve : s.resolve settings .rescan = .ok r)
    (hreport : scanReport t a colored r = .ok output)
    (hsave : (s.record r.selection r.log).save t path = .ok u) :
    Command.run t colored (.rescan a)
      = { output, notices := a.notices r.definitions, files := u } := by
  have hresolve := resolveScan_rescan hpath hparser hmatchers hsettings hsession hresolve
  rw [Command.run, hpath, Option.isNone_some, if_neg Bool.false_ne_true, hresolve]
  exact execute_of_save hpath hreport hsave

/-! ## Runs -/

variable {terminal : Bool} {arguments : List String} {i : Invocation}

theorem failure_of_exitCode (hi : Invocation.ofArguments arguments = .ok i)
    (h : (run t terminal arguments).exitCode = 0) :
    (i.command.run t (i.color.holds terminal)).failure = none := by
  simp only [run, hi] at h
  split at h
  · next hnone => exact hnone
  · cases h

theorem run_of_command (hi : Invocation.ofArguments arguments = .ok i) {notices : List Notice}
    (h : i.command.run t (i.color.holds terminal) = { output, notices, files := u }) :
    run t terminal arguments = { exitCode := 0, output, notices, files := u } := by
  simp only [run, hi, h]

/-! ## Small files -/

/-- Settings under `s`, a log of one line under `l`, and a session under `h` if there is
one. -/
def smallFiles (settings : String) (session : Option Session) : FileTree :=
  { entries := (["s"], .file (Text.Utf8.encode settings)) :: (["l"], .file [0x45]) ::
      session.toList.map fun s => (["h"], .file (Text.Utf8.encode s.toTree.pretty)) }

section

variable (text : String) (session : Option Session)

theorem read_settings_smallFiles :
    (smallFiles text session).read "s" = .ok (Text.Utf8.encode text) :=
  (FileTree.isName_letter (by simp)).read_eq_ok rfl

theorem read_log_smallFiles : (smallFiles text session).read "l" = .ok [0x45] :=
  (FileTree.isName_letter (by simp)).read_eq_ok rfl

theorem load_smallFiles {settings : Settings}
    (hread : (Document.Json.read text).bind Settings.ofNode? = some settings) :
    Settings.load (smallFiles text session) "s" = .ok settings := by
  have hslash : "s".splitOn "/" = ["s"] := FileTree.splitOn_letter (by simp) (by simp)
  have hpoint : "s".splitOn "." = ["s"] := FileTree.splitOn_letter (by simp) (by simp)
  have hjson : Settings.isYamlPath "s" = false := by
    simp [Settings.isYamlPath, Settings.extension?, hslash, hpoint]
  exact Settings.load_of_read (read_settings_smallFiles text session) hjson hread

theorem loadSession_smallFiles :
    Session.load (smallFiles text session) "h" = .ok (session.getD {}) := by
  have hname : FileTree.IsName "h" := FileTree.isName_letter (by simp)
  cases session with
  | none => exact Session.load_of_notFound (hname.read_eq_notFound rfl)
  | some s => exact Session.load_of_read (hname.read_eq_ok rfl) (Session.ofNode?_read_pretty s)

theorem exists_save_smallFiles (s : Session) :
    ∃ after, s.save (smallFiles text session) "h" = .ok after := by
  have hfile : (smallFiles text session).entries.lookup ["h"] ≠ some .directory := by
    intro h
    cases session with
    | none => cases h
    | some _ => cases h
  obtain ⟨after, hwrite⟩ := (FileTree.isName_letter (by simp)).exists_write hfile _
  exact ⟨after, Session.save_eq_ok_iff.2 hwrite⟩

/-- The session stands apart from the other files. -/
theorem locate_ne_smallFiles {name : String} (h : name ∈ ["a", "h", "l", "m", "s"])
    (hne : name ≠ "h") :
    (smallFiles text session).locate name ≠ (smallFiles text session).locate "h" := by
  have hsession : FileTree.IsName "h" := FileTree.isName_letter (by simp)
  rw [(FileTree.isName_letter h).locate_eq, hsession.locate_eq]
  simpa using hne

end

/-- A matcher without a source of severities. -/
def smallMatcher : Definition :=
  { title := some "a", pattern := some (.one { regexp := some "^E(.*)$" }) }

/-- Settings with one parser, which has that matcher. -/
def smallSettings : String :=
  "\x7b\"parsers\":\x7b\"p\":[\x7b\"title\":\"a\","
    ++ "\"pattern\":\x7b\"regexp\":\"^E(.*)$\"\x7d\x7d]\x7d\x7d"

theorem read_smallSettings :
    (Document.Json.read smallSettings).bind Settings.ofNode?
      = some { parsers := [("p", [smallMatcher])] } := by
  decide +kernel

theorem matchers_smallMatcher (h : a.strictSeverity = false) (selection : Selection)
    (log : String) :
    (a.scannerOf { selection, log, definitions := [smallMatcher] }).matchers ≠ [] := by
  show (Scanner.verdicts a.strictSeverity 0 [smallMatcher]).filterMap (·.matcher?) ≠ []
  rw [h]
  decide +kernel

theorem notices_smallMatcher (h : a.strictSeverity = false) :
    a.notices [smallMatcher] = [.keptAsHints (.noSeveritySource "a")] := by
  rw [ScanArguments.notices, h]
  decide +kernel

end LogProblems.CommandLine
