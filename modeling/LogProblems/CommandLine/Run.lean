import LogProblems.CommandLine.Arguments
import LogProblems.CommandLine.Report
import LogProblems.Settings.Session

/-!
# Running a command

`run` takes the arguments and the files and gives what is written to the two outputs, the
exit code, and the files afterwards.

What is told while matchers are compiled is logged as warnings.  The log has times and a
layout of its own, so the notices stand in an outcome as they are, apart from the errors; what
is logged below warnings is left out.

A report is written before the session is saved, so it stands even when saving fails.
-/

set_option autoImplicit false

namespace LogProblems.CommandLine

open LogProblems.Matcher

/-! ## Failures -/

/-- Why a command fails. -/
inductive Failure where
  | settings (path : String) (fault : DocumentFault)
  | loadSession (path : String) (fault : DocumentFault)
  | saveSession (path : String) (fault : DocumentFault)
  | selection (fault : SelectionFault)
  | nothingCompiled (parser : String)
  | scan (log : String) (fault : ScanFault)
  | sessionNeeded
  deriving DecidableEq, Repr, Inhabited

/-- What stands behind the wording of a fault of input or output: its cause once more. -/
def cause (fault : IoFault) : String :=
  ": " ++ fault.message

/-- The wording of a document's fault with its cause. -/
def documentText (fault : DocumentFault) : String :=
  match fault with
  | .io io => fault.message ++ cause io
  | _ => fault.message

/-- The wording of a scan's fault with its cause. -/
def scanText (fault : ScanFault) : String :=
  match fault with
  | .io io => fault.message ++ cause io
  | _ => fault.message

/-- The wording of a failure. -/
def Failure.message : Failure → String
  | settings path fault => s!"failed to load settings from {path}: {documentText fault}"
  | loadSession path fault => s!"failed to load session from {path}: {documentText fault}"
  | saveSession path fault => s!"failed to save session to {path}: {documentText fault}"
  | selection fault => fault.message
  | nothingCompiled parser =>
    s!"none of the selected matchers of parser '{parser}' could be compiled"
  | scan log fault => s!"failed to scan {log}: {scanText fault}"
  | sessionNeeded => "\x60lpm rescan\x60 needs --session to know what was scanned last"

/-! ## Commands -/

/-- What a command has written and told, and which files there are after it. -/
structure Effect where
  output : String := ""
  notices : List Notice := []
  files : FileTree
  failure : Option Failure := none
  deriving Inhabited

/-- Loads the settings. -/
def loadSettings (files : FileTree) (path : String) : Except Failure Settings :=
  match Settings.load files path with
  | .ok s => .ok s
  | .error fault => .error (.settings path fault)

/-- Loads the session, if there is one. -/
def loadSession (files : FileTree) : Option String → Except Failure Session
  | none => .ok {}
  | some path =>
    match Session.load files path with
    | .ok s => .ok s
    | .error fault => .error (.loadSession path fault)

/-- A result of a selection. -/
def selected {α : Type} : Except SelectionFault α → Except Failure α
  | .ok a => .ok a
  | .error fault => .error (.selection fault)

/-- The parser and matchers to use: those given, or those remembered, or the default. -/
def chooseSelection (a : ScanArguments) (settings : Settings) (session : Session) :
    Except SelectionFault Selection := do
  let parser ←
    match a.parser, session.parser with
    | some given, _ => .ok given
    | none, some remembered =>
      match settings.matchers remembered with
      | .ok _ => .ok remembered
      | .error _ => settings.defaultParser
    | none, none => settings.defaultParser
  if a.matchers.isEmpty then session.preselected settings parser
  else return { parser, matchers := a.matchers }

/-- The report in the form that was asked for. -/
def report (format : ReportFormat) (colored : Bool) (output : ScanOutput) : String :=
  match format with
  | .text => textReport colored output
  | .json => jsonReport output

/-- What is told while the matchers of a scan are compiled. -/
def ScanArguments.notices (a : ScanArguments) (definitions : List Definition) : List Notice :=
  Scanner.notices a.strictSeverity 0 definitions

/-- Scans, and writes the report. -/
def scanReport (files : FileTree) (a : ScanArguments) (colored : Bool) (r : ResolvedScan) :
    Except Failure String :=
  let s := Scanner.ofDefinitions r.definitions
    { workspaceRoot := a.workspace, strictSeverity := a.strictSeverity }
  if s.matchers.isEmpty then .error (.nothingCompiled r.selection.parser)
  else
    match s.scanFile (fun _ => false) files r.log with
    | .ok output => .ok (report a.format colored output)
    | .error fault => .error (.scan r.log fault)

/-- Runs a resolved scan and remembers it. -/
def execute (files : FileTree) (a : ScanArguments) (colored : Bool) (session : Session)
    (r : ResolvedScan) : Effect :=
  let notices := a.notices r.definitions
  match scanReport files a colored r with
  | .error failure => { notices, files, failure := some failure }
  | .ok output =>
    match a.session with
    | none => { output, notices, files }
    | some path =>
      match (session.record r.selection r.log).save files path with
      | .ok files => { output, notices, files }
      | .error fault => { output, notices, files, failure := some (.saveSession path fault) }

/-- Finds out what to scan: a given log, or the one scanned last. -/
def resolveScan (files : FileTree) (log : Option String) (a : ScanArguments) :
    Except Failure (Session × ResolvedScan) := do
  let settings ← loadSettings files a.settings
  let session ← loadSession files a.session
  let request ←
    match log with
    | some log => do
      let selection ← selected (chooseSelection a settings session)
      pure (ScanRequest.scanFile selection log)
    | none =>
      if a.parser.isNone && a.matchers.isEmpty then pure ScanRequest.rescan
      else do
        let selection ← selected (chooseSelection a settings session)
        pure (ScanRequest.rescanWith selection)
  return (session, ← selected (session.resolve settings request))

/-- The listing of a parser's matchers, the default ones with a star. -/
def parserListing (settings : Settings) (parser : String) : String :=
  let lines :=
    match settings.defaultSelection parser, settings.titles parser with
    | .ok defaults, .ok titles =>
      titles.map fun title => (if defaults.matchers.contains title then "  * " else "    ") ++ title
    | .error fault, _ => [s!"  ({fault.message})"]
    | _, .error fault => [s!"  ({fault.message})"]
  String.join ((parser :: lines).map (· ++ "\n"))

/-- Runs a command. -/
def Command.run (files : FileTree) (colored : Bool) : Command → Effect
  | .scan log a =>
    match resolveScan files (some log) a with
    | .ok (session, r) => execute files a colored session r
    | .error failure => { files, failure := some failure }
  | .rescan a =>
    if a.session.isNone then { files, failure := some .sessionNeeded }
    else
      match resolveScan files none a with
      | .ok (session, r) => execute files a colored session r
      | .error failure => { files, failure := some failure }
  | .list path =>
    match loadSettings files path with
    | .error failure => { files, failure := some failure }
    | .ok settings =>
      match settings.parserNames with
      | .ok names => { output := String.join (names.map (parserListing settings)), files }
      | .error fault => { files, failure := some (.selection fault) }

/-! ## The program -/

/-- The files a command reads, as far as they can be told from those that are known. -/
def Command.inputs (files : FileTree) : Command → List String
  | .scan log a => a.settings :: log :: a.session.toList
  | .rescan a =>
    let log :=
      match loadSession files a.session with
      | .ok session => session.log
      | .error _ => none
    a.settings :: (a.session.toList ++ log.toList)
  | .list settings => [settings]

/-- The file a command may write. -/
def Command.output? : Command → Option String
  | .scan _ a => a.session
  | .rescan a => a.session
  | .list _ => none

/-- The outcome of a run. -/
structure Outcome where
  exitCode : Nat
  output : String := ""
  /-- What is logged as warnings, before the errors are written. -/
  notices : List Notice := []
  errors : String := ""
  files : FileTree
  deriving Inhabited

/-- The line that tells the version. -/
def versionLine : String :=
  "lpm 0.1.0\n"

/-- How the program is used. -/
def usage : String :=
  "usage: lpm scan LOG --settings FILE [--workspace DIR] [--format text|json] [--session FILE]\n"
    ++ "           [--strict-severity] [--parser NAME] [--matcher TITLE]...\n"
    ++ "       lpm rescan --settings FILE --session FILE [...]\n"
    ++ "       lpm list --settings FILE\n"
    ++ "everywhere: [--verbose] [--color auto|always|never] [--help] [--version]\n"

/-- Reports are coloured. -/
def ColorChoice.holds (terminal : Bool) : ColorChoice → Bool
  | .auto => terminal
  | .always => true
  | .never => false

/-- Runs the program. -/
def run (files : FileTree) (terminal : Bool) (arguments : List String) : Outcome :=
  match Invocation.ofArguments arguments with
  | .error .usage => { exitCode := 2, errors := usage, files }
  | .error .version => { exitCode := 0, output := versionLine, files }
  | .error .help => { exitCode := 0, output := usage, files }
  | .ok i =>
    let effect := i.command.run files (i.color.holds terminal)
    match effect.failure with
    | none =>
      { exitCode := 0, output := effect.output, notices := effect.notices, files := effect.files }
    | some failure =>
      { exitCode := 1, output := effect.output, notices := effect.notices,
        errors := s!"error: {failure.message}\n", files := effect.files }

end LogProblems.CommandLine
