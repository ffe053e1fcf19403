import LogProblems.Diagnostic.Listing
import LogProblems.Files.Tree
import LogProblems.Matcher.State
import LogProblems.Text.Utf8

/-!
# Scanning a log

A scanner holds the matchers of a set of definitions that could be compiled.  A
scan starts every matcher blank and hands each line to all of them, in order; at
the end of the input it reports the problems still open.

A scan asks before every line whether it is cancelled.  `cancelled i` is the
answer to the question asked after `i` lines.  A scan of octets asks once more
before it finds the end of the input.
-/

set_option autoImplicit false

namespace LogProblems

open LogProblems.Matcher

/-- What a scan is given besides its input. -/
structure ScanOptions where
  /-- The path of the scanned log, for matchers that point at it. -/
  logPath : Option String := none
  workspaceRoot : Option String := none
  /-- Leave matchers out that have no source of severities. -/
  strictSeverity : Bool := false
  deriving DecidableEq, Repr, Inhabited

/-- Why a scan was given up. -/
inductive ScanFault where
  | io (fault : IoFault)
  | cancelled (lines : Nat)
  | missingStep (fault : MissingStep)
  deriving DecidableEq, Repr, Inhabited

/-- The wording of a fault. -/
def ScanFault.message : ScanFault → String
  | io fault => "I/O error: " ++ fault.message
  | cancelled lines => s!"scan cancelled after {lines} lines"
  | missingStep fault => fault.message

/-- The outcome of a whole scan. -/
structure ScanOutput where
  listing : Listing
  linesScanned : Nat
  deriving Inhabited

/-! ## Scanners -/

/-- What becomes of one definition. -/
inductive Verdict where
  | active (m : Compiled)
  /-- Kept, though all its problems are hints. -/
  | warned (m : Compiled) (fault : Fault)
  | excluded (fault : Fault)

/-- Judges the definition at `place`. -/
def Verdict.of (strict : Bool) (place : Nat) (d : Definition) : Verdict :=
  match compile d place with
  | .error fault => .excluded fault
  | .ok m =>
    if m.lacksSeveritySource then
      if strict then .excluded (.noSeveritySource m.title)
      else .warned m (.noSeveritySource m.title)
    else .active m

namespace Verdict

/-- The matcher, if it is kept. -/
def matcher? : Verdict → Option Compiled
  | active m => some m
  | warned m _ => some m
  | excluded _ => none

/-- The reason for leaving the definition out. -/
def exclusion? : Verdict → Option Fault
  | excluded fault => some fault
  | _ => none

/-- The reason for a warning. -/
def warning? : Verdict → Option Fault
  | warned _ fault => some fault
  | _ => none

/-- What is told about the verdict. -/
def notices : Verdict → List Notice
  | active _ => []
  | warned _ fault => [.keptAsHints fault]
  | excluded fault => [.excluded fault]

end Verdict

/-- A set of compiled matchers. -/
structure Scanner where
  matchers : List Compiled
  options : ScanOptions
  /-- Why definitions were left out, in order. -/
  excluded : List Fault
  /-- What is wrong with matchers that were kept, in order. -/
  warnings : List Fault

namespace Scanner

/-- The verdicts on definitions that stand from `place` on. -/
def verdicts (strict : Bool) : Nat → List Definition → List Verdict
  | _, [] => []
  | place, d :: rest => .of strict place d :: verdicts strict (place + 1) rest

/-- The scanner of a list of definitions. -/
def ofDefinitions (definitions : List Definition) (options : ScanOptions) : Scanner :=
  let judged := verdicts options.strictSeverity 0 definitions
  { matchers := judged.filterMap (·.matcher?)
    options
    excluded := judged.filterMap (·.exclusion?)
    warnings := judged.filterMap (·.warning?) }

/-- Every definition is compiled without complaint. -/
def isClean (s : Scanner) : Bool :=
  s.excluded.isEmpty && s.warnings.isEmpty

end Scanner

/-- What is told while the definition at `place` is compiled. -/
def Matcher.compileNotices (d : Definition) (place : Nat) : List Notice :=
  match compile d place with
  | .error _ => []
  | .ok m => d.pathNotices m.title

namespace Scanner

/-- What is told while definitions from `place` on are compiled. -/
def notices (strict : Bool) : Nat → List Definition → List Notice
  | _, [] => []
  | place, d :: rest =>
    compileNotices d place ++ (Verdict.of strict place d).notices
      ++ notices strict (place + 1) rest

end Scanner

/-! ## Scans -/

/-- A scan under way. -/
structure Scan where
  matchers : List Compiled
  states : List State
  context : Context
  listing : Listing
  /-- How many lines were scanned. -/
  lines : Nat

namespace Scan

/-- A scan in the given context, with every matcher blank. -/
def start (matchers : List Compiled) (context : Context) : Scan :=
  { matchers
    states := matchers.map fun _ => .blank
    context
    listing := .empty
    lines := 0 }

/-- Hands a line to matchers in order: their states afterwards and the problems
they completed. -/
def advanceAll (line : String) (number : Nat) (context : Context) :
    List Compiled → List State → Except MissingStep (List State × List Emission)
  | m :: ms, s :: ss =>
    match s.advance m line number context with
    | .error fault => .error fault
    | .ok (s, completed) =>
      match advanceAll line number context ms ss with
      | .error fault => .error fault
      | .ok (ss, emissions) => .ok (s :: ss, completed.toList ++ emissions)
  | _, _ => .ok ([], [])

/-- Scans a line. -/
def feed (scan : Scan) (line : String) : Except ScanFault Scan :=
  match advanceAll line scan.lines scan.context scan.matchers scan.states with
  | .error fault => .error (.missingStep fault)
  | .ok (states, emissions) =>
    .ok { scan with states, listing := scan.listing.file emissions, lines := scan.lines + 1 }

/-- The problems still open, in the order of the matchers. -/
def pending (scan : Scan) : List Emission :=
  (List.zipWith (fun s m => (s.flush m).2.toList) scan.states scan.matchers).flatten

/-- Ends the input. -/
def finish (scan : Scan) : ScanOutput :=
  { listing := scan.listing.file scan.pending, linesScanned := scan.lines }

/-- Scans lines, asking before each whether the scan is cancelled. -/
def run (cancelled : Nat → Bool) : Scan → List String → Except ScanFault Scan
  | scan, [] => .ok scan
  | scan, line :: rest =>
    if cancelled scan.lines then .error (.cancelled scan.lines)
    else
      match scan.feed line with
      | .error fault => .error fault
      | .ok scan => run cancelled scan rest

/-- Scans lines, and asks once more before the end. -/
def runToEnd (cancelled : Nat → Bool) (scan : Scan) (lines : List String) :
    Except ScanFault Scan :=
  match scan.run cancelled lines with
  | .error fault => .error fault
  | .ok scan => if cancelled scan.lines then .error (.cancelled scan.lines) else .ok scan

end Scan

/-! ## Lines of octets -/

/-- A line without the line feed at its end and one carriage return before it. -/
def stripLineEnd (line : List UInt8) : List UInt8 :=
  let line := if line.getLast? = some 0x0A then line.dropLast else line
  if line.getLast? = some 0x0D then line.dropLast else line

/-- The pieces of octets up to and with each line feed; `piece` holds the octets of
the piece under way, last first. -/
def linePiecesFrom (piece : List UInt8) : List UInt8 → List (List UInt8)
  | [] => if piece.isEmpty then [] else [piece.reverse]
  | b :: rest =>
    if b = 0x0A then (b :: piece).reverse :: linePiecesFrom [] rest
    else linePiecesFrom (b :: piece) rest

/-- The lines of a stream of octets. -/
def linesOfOctets (octets : List UInt8) : List String :=
  (linePiecesFrom [] octets).map fun piece => Text.Utf8.decodeLossy (stripLineEnd piece)

namespace Scanner

/-- The context of a scan whose input has no path of its own. -/
def context (s : Scanner) : Context :=
  { logPath := s.options.logPath, workspaceRoot := s.options.workspaceRoot }

/-- Starts a scan line by line. -/
def begin (s : Scanner) : Scan :=
  .start s.matchers s.context

/-- Scans lines. -/
def scanLines (s : Scanner) (cancelled : Nat → Bool) (lines : List String) :
    Except ScanFault ScanOutput :=
  (s.begin.run cancelled lines).map (·.finish)

/-- Scans a stream of octets. -/
def scanOctets (s : Scanner) (cancelled : Nat → Bool) (octets : List UInt8) :
    Except ScanFault ScanOutput :=
  (s.begin.runToEnd cancelled (linesOfOctets octets)).map (·.finish)

/-- Scans a file, which becomes the scanned log.  A directory can be opened but not
read, so a scan that is cancelled from the start does not find it out. -/
def scanFile (s : Scanner) (cancelled : Nat → Bool) (files : FileTree) (path : String) :
    Except ScanFault ScanOutput :=
  match files.read path with
  | .ok octets =>
    ((Scan.start s.matchers { s.context with logPath := some path }).runToEnd cancelled
      (linesOfOctets octets)).map (·.finish)
  | .error .isDirectory =>
    if cancelled 0 then .error (.cancelled 0) else .error (.io .isDirectory)
  | .error fault => .error (.io fault)

end Scanner

end LogProblems
