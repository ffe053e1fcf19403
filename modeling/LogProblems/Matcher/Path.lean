import LogProblems.Diagnostic.Record

/-!
# Which file a problem concerns

A captured path is used as it is, or joined to a base directory; or else every
problem is filed under the scanned log itself and captured paths are ignored.
-/

set_option autoImplicit false

namespace LogProblems.Matcher

/-- The placeholder for the root of the workspace. -/
def workspaceFolder : String := "$\x7bworkspaceFolder\x7d"

/-- The directory relative paths start from. -/
inductive BaseDir where
  /-- The root of the workspace. -/
  | workspace
  /-- A directory given by the author. -/
  | literal (dir : String)
  deriving DecidableEq, Repr, Inhabited

/-- The placeholder, in any ASCII letter case, stands for the workspace. -/
def BaseDir.parse (base : String) : BaseDir :=
  if base.toLower = workspaceFolder.toLower then .workspace else .literal base

/-- How the paths of problems are resolved. -/
inductive PathMode where
  /-- Every problem points at the scanned log. -/
  | logFile
  /-- Captured paths are used as they are. -/
  | absolute
  /-- Captured paths are joined to a base directory. -/
  | relative (base : BaseDir)
  deriving DecidableEq, Repr, Inhabited

/-- The paths a scan is given. -/
structure Context where
  /-- The scanned log, unless it has no name. -/
  logPath : Option String := none
  workspaceRoot : Option String := none
  deriving DecidableEq, Repr, Inhabited

/-- Appends a path to a directory, with a slash between them unless the directory
is empty or ends in one.  A path that starts with a slash stands for itself. -/
def joinPath (dir path : String) : String :=
  if path.startsWith "/" then path
  else if dir.isEmpty || dir.endsWith "/" then dir ++ path
  else dir ++ "/" ++ path

namespace Context

/-- The path of the scanned log. -/
def logFile (c : Context) : String :=
  c.logPath.getD noFile

/-- The directory a base stands for; the placeholder itself when no root is known. -/
def base (c : Context) : BaseDir → String
  | .workspace => c.workspaceRoot.getD workspaceFolder
  | .literal dir => dir

/-- The path a captured text stands for; none when it is empty or when captured
paths are ignored. -/
def resolve (c : Context) (mode : PathMode) (captured : String) : Option String :=
  if captured.isEmpty then none
  else
    match mode with
    | .logFile => none
    | .absolute => some captured
    | .relative base => some (joinPath (c.base base) captured)

end Context

end LogProblems.Matcher
