import LogProblems.Document.Json.Reader
import LogProblems.Document.Yaml.Reader
import LogProblems.Files.Tree
import LogProblems.Matcher.Wire
import LogProblems.Settings.Selection

/-!
# Settings documents

The parsers stand under one of three keys of a document, of which the first that is
not null counts; what stands under other keys is passed over.  A document is JSON or
YAML, as the extension of its file tells.
-/

set_option autoImplicit false

namespace LogProblems

open LogProblems.Document LogProblems.Matcher

/-- Why a document cannot be loaded. -/
inductive DocumentFault where
  | json
  | yaml
  | io (fault : IoFault)
  deriving DecidableEq, Repr, Inhabited

/-- The wording of a fault; what is wrong with the text of a document is not told. -/
def DocumentFault.message : DocumentFault → String
  | json => "JSON parse error"
  | yaml => "YAML parse error"
  | io fault => "I/O error: " ++ fault.message

/-- Reads a selection. -/
def Selection.ofNode? (n : Node) : Option Selection := do
  match ← n.fields? ["parser", "matchers"] with
  | [some parser, some matchers] =>
    return { parser := ← parser.text?, matchers := ← (← matchers.items?).mapM Node.text? }
  | _ => none

namespace Settings

/-- Reads parsers by name, each a list of matchers. -/
def parsers? (n : Node) : Option Settings := do
  let entries ← n.entries?
  let parsers ← entries.mapM fun (name, v) => do
    return (name, ← (← v.items?).mapM Definition.ofNode?)
  return { parsers }

/-- Reads the section that holds the parsers under a key of its own. -/
def section? (n : Node) : Option (Option Settings) := do
  match ← n.fields? ["parsers"] with
  | [parsers] => Node.optional parsers? parsers
  | _ => none

/-- Reads a document. -/
def ofNode? (n : Node) : Option Settings := do
  match ← n.fields? ["parsers", "log-problem-matcher.parsers", "log-problem-matcher"] with
  | [parsers, flat, nested] =>
    let parsers ← Node.optional parsers? parsers
    let flat ← Node.optional parsers? flat
    let nested ← Node.optional section? nested
    return ((parsers.or flat).or nested.join).getD {}
  | _ => none

/-- Reads a JSON document. -/
def ofJson (text : String) : Except DocumentFault Settings :=
  match (Json.read text).bind ofNode? with
  | some s => .ok s
  | none => .error .json

/-- Reads a YAML document. -/
def ofYaml (text : String) : Except DocumentFault Settings :=
  match (Yaml.read text).bind ofNode? with
  | some s => .ok s
  | none => .error .yaml

/-- The extension of the last name in a path: what stands behind its last point, unless
that point is its first character. -/
def extension? (path : String) : Option String :=
  match ((path.splitOn "/").filter fun part => !part.isEmpty && part != ".").getLast? with
  | none => none
  | some name =>
    match (name.splitOn ".").reverse with
    | last :: rest =>
      if name == ".." || rest.all (·.isEmpty) && rest.length < 2 then none else some last
    | [] => none

/-- The extension of a YAML file, in letters of any case. -/
def isYamlPath (path : String) : Bool :=
  match extension? path with
  | some ext => ext.toLower == "yaml" || ext.toLower == "yml"
  | none => false

/-- Loads a document from a file. -/
def load (t : FileTree) (path : String) : Except DocumentFault Settings :=
  match t.readText path with
  | .error fault => .error (.io fault)
  | .ok text => if isYamlPath path then ofYaml text else ofJson text

end Settings

end LogProblems
