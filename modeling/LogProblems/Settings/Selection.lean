import LogProblems.Matcher.Definition

/-!
# Parsers and selections

Settings name parsers, each with a list of matchers.  A selection is a parser and
the titles of some of its matchers; a matcher without a title has one that names
its place.  Of two parsers with one name the first is meant.
-/

set_option autoImplicit false

namespace LogProblems

open LogProblems.Matcher

/-- A parser and the titles of the matchers to use. -/
structure Selection where
  parser : String
  matchers : List String
  deriving DecidableEq, Repr, Inhabited

/-- Why nothing can be scanned. -/
inductive SelectionFault where
  | noParsers
  | unknownParser (parser : String)
  | noMatchers (parser : String)
  | nothingSelected (parser : String)
  | noLogFile
  deriving DecidableEq, Repr, Inhabited

/-- The wording of a fault. -/
def SelectionFault.message : SelectionFault → String
  | noParsers =>
    "no parsers are defined; add at least one parser with a problem matcher to the settings"
  | unknownParser p => s!"unknown parser '{p}'"
  | noMatchers p => s!"parser '{p}' defines no problem matchers"
  | nothingSelected p => s!"no problem matcher was selected for parser '{p}'"
  | noLogFile => "no log file was given and none is remembered from a previous scan"

/-- Parsers by name, in the order they are written in. -/
structure Settings where
  parsers : List (String × List Definition) := []
  deriving DecidableEq, Repr, Inhabited

namespace Settings

/-- The names of the parsers. -/
def parserNames (s : Settings) : Except SelectionFault (List String) :=
  if s.parsers.isEmpty then .error .noParsers else .ok (s.parsers.map (·.1))

/-- The first parser. -/
def defaultParser (s : Settings) : Except SelectionFault String :=
  match s.parsers with
  | [] => .error .noParsers
  | (name, _) :: _ => .ok name

/-- The matchers of a parser, of which there is at least one. -/
def matchers (s : Settings) (parser : String) : Except SelectionFault (List Definition) :=
  if s.parsers.isEmpty then .error .noParsers
  else
    match s.parsers.lookup parser with
    | none => .error (.unknownParser parser)
    | some [] => .error (.noMatchers parser)
    | some ds => .ok ds

/-- Matchers with their titles. -/
def titled (ds : List Definition) : List (String × Definition) :=
  ds.mapIdx fun i d => (d.titleAt i, d)

/-- The titles of a parser's matchers. -/
def titles (s : Settings) (parser : String) : Except SelectionFault (List String) :=
  (s.matchers parser).map fun ds => (titled ds).map (·.1)

/-- The matchers of a parser that are selected unless something else is said. -/
def defaultSelection (s : Settings) (parser : String) : Except SelectionFault Selection :=
  (s.matchers parser).map fun ds =>
    { parser, matchers := ((titled ds).filter (·.2.isDefaultSelected)).map (·.1) }

/-- The matchers a selection names, in the order of the settings, each with its title. -/
def select (s : Settings) (selection : Selection) : Except SelectionFault (List Definition) :=
  match s.matchers selection.parser with
  | .error fault => .error fault
  | .ok ds =>
    let chosen := (titled ds).filter fun (title, _) => selection.matchers.contains title
    if chosen.isEmpty then .error (.nothingSelected selection.parser)
    else .ok (chosen.map fun (title, d) => { d with title := some title })

end Settings

end LogProblems
