/-!
# Arguments of the command line

Arguments are read at two levels, the program's and that of the command it is to run.
Each level has options of its own besides those that both know.  An option is written
with two dashes and its whole name, or with one dash and a letter; letters may share a
dash.  A value follows as the next argument, or in the same one: behind an equals sign, or
right behind a letter.  Behind `--` everything is an operand.

A line is refused as soon as it cannot be completed to a right one.
-/

set_option autoImplicit false

namespace LogProblems.CommandLine

/-! ## Options -/

/-- Which values an option takes. -/
inductive Values where
  /-- None: the option is a switch. -/
  | switch
  | text
  /-- Any text but the empty one. -/
  | path
  | oneOf (words : List String)
  deriving DecidableEq, Repr, Inhabited

/-- The option takes this value. -/
def Values.accepts : Values → String → Bool
  | switch, _ => false
  | text, _ => true
  | path, s => !s.isEmpty
  | oneOf words, s => words.contains s

/-- An option of a level. -/
structure Opt where
  name : String
  letter : Option Char := none
  values : Values
  /-- It may be given several times. -/
  repeats : Bool := false
  deriving DecidableEq, Repr, Inhabited

/-- The options that both levels know. -/
def sharedOptions : List Opt :=
  [{ name := "verbose", letter := some 'v', values := .switch },
    { name := "color", values := .oneOf ["auto", "always", "never"] },
    { name := "help", letter := some 'h', values := .switch }]

/-- The options of the program. -/
def programOptions : List Opt :=
  { name := "version", letter := some 'V', values := .switch } :: sharedOptions

/-- The option that names the settings. -/
def settingsOption : Opt :=
  { name := "settings", letter := some 's', values := .path }

/-- The options of the commands that scan. -/
def scanOptions : List Opt :=
  [settingsOption,
    { name := "workspace", letter := some 'w', values := .path },
    { name := "format", letter := some 'f', values := .oneOf ["text", "json"] },
    { name := "session", values := .path },
    { name := "strict-severity", values := .switch },
    { name := "parser", letter := some 'p', values := .text },
    { name := "matcher", letter := some 'm', values := .text, repeats := true }]
  ++ sharedOptions

/-- The options of the command that lists. -/
def listOptions : List Opt :=
  settingsOption :: sharedOptions

/-! ## Reading a level -/

/-- Why no command is run. -/
inductive Stop where
  /-- The line is refused. -/
  | usage
  /-- The version is asked for. -/
  | version
  /-- Help is asked for. -/
  | help
  deriving DecidableEq, Repr, Inhabited

/-- What a level knows: its options, the number of its operands, its commands. -/
structure Level where
  options : List Opt
  operands : Nat := 0
  commands : List String := []
  deriving Repr, Inhabited

/-- What has been given at a level. -/
structure Given where
  /-- Options with their values, in order; a switch has an empty one. -/
  options : List (String × String) := []
  operands : List String := []
  deriving DecidableEq, Repr, Inhabited

namespace Given

/-- An option was given. -/
def has (g : Given) (name : String) : Bool :=
  g.options.any (·.1 == name)

/-- The value of an option. -/
def value? (g : Given) (name : String) : Option String :=
  g.options.lookup name

/-- All values of an option, in order. -/
def values (g : Given) (name : String) : List String :=
  (g.options.filter (·.1 == name)).map (·.2)

/-- Adds an option with a value that it takes; most options are given once. -/
def addOption (g : Given) (o : Opt) (value : String) : Except Stop Given :=
  if !o.values.accepts value || (g.has o.name && !o.repeats) then .error .usage
  else .ok { g with options := g.options ++ [(o.name, value)] }

/-- Adds a switch; two of them end the reading. -/
def addSwitch (g : Given) (o : Opt) : Except Stop Given :=
  if o.name == "help" then .error .help
  else if o.name == "version" then .error .version
  else if g.has o.name then .error .usage
  else .ok { g with options := g.options ++ [(o.name, "")] }

/-- Adds an operand; none is empty, and there are not more than the level takes. -/
def addOperand (g : Given) (l : Level) (value : String) : Except Stop Given :=
  if value.isEmpty || l.operands ≤ g.operands.length then .error .usage
  else .ok { g with operands := g.operands ++ [value] }

end Given

/-- Reads the letters behind a dash; an option at their end may still want its value. -/
def readLetters (l : Level) (g : Given) : List Char → Except Stop (Given × Option Opt)
  | [] => .ok (g, none)
  | c :: rest =>
    match l.options.find? (·.letter == some c) with
    | none => .error .usage
    | some o =>
      if o.values == .switch then
        match g.addSwitch o with
        | .ok g => readLetters l g rest
        | .error stop => .error stop
      else
        match rest with
        | [] => .ok (g, some o)
        | '=' :: value => (g.addOption o (String.ofList value)).map (·, none)
        | value => (g.addOption o (String.ofList value)).map (·, none)

/-- Reads what stands behind two dashes; the option may still want its value. -/
def readName (l : Level) (g : Given) (cs : List Char) : Except Stop (Given × Option Opt) :=
  let name := String.ofList (cs.takeWhile (· != '='))
  match l.options.find? (·.name == name), cs.dropWhile (· != '=') with
  | none, _ => .error .usage
  | some o, [] => if o.values == .switch then (g.addSwitch o).map (·, none) else .ok (g, some o)
  | some o, _ :: value =>
    if o.values == .switch then .error .usage
    else (g.addOption o (String.ofList value)).map (·, none)

/-- Reads operands only. -/
def readOperands (l : Level) (g : Given) : List String → Except Stop Given
  | [] => .ok g
  | a :: rest =>
    match g.addOperand l a with
    | .ok g => readOperands l g rest
    | .error stop => .error stop

/-- Reads arguments up to a command, which is given with the arguments behind it;
`waiting` is the option before that still wants its value. -/
def readLevel (l : Level) (g : Given) (waiting : Option Opt) :
    List String → Except Stop (Given × Option (String × List String))
  | [] => if waiting.isSome then .error .usage else .ok (g, none)
  | a :: rest =>
    let isOption := a.startsWith "-" && a != "-"
    match waiting with
    | some o =>
      if isOption then .error .usage
      else
        match g.addOption o a with
        | .ok g => readLevel l g none rest
        | .error stop => .error stop
    | none =>
      if l.commands.contains a then .ok (g, some (a, rest))
      else if a == "--" then (readOperands l g rest).map (·, none)
      else if isOption then
        let found :=
          match a.toList with
          | '-' :: '-' :: cs => readName l g cs
          | cs => readLetters l g (cs.drop 1)
        match found with
        | .ok (g, waiting) => readLevel l g waiting rest
        | .error stop => .error stop
      else
        match g.addOperand l a with
        | .ok g => readLevel l g none rest
        | .error stop => .error stop

/-! ## Invocations -/

/-- When reports are coloured. -/
inductive ColorChoice where
  /-- On a terminal. -/
  | auto
  | always
  | never
  deriving DecidableEq, Repr, Inhabited

/-- The form of a report. -/
inductive ReportFormat where
  | text
  | json
  deriving DecidableEq, Repr, Inhabited

/-- What the commands that scan are told. -/
structure ScanArguments where
  settings : String
  workspace : Option String := none
  format : ReportFormat := .text
  session : Option String := none
  strictSeverity : Bool := false
  parser : Option String := none
  matchers : List String := []
  deriving DecidableEq, Repr, Inhabited

/-- A command. -/
inductive Command where
  | scan (log : String) (arguments : ScanArguments)
  | rescan (arguments : ScanArguments)
  | list (settings : String)
  deriving DecidableEq, Repr, Inhabited

/-- A whole command line. -/
structure Invocation where
  color : ColorChoice := .auto
  verbose : Bool := false
  command : Command
  deriving DecidableEq, Repr, Inhabited

/-- The choice that a word names. -/
def ColorChoice.ofWord : String → ColorChoice
  | "always" => .always
  | "never" => .never
  | _ => .auto

/-- The arguments of a command that scans. -/
def ScanArguments.ofGiven (g : Given) : Except Stop ScanArguments :=
  match g.value? "settings" with
  | none => .error .usage
  | some settings =>
    .ok {
      settings
      workspace := g.value? "workspace"
      format := if g.value? "format" == some "json" then .json else .text
      session := g.value? "session"
      strictSeverity := g.has "strict-severity"
      parser := g.value? "parser"
      matchers := g.values "matcher" }

/-- The names of the commands. -/
def commandNames : List String :=
  ["scan", "rescan", "list"]

/-- Reads the arguments of a command. -/
def readCommand (name : String) (arguments : List String) : Except Stop (Given × Command) := do
  match name with
  | "scan" =>
    let (g, _) ← readLevel { options := scanOptions, operands := 1 } {} none arguments
    match g.operands with
    | [log] => return (g, .scan log (← ScanArguments.ofGiven g))
    | _ => .error .usage
  | "rescan" =>
    let (g, _) ← readLevel { options := scanOptions } {} none arguments
    return (g, .rescan (← ScanArguments.ofGiven g))
  | "list" =>
    let (g, _) ← readLevel { options := listOptions } {} none arguments
    match g.value? "settings" with
    | some settings => return (g, .list settings)
    | none => .error .usage
  | _ =>
    if arguments.all fun a => (commandNames ++ ["help"]).contains a then .error .help
    else .error .usage

/-- Reads a command line.  What both levels know counts from the inner one first. -/
def Invocation.ofArguments (arguments : List String) : Except Stop Invocation := do
  let level : Level := { options := programOptions, commands := commandNames ++ ["help"] }
  match ← readLevel level {} none arguments with
  | (_, none) => .error .usage
  | (outer, some (name, rest)) =>
    let (inner, command) ← readCommand name rest
    return {
      color := .ofWord (((inner.value? "color").or (outer.value? "color")).getD "auto")
      verbose := inner.has "verbose" || outer.has "verbose"
      command }

end LogProblems.CommandLine
