import LogProblems.Pattern.Regular

/-!
# Searching with an automaton

A regular expression becomes an automaton whose instructions either consume one
character or choose where to go on.  The search follows choices in order and
enters no instruction twice at one position, so its time is linear in the text for
a given expression; a path that comes back to where an earlier one has been gives
way, which decides the captures of nested empty repetitions.

* `Program.budget` bounds the number of steps of a search.
-/

set_option autoImplicit false

namespace LogProblems.Pattern

open LogProblems.Unicode

/-- An instruction of an automaton; targets are places in its program. -/
inductive Instruction where
  /-- Consumes a character of the set. -/
  | consume (set : CharSet) (next : Nat)
  /-- Goes on if the condition holds. -/
  | check (l : Look) (next : Nat)
  /-- Goes on at each target, in order of preference. -/
  | choose (targets : List Nat)
  /-- Notes the position in a slot. -/
  | note (slot next : Nat)
  /-- The whole expression matches. -/
  | accept
  deriving Inhabited

/-- The instructions of an automaton. -/
abbrev Program := Array Instruction

namespace Program

/-- Adds an instruction: its place, and the program with it. -/
def emit (p : Program) (i : Instruction) : Nat × Program :=
  (p.size, p.push i)

/-- A choice between a body and what follows it. -/
def choice (greedy : Bool) (body next : Nat) : Instruction :=
  .choose (if greedy then [body, next] else [next, body])

/-- Applies a builder of copies `n` times, each copy leading to the one before. -/
def copies (build : Nat → Program → Nat × Program) : Nat → Nat → Program → Nat × Program
  | 0, next, p => (next, p)
  | n + 1, next, p =>
    let (start, p) := build next p
    copies build n start p

mutual

/-- Adds the instructions of an expression that is followed by the instruction at
`next`: its first place, and the program with them. -/
def build : Regular → Nat → Program → Nat × Program
  | .empty, next, p => (next, p)
  | .chars set, next, p => emit p (.consume set next)
  | .look l, next, p => emit p (.check l next)
  | .capture group body, next, p =>
    let (close, p) := emit p (.note (2 * group + 1) next)
    let (start, p) := build body close p
    emit p (.note (2 * group) start)
  | .concat parts, next, p => buildAll parts next p
  | .alternation choices, next, p =>
    let (targets, p) := buildEach choices next p
    emit p (.choose targets)
  | .repeated body min max greedy, next, p =>
    let copy := fun next p => build body next p
    match max with
    | some max =>
      let optional := fun after p =>
        let (start, p) := build body after p
        emit p (choice greedy start next)
      let (start, p) := copies optional (max - min) next p
      copies copy min start p
    | none =>
      -- The place of the choice is fixed before the body that leads back to it.
      let loop := p.size
      let (start, p) := build body loop (p.push (.choose []))
      let p := p.set! loop (choice greedy start next)
      match min with
      | 0 => if body.consumes then (loop, p) else emit p (choice greedy start next)
      | 1 => (start, p)
      | min + 2 => copies copy (min + 1) start p

/-- Adds parts in a row. -/
def buildAll : List Regular → Nat → Program → Nat × Program
  | [], next, p => (next, p)
  | r :: rest, next, p =>
    let (start, p) := buildAll rest next p
    build r start p

/-- Adds choices side by side: their first places. -/
def buildEach : List Regular → Nat → Program → List Nat × Program
  | [], _, p => ([], p)
  | r :: rest, next, p =>
    let (start, p) := build r next p
    let (starts, p) := buildEach rest next p
    (start :: starts, p)

end

/-- How many steps an instruction can take at one position. -/
def cost : Instruction → Nat
  | .choose targets => targets.length + 1
  | .note .. => 3
  | _ => 2

/-- A bound on the steps of a search in a text of the given length. -/
def budget (p : Program) (length : Nat) : Nat :=
  (p.foldl (fun n i => n + cost i) 2) * (length + 1) + 1

end Program

/-- An automaton: its program, where it starts, and the number of its groups. -/
structure Automaton where
  program : Program
  start : Nat
  groups : Nat

namespace Automaton

/-- The automaton of an expression with groups numbered below `groups`. -/
def ofRegular (r : Regular) (groups : Nat) : Automaton :=
  let (start, program) := Program.build (.capture 0 r) 0 #[.accept]
  { program, start, groups }

/-- What is left to do in a search. -/
inductive Task where
  /-- Run the instruction at a place from a position on. -/
  | run (place position : Nat)
  /-- Take back what was noted in a slot. -/
  | restore (slot : Nat) (old : Option Nat)

/-- A search under way: where it has been, and what it noted. -/
structure Progress where
  visited : Array Bool
  slots : Array (Option Nat)

/-- Runs tasks in order until the expression matches: the slots then. -/
def runTasks (a : Automaton) (text : Array Char) :
    Nat → List Task → Progress → Progress × Bool
  | 0, _, g => (g, false)
  | _, [], g => (g, false)
  | fuel + 1, .restore slot old :: rest, g =>
    runTasks a text fuel rest { g with slots := g.slots.set! slot old }
  | fuel + 1, .run place position :: rest, g =>
    let mark := place * (text.size + 1) + position
    if g.visited.getD mark true then runTasks a text fuel rest g
    else
      let g := { g with visited := g.visited.set! mark true }
      match a.program[place]? with
      | none => runTasks a text fuel rest g
      | some .accept => (g, true)
      | some (.consume set next) =>
        if text[position]?.any set.contains then
          runTasks a text fuel (.run next (position + 1) :: rest) g
        else runTasks a text fuel rest g
      | some (.check l next) =>
        let before := if position = 0 then none else text[position - 1]?
        if l.holds before text[position]? then
          runTasks a text fuel (.run next position :: rest) g
        else runTasks a text fuel rest g
      | some (.choose targets) =>
        runTasks a text fuel (targets.map (.run · position) ++ rest) g
      | some (.note slot next) =>
        let old := (g.slots[slot]?).join
        runTasks a text fuel (.run next position :: .restore slot old :: rest)
          { g with slots := g.slots.set! slot (some position) }

/-- Searches from each position in turn, `left` of them, the first being `position`. -/
def searchFrom (a : Automaton) (text : Array Char) :
    Nat → Nat → Progress → Option (Array (Option Nat))
  | 0, _, _ => none
  | left + 1, position, g =>
    match runTasks a text (a.program.budget text.size) [.run a.start position] g with
    | (g, true) => some g.slots
    | (g, false) => searchFrom a text left (position + 1) g

/-- The slots of the first match in a text. -/
def search (a : Automaton) (text : Array Char) : Option (Array (Option Nat)) :=
  searchFrom a text (text.size + 1) 0
    { visited := Array.replicate (a.program.size * (text.size + 1)) false
      slots := Array.replicate (2 * a.groups) none }

end Automaton

/-- The text between two positions. -/
def sliceText (text : Array Char) (start stop : Nat) : String :=
  String.ofList (text.extract start stop).toList

/-- The texts between the positions noted in slots `2 * i` and `2 * i + 1`. -/
def groupTexts (text : Array Char) (slots : Array (Option Nat)) (groups : Nat) :
    List (Option String) :=
  (List.range groups).map fun i =>
    match (slots[2 * i]?).join, (slots[2 * i + 1]?).join with
    | some start, some stop => some (sliceText text start stop)
    | _, _ => none

end LogProblems.Pattern
